import Mathlib.Data.List.Chain
import Mathlib.Data.List.DropRight
import Mathlib.Data.List.Induction
import AccessCanvas.Text.Blank

/-!
What trimming and squeezing do to a text. A text is tidy when white space is single spaces and
stands at neither end. Main statement: squeezing leaves exactly the tidy texts alone.
-/

namespace AccessCanvas.Text

theorem pieces_eq_splitOnP (cut : Char → Bool) (text : List Char) :
    pieces cut text = text.splitOnP cut := by
  induction text with
  | nil => rfl
  | cons c rest ih => rw [pieces, List.splitOnP_cons_eq_if_modifyHead, ih]

theorem pieces_append_cut {cut : Char → Bool} {separator : Char} (cuts : cut separator = true)
    (left right : List Char) :
    pieces cut (left ++ separator :: right) = pieces cut left ++ pieces cut right := by
  simp only [pieces_eq_splitOnP]
  exact List.splitOnP_append_cons left right cuts

theorem pieces_of_uncut {cut : Char → Bool} {text : List Char}
    (uncut : ∀ c ∈ text, cut c = false) : pieces cut text = [text] := by
  rw [pieces_eq_splitOnP]
  exact List.splitOnP_eq_singleton uncut

theorem uncut_of_mem_pieces {cut : Char → Bool} {text piece : List Char}
    (member : piece ∈ pieces cut text) : ∀ c ∈ piece, cut c = false := by
  induction text generalizing piece with
  | nil =>
      rw [pieces, List.mem_singleton] at member
      simp [member]
  | cons c rest ih =>
      rw [pieces] at member
      split at member
      · rcases List.mem_cons.mp member with rfl | later
        · simp
        · exact ih later
      · next inside =>
        cases rows : pieces cut rest with
        | nil => exact absurd rows (pieces_ne_nil cut rest)
        | cons row later =>
            rw [rows, List.modifyHead_cons] at member
            rcases List.mem_cons.mp member with rfl | other
            · have head := ih (rows ▸ List.mem_cons_self)
              simp only [List.mem_cons, forall_eq_or_imp]
              exact ⟨by simpa using inside, head⟩
            · exact ih (rows ▸ List.mem_cons_of_mem _ other)

theorem infix_of_mem_pieces {cut : Char → Bool} {text piece : List Char}
    (member : piece ∈ pieces cut text) : piece <:+: text := by
  -- the first piece is a prefix of the text, which an infix alone does not remember
  suffices split : ∃ first later, pieces cut text = first :: later ∧ first <+: text ∧
      ∀ row ∈ later, row <:+: text by
    obtain ⟨first, later, same, front, inside⟩ := split
    rw [same] at member
    rcases List.mem_cons.mp member with rfl | other
    · exact front.isInfix
    · exact inside piece other
  clear member
  induction text with
  | nil => exact ⟨[], [], rfl, List.prefix_rfl, by simp⟩
  | cons c rest ih =>
      obtain ⟨first, later, same, front, inside⟩ := ih
      rw [pieces, same]
      split
      · refine ⟨[], first :: later, rfl, List.nil_prefix, ?_⟩
        intro row member
        rcases List.mem_cons.mp member with rfl | other
        · exact List.infix_cons front.isInfix
        · exact List.infix_cons (inside row other)
      · refine ⟨c :: first, later, rfl, (List.cons_prefix_cons.mpr ⟨rfl, front⟩), ?_⟩
        intro row member
        exact List.infix_cons (inside row member)

structure IsTrimmed (text : List Char) : Prop where
  front : ∀ c ∈ text.head?, isBlank c = false
  back : ∀ c ∈ text.getLast?, isBlank c = false

theorem trimEnd_eq_rdropWhile (text : List Char) : trimEnd text = text.rdropWhile isBlank := rfl

theorem trim_isInfix (text : List Char) : trim text <:+: text := by
  have front : trimEnd (trimStart text) <+: trimStart text := by
    rw [trimEnd_eq_rdropWhile]
    exact List.rdropWhile_prefix isBlank _
  exact front.isInfix.trans (List.dropWhile_suffix isBlank).isInfix

theorem isTrimmed_trim (text : List Char) : IsTrimmed (trim text) := by
  constructor
  · intro c first
    have front : trimEnd (trimStart text) <+: trimStart text := by
      rw [trimEnd_eq_rdropWhile]
      exact List.rdropWhile_prefix isBlank _
    obtain ⟨rest, whole⟩ := front
    have start : c ∈ (trimStart text).head? := by
      rw [← whole, List.head?_append]
      simp [show trimEnd (trimStart text) = trim text from rfl, Option.mem_def.mp first]
    have opened := List.head?_dropWhile_not isBlank text
    rw [← trimStart, Option.mem_def.mp start] at opened
    exact opened
  · intro c final
    have nonempty : trim text ≠ [] := by
      rintro empty
      simp [empty] at final
    have closed : ¬isBlank ((trim text).getLast nonempty) = true :=
      List.rdropWhile_last_not isBlank (trimStart text) nonempty
    rw [Option.mem_def, List.getLast?_eq_some_getLast nonempty, Option.some.injEq] at final
    rw [← final]
    simpa using closed

theorem trim_eq_self {text : List Char} (trimmed : IsTrimmed text) : trim text = text := by
  have front : trimStart text = text := by
    cases text with
    | nil => rfl
    | cons c rest => simp [trimStart, trimmed.front c rfl]
  rw [trim, front, trimEnd_eq_rdropWhile, List.rdropWhile_eq_self_iff]
  intro nonempty
  simp [trimmed.back _ (List.getLast?_eq_some_getLast nonempty)]

theorem trim_cons_of_blank {c : Char} (blank : isBlank c = true) (text : List Char) :
    trim (c :: text) = trim text := by
  simp [trim, trimStart, blank]

theorem trim_append_of_blank {c : Char} (blank : isBlank c = true) (text : List Char) :
    trim (text ++ [c]) = trim text := by
  rw [trim, trim, trimStart, trimStart, List.dropWhile_append]
  split
  · next empty => simp [List.isEmpty_iff.mp empty, trimEnd, blank]
  · simp [trimEnd, blank]

theorem trim_ne_nil {text : List Char} {c : Char} (member : c ∈ text)
    (letter : isBlank c = false) : trim text ≠ [] := by
  intro empty
  rw [trim, trimEnd_eq_rdropWhile, List.rdropWhile_eq_nil_iff] at empty
  have start : trimStart text ≠ [] := by
    rw [trimStart, ne_eq, List.dropWhile_eq_nil_iff]
    intro blank
    simp [blank c member] at letter
  obtain ⟨d, rest, whole⟩ := List.exists_cons_of_ne_nil start
  have opened := List.head?_dropWhile_not isBlank text
  rw [← trimStart, whole, List.head?_cons] at opened
  have blank := empty d (by simp [whole])
  simp [opened] at blank

def IsWord (word : List Char) : Prop :=
  word ≠ [] ∧ ∀ c ∈ word, isBlank c = false

theorem isWord_of_mem_words {text word : List Char} (member : word ∈ words text) :
    IsWord word := by
  rw [words, List.mem_filter] at member
  exact ⟨by simpa using member.2, uncut_of_mem_pieces member.1⟩

theorem words_append_blank {c : Char} (blank : isBlank c = true) (left right : List Char) :
    words (left ++ c :: right) = words left ++ words right := by
  rw [words, pieces_append_cut blank, List.filter_append, ← words, ← words]

theorem words_run_append {run : List Char} (blank : ∀ c ∈ run, isBlank c = true)
    (right : List Char) : words (run ++ right) = words right := by
  induction run with
  | nil => rfl
  | cons c rest ih =>
      rw [List.forall_mem_cons] at blank
      have first : words (c :: (rest ++ right)) = words (rest ++ right) :=
        words_append_blank blank.1 [] (rest ++ right)
      rw [List.cons_append, first, ih blank.2]

theorem words_append_run {run : List Char} (filled : run ≠ [])
    (blank : ∀ c ∈ run, isBlank c = true) (left right : List Char) :
    words (left ++ (run ++ right)) = words left ++ words right := by
  obtain ⟨c, rest, rfl⟩ := List.exists_cons_of_ne_nil filled
  rw [List.forall_mem_cons] at blank
  rw [List.cons_append, words_append_blank blank.1, words_run_append blank.2]

theorem words_of_isWord {word : List Char} (single : IsWord word) : words word = [word] := by
  rw [words, pieces_of_uncut single.2]
  simp [single.1]

theorem words_intercalate {rows : List (List Char)} (each : ∀ row ∈ rows, IsWord row) :
    words ([' '].intercalate rows) = rows := by
  induction rows with
  | nil => rfl
  | cons row later ih =>
      cases later with
      | nil => rw [List.intercalate_singleton, words_of_isWord (each row (by simp))]
      | cons next others =>
          rw [List.intercalate_cons_cons, List.append_assoc, List.singleton_append,
            words_append_blank (by decide), words_of_isWord (each row (by simp)),
            ih fun other member => each other (List.mem_cons_of_mem _ member),
            List.singleton_append]

structure IsSingleSpaced (text : List Char) : Prop where
  space : ∀ c ∈ text, isBlank c = true → c = ' '
  apart : text.IsChain fun left right => isBlank left = false ∨ isBlank right = false

structure IsTidy (text : List Char) : Prop extends IsSingleSpaced text, IsTrimmed text

theorem IsSingleSpaced.part {text part : List Char} (spaced : IsSingleSpaced text)
    (inside : part <:+: text) : IsSingleSpaced part := by
  refine ⟨fun c member => spaced.space c (inside.subset member), ?_⟩
  obtain ⟨left, right, rfl⟩ := inside
  exact spaced.apart.left_of_append.right_of_append

theorem IsSingleSpaced.trim {text : List Char} (spaced : IsSingleSpaced text) :
    IsTidy (trim text) :=
  { spaced.part (trim_isInfix text), isTrimmed_trim text with }

theorem IsTidy.append {left right : List Char} (first : IsTidy left) (second : IsTidy right) :
    IsTidy (left ++ right) where
  space c member := by
    rcases List.mem_append.mp member with here | there
    · exact first.space c here
    · exact second.space c there
  apart := first.apart.append second.apart fun final ends _ _ => Or.inl (first.back final ends)
  front c starts := by
    rw [List.head?_append, Option.mem_def, Option.or_eq_some_iff] at starts
    rcases starts with here | ⟨-, there⟩
    · exact first.front c here
    · exact second.front c there
  back c ends := by
    rw [List.getLast?_append, Option.mem_def, Option.or_eq_some_iff] at ends
    rcases ends with there | ⟨-, here⟩
    · exact second.back c there
    · exact first.back c here

theorem IsTidy.append_space {left right : List Char} (first : IsTidy left) (second : IsTidy right)
    (before : left ≠ []) (after : right ≠ []) : IsTidy (left ++ ' ' :: right) where
  space c member := by
    rcases List.mem_append.mp member with here | there
    · exact first.space c here
    · rcases List.mem_cons.mp there with rfl | later
      · simp
      · exact second.space c later
  apart := by
    refine first.apart.append ?_ fun final ends _ _ => Or.inl (first.back final ends)
    rw [List.isChain_cons]
    exact ⟨fun next starts => Or.inr (second.front next starts), second.apart⟩
  front c starts := by
    obtain ⟨d, rest, rfl⟩ := List.exists_cons_of_ne_nil before
    exact first.front c starts
  back c ends := by
    rw [List.getLast?_append_of_ne_nil _ (by simp), List.getLast?_cons_of_ne_nil after] at ends
    exact second.back c ends

section Parts

variable {left right : List Char}

theorem IsTidy.isTrimmed_left (tidy : IsTidy (left ++ ' ' :: right)) : IsTrimmed left where
  front c starts := tidy.front c (by simp [List.head?_append, Option.mem_def.mp starts])
  back c ends := by
    have apart := (List.isChain_append.mp tidy.apart).2.2 c ends ' ' (by simp)
    exact apart.resolve_right (by decide)

theorem IsTidy.exists_letter_left (tidy : IsTidy (left ++ right)) (filled : left ≠ []) :
    ∃ c ∈ left, isBlank c = false := by
  obtain ⟨c, rest, rfl⟩ := List.exists_cons_of_ne_nil filled
  exact ⟨c, by simp, tidy.front c rfl⟩

theorem IsTidy.exists_letter_right (tidy : IsTidy (left ++ right)) (filled : right ≠ []) :
    ∃ c ∈ right, isBlank c = false := by
  refine ⟨right.getLast filled, List.getLast_mem filled, tidy.back _ ?_⟩
  rw [List.getLast?_append_of_ne_nil _ filled]
  exact List.getLast?_eq_some_getLast filled

theorem IsTidy.from_letter {c d : Char} {rest : List Char} (tidy : IsTidy (c :: d :: rest))
    (letter : isBlank d = false) : IsTidy (d :: rest) :=
  { tidy.part ⟨[c], [], by simp⟩ with
    front := fun next starts => Option.some.inj starts ▸ letter
    back := fun final ends => tidy.back final (by rwa [List.getLast?_cons_cons]) }

theorem IsTidy.after_space {c d : Char} {rest : List Char} (tidy : IsTidy (c :: d :: rest))
    (blank : isBlank d = true) : d = ' ' ∧ rest ≠ [] ∧ IsTidy rest := by
  have more : rest ≠ [] := by
    rintro rfl
    simp [tidy.back d rfl] at blank
  refine ⟨tidy.space d (by simp) blank, more, ?_⟩
  have after := (List.isChain_cons.mp tidy.apart).2
  exact {
    tidy.part ⟨[c, d], [], by simp⟩ with
    front := fun next starts => by
      have apart := (List.isChain_cons.mp after).1 next starts
      simpa [blank] using apart
    back := fun final ends => tidy.back final (by
      rwa [List.getLast?_cons_cons, List.getLast?_cons_of_ne_nil more]) }

end Parts

theorem IsWord.isTidy {word : List Char} (single : IsWord word) : IsTidy word where
  space c member blank := by simp [single.2 c member] at blank
  apart := by
    rw [List.isChain_iff_forall_rel_of_append_cons_cons]
    rintro left right before after rfl
    exact Or.inl (single.2 left (by simp))
  front c starts := single.2 c (List.mem_of_mem_head? starts)
  back c ends := single.2 c (List.mem_of_mem_getLast? ends)

theorem intercalate_cons_ne_nil {row : List Char} (filled : row ≠ []) (separator : List Char)
    (later : List (List Char)) : separator.intercalate (row :: later) ≠ [] := by
  cases later <;> simp [List.intercalate_cons_cons, filled]

theorem isTidy_intercalate {rows : List (List Char)} (each : ∀ row ∈ rows, IsWord row) :
    IsTidy ([' '].intercalate rows) := by
  induction rows with
  | nil => exact ⟨⟨by simp, by simp⟩, ⟨by simp, by simp⟩⟩
  | cons row later ih =>
      have head := each row (by simp)
      have tail := ih fun other member => each other (List.mem_cons_of_mem _ member)
      cases later with
      | nil =>
          rw [List.intercalate_singleton]
          exact head.isTidy
      | cons next others =>
          rw [List.intercalate_cons_cons, List.append_assoc, List.singleton_append]
          exact head.isTidy.append_space tail head.1
            (intercalate_cons_ne_nil (each next (by simp)).1 _ _)

theorem isTidy_squeeze (text : List Char) : IsTidy (squeeze text) :=
  isTidy_intercalate fun _ member => isWord_of_mem_words member

theorem IsTidy.exists_words {text : List Char} (tidy : IsTidy text) :
    ∃ rows, (∀ row ∈ rows, IsWord row) ∧ text = [' '].intercalate rows := by
  induction text using List.twoStepInduction with
  | nil => exact ⟨[], by simp, rfl⟩
  | singleton c => exact ⟨[[c]], by simp [IsWord, tidy.front c rfl], by simp⟩
  | cons_cons c d rest afterSpace afterLetter =>
      have letter : isBlank c = false := tidy.front c rfl
      cases blank : isBlank d with
      | true =>
          obtain ⟨rfl, more, tail⟩ := tidy.after_space blank
          obtain ⟨rows, each, whole⟩ := afterSpace tail
          have filled : rows ≠ [] := by
            rintro rfl
            exact more whole
          refine ⟨[c] :: rows, by simpa [IsWord, letter] using each, ?_⟩
          rw [List.intercalate_cons_of_ne_nil filled, ← whole]
          rfl
      | false =>
          obtain ⟨rows, each, whole⟩ := afterLetter d (tidy.from_letter blank)
          cases rows with
          | nil => simp at whole
          | cons row later =>
              refine ⟨(c :: row) :: later, ?_, ?_⟩
              · intro word member
                rcases List.mem_cons.mp member with rfl | other
                · exact ⟨by simp, by simpa [letter] using (each row (by simp)).2⟩
                · exact each word (List.mem_cons_of_mem _ other)
              · rw [List.intercalate_cons_cons_left, ← whole]

theorem squeeze_eq_self {text : List Char} (tidy : IsTidy text) : squeeze text = text := by
  obtain ⟨rows, each, rfl⟩ := tidy.exists_words
  rw [squeeze, words_intercalate each]

/-- Squeezing leaves alone a text whose white space is single spaces inside it, and no other. -/
theorem squeeze_eq_self_iff {text : List Char} : squeeze text = text ↔ IsTidy text :=
  ⟨fun same => same ▸ isTidy_squeeze text, squeeze_eq_self⟩

end AccessCanvas.Text

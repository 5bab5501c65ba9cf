import Mathlib.Data.List.Induction
import AccessCanvas.Proofs.Text.Spacing

/-!
Trimming and squeezing a text made of others. Main statements: a part is not longer than the whole
when both are trimmed; of two texts with a letter between them each is squeezed on its own, and may
keep a space next to the letter.
-/

namespace AccessCanvas.Text

section Trim

variable {text : List Char}

theorem trimStart_append (filled : text ≠ []) (front : ∀ c ∈ text.head?, isBlank c = false)
    (before : List Char) : trimStart (before ++ text) = trimStart before ++ text := by
  obtain ⟨c, rest, rfl⟩ := List.exists_cons_of_ne_nil filled
  have letter : isBlank c = false := front c rfl
  rw [trimStart, trimStart, List.dropWhile_append]
  split
  · next empty => simp [List.isEmpty_iff.mp empty, letter]
  · rfl

theorem trimEnd_append (filled : text ≠ []) (back : ∀ c ∈ text.getLast?, isBlank c = false)
    (after : List Char) : trimEnd (text ++ after) = text ++ trimEnd after := by
  have turned : trimStart (after.reverse ++ text.reverse) = trimStart after.reverse ++ text.reverse :=
    trimStart_append (by simpa using filled) (by simpa using back) after.reverse
  rw [trimStart, trimStart] at turned
  rw [trimEnd, trimEnd, List.reverse_append, turned, List.reverse_append, List.reverse_reverse]

theorem IsTrimmed.trim_append (trimmed : IsTrimmed text) (filled : text ≠ [])
    (before after : List Char) :
    trim (before ++ text ++ after) = trimStart before ++ text ++ trimEnd after := by
  have back : ∀ c ∈ (trimStart before ++ text).getLast?, isBlank c = false := by
    rw [List.getLast?_append_of_ne_nil _ filled]
    exact trimmed.back
  have front : ∀ c ∈ (text ++ after).head?, isBlank c = false := by
    rw [List.head?_append_of_ne_nil _ filled]
    exact trimmed.front
  rw [trim, List.append_assoc, trimStart_append (by simp [filled]) front, ← List.append_assoc,
    trimEnd_append (by simp [filled]) back]

theorem length_trim_le {part : List Char} (inside : part <:+: text) :
    (trim part).length ≤ (trim text).length := by
  by_cases filled : trim part = []
  · simp [filled]
  · obtain ⟨before, after, rfl⟩ := (trim_isInfix part).trans inside
    rw [(isTrimmed_trim part).trim_append filled, List.length_append, List.length_append]
    omega

end Trim

theorem exists_last_word (text : List Char) :
    ∃ rows word, (∀ c ∈ word, isBlank c = false) ∧
      ∀ after, words (text ++ after) = rows ++ words (word ++ after) := by
  induction text using List.reverseRecOn with
  | nil => exact ⟨[], [], by simp, fun after => rfl⟩
  | append_singleton text c ih =>
      obtain ⟨rows, word, letters, split⟩ := ih
      cases blank : isBlank c with
      | true =>
          refine ⟨words text, [], by simp, fun after => ?_⟩
          rw [List.append_assoc, List.singleton_append, words_append_blank blank, List.nil_append]
      | false =>
          refine ⟨rows, word ++ [c], ?_, fun after => ?_⟩
          · exact List.forall_mem_append.mpr ⟨letters, List.forall_mem_singleton.mpr blank⟩
          · rw [List.append_assoc, List.append_assoc, split]

theorem exists_first_word (text : List Char) :
    ∃ word rows, (∀ c ∈ word, isBlank c = false) ∧
      ∀ before, words (before ++ text) = words (before ++ word) ++ rows := by
  induction text with
  | nil => exact ⟨[], [], by simp, fun before => by simp⟩
  | cons c rest ih =>
      obtain ⟨word, rows, letters, split⟩ := ih
      cases blank : isBlank c with
      | true =>
          refine ⟨[], words rest, by simp, fun before => ?_⟩
          rw [words_append_blank blank, List.append_nil]
      | false =>
          refine ⟨c :: word, rows, List.forall_mem_cons.mpr ⟨blank, letters⟩, fun before => ?_⟩
          rw [List.append_cons, split, List.append_assoc, List.singleton_append]

theorem words_of_letters {word : List Char} (letters : ∀ c ∈ word, isBlank c = false) :
    words word = if word = [] then [] else [word] := by
  split
  · next empty =>
    subst empty
    rfl
  · next filled => exact words_of_isWord ⟨filled, letters⟩

/-- A letter joins the last word before it and the first word after it. -/
theorem exists_words_append_letter {c : Char} (letter : isBlank c = false)
    (left right : List Char) :
    ∃ earlier first last later,
      words (left ++ c :: right) = earlier ++ (first ++ c :: last) :: later ∧
        words left = earlier ++ (if first = [] then [] else [first]) ∧
        words right = (if last = [] then [] else [last]) ++ later := by
  obtain ⟨earlier, first, before, splitLeft⟩ := exists_last_word left
  obtain ⟨last, later, after, splitRight⟩ := exists_first_word right
  have joined : words (first ++ c :: last) = [first ++ c :: last] :=
    words_of_isWord ⟨by simp,
      List.forall_mem_append.mpr ⟨before, List.forall_mem_cons.mpr ⟨letter, after⟩⟩⟩
  refine ⟨earlier, first, last, later, ?_, ?_, ?_⟩
  · have parts := splitRight (first ++ [c])
    simp only [List.append_assoc, List.singleton_append] at parts
    rw [splitLeft, parts, joined, List.singleton_append]
  · rw [← words_of_letters before]
    simpa using splitLeft []
  · rw [← words_of_letters after]
    simpa using splitRight []

theorem intercalate_append_cons (rows later : List (List Char)) (left right : List Char)
    (c : Char) :
    [' '].intercalate (rows ++ (left ++ c :: right) :: later) =
      [' '].intercalate (rows ++ [left]) ++ c :: [' '].intercalate (right :: later) := by
  induction rows with
  | nil => cases later <;> simp [List.intercalate_cons_cons]
  | cons row rows ih =>
      have more : ∀ last others, rows ++ last :: others ≠ [] := by simp
      rw [List.cons_append, List.cons_append, List.intercalate_cons_of_ne_nil (more _ later), ih,
        List.intercalate_cons_of_ne_nil (more left []), List.append_assoc (row ++ [' '])]

theorem intercalate_concat_nil (rows : List (List Char)) :
    [' '].intercalate (rows ++ [[]]) =
      [' '].intercalate rows ++ if rows = [] then [] else [' '] := by
  induction rows with
  | nil => simp
  | cons row rows ih =>
      rw [List.cons_append, List.intercalate_cons_of_ne_nil (by simp), ih]
      cases rows with
      | nil => simp
      | cons next others => simp [List.intercalate_cons_cons]

theorem intercalate_concat (rows : List (List Char)) (row : List Char) :
    let filled := [' '].intercalate (rows ++ if row = [] then [] else [row])
    [' '].intercalate (rows ++ [row]) = filled ∨
      [' '].intercalate (rows ++ [row]) = filled ++ [' '] := by
  cases row with
  | nil =>
      rw [intercalate_concat_nil]
      cases rows <;> simp
  | cons c rest => exact Or.inl rfl

theorem intercalate_cons (row : List Char) (rows : List (List Char)) :
    let filled := [' '].intercalate ((if row = [] then [] else [row]) ++ rows)
    [' '].intercalate (row :: rows) = filled ∨ [' '].intercalate (row :: rows) = ' ' :: filled := by
  cases row with
  | nil => cases rows <;> simp [List.intercalate_cons_cons]
  | cons c rest => exact Or.inl rfl

theorem squeeze_append_letter {c : Char} (letter : isBlank c = false) (left right : List Char) :
    ∃ front back, squeeze (left ++ c :: right) = front ++ c :: back ∧
      (front = squeeze left ∨ front = squeeze left ++ [' ']) ∧
      (back = squeeze right ∨ back = ' ' :: squeeze right) := by
  obtain ⟨earlier, first, last, later, whole, before, after⟩ :=
    exists_words_append_letter letter left right
  refine ⟨[' '].intercalate (earlier ++ [first]), [' '].intercalate (last :: later), ?_, ?_, ?_⟩
  · rw [squeeze, whole, intercalate_append_cons]
  · rw [squeeze, before]
    exact intercalate_concat earlier first
  · rw [squeeze, after]
    exact intercalate_cons last later

theorem exists_row_of_mem_intercalate {rows : List (List Char)} {c : Char}
    (letter : isBlank c = false) (member : c ∈ [' '].intercalate rows) : ∃ row ∈ rows, c ∈ row := by
  induction rows with
  | nil => simp at member
  | cons row rows ih =>
      cases rows with
      | nil => exact ⟨row, by simp, by simpa using member⟩
      | cons next others =>
          rw [List.intercalate_cons_cons, List.mem_append, List.mem_append,
            List.mem_singleton] at member
          rcases member with (here | rfl) | there
          · exact ⟨row, by simp, here⟩
          · exact absurd letter (by decide)
          · obtain ⟨found, belongs, inside⟩ := ih there
            exact ⟨found, List.mem_cons_of_mem row belongs, inside⟩

theorem mem_of_mem_squeeze {text : List Char} {c : Char} (letter : isBlank c = false)
    (member : c ∈ squeeze text) : c ∈ text := by
  obtain ⟨word, belongs, inside⟩ := exists_row_of_mem_intercalate letter member
  exact (infix_of_mem_pieces (List.mem_filter.mp belongs).1).subset inside

end AccessCanvas.Text

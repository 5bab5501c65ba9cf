import AccessCanvas.Proofs.Text.Folding
import AccessCanvas.Query.Basic

/-!
Normal texts and the clauses of a query. Main statements: a normal text is a tidy one of small
characters; every clause of a query is plain, and plain clauses joined again are the clauses.
-/

namespace AccessCanvas.Query

open Text

theorem normalize_eq_intercalate (raw : List Char) :
    normalize raw = [' '].intercalate ((words raw).map fold) := by
  rw [normalize, squeeze, fold_intercalate]

theorem isTidy_normalize (raw : List Char) : IsTidy (normalize raw) := by
  rw [normalize_eq_intercalate]
  refine isTidy_intercalate fun row member => ?_
  obtain ⟨word, belongs, rfl⟩ := List.mem_map.mp member
  exact (isWord_of_mem_words belongs).fold

theorem trim_normalize (raw : List Char) : trim (normalize raw) = normalize raw :=
  trim_eq_self (isTidy_normalize raw).toIsTrimmed

theorem isSmall_of_mem_normalize {raw : List Char} {c : Char} (member : c ∈ normalize raw) :
    IsSmall c :=
  isSmall_of_mem_fold member

theorem normalize_eq_self {text : List Char} (tidy : IsTidy text) (small : ∀ c ∈ text, IsSmall c) :
    normalize text = text := by
  rw [normalize, squeeze_eq_self tidy, fold_eq_self small]

theorem normalize_eq_self_iff {text : List Char} :
    normalize text = text ↔ IsTidy text ∧ ∀ c ∈ text, IsSmall c := by
  constructor
  · intro same
    refine ⟨same ▸ isTidy_normalize text, fun c member => ?_⟩
    rw [← same] at member
    exact isSmall_of_mem_normalize member
  · rintro ⟨tidy, small⟩
    exact normalize_eq_self tidy small

theorem normalize_append {left right : List Char} (first : normalize left = left)
    (second : normalize right = right) : normalize (left ++ right) = left ++ right := by
  rw [normalize_eq_self_iff] at *
  refine ⟨first.1.append second.1, fun c member => ?_⟩
  exact (List.mem_append.mp member).elim (first.2 c) (second.2 c)

theorem normalize_append_space {left right : List Char} (first : normalize left = left)
    (second : normalize right = right) (before : left ≠ []) (after : right ≠ []) :
    normalize (left ++ ' ' :: right) = left ++ ' ' :: right := by
  rw [normalize_eq_self_iff] at *
  refine ⟨first.1.append_space second.1 before after, fun c member => ?_⟩
  rcases List.mem_append.mp member with here | there
  · exact first.2 c here
  · rcases List.mem_cons.mp there with rfl | later
    · exact isBoundary_space.1
    · exact second.2 c later

/-- A text that stands in a query as it is: not empty, normal and without a separator. -/
structure IsPlain (text : List Char) : Prop where
  filled : text ≠ []
  normal : normalize text = text
  whole : separator ∉ text

namespace IsPlain

variable {text : List Char} (plain : IsPlain text)
include plain

theorem isTidy : IsTidy text :=
  (normalize_eq_self_iff.mp plain.normal).1

theorem isSmall : ∀ c ∈ text, IsSmall c :=
  (normalize_eq_self_iff.mp plain.normal).2

theorem trim_eq : trim text = text :=
  trim_eq_self plain.isTidy.toIsTrimmed

theorem fold_eq : fold text = text :=
  fold_eq_self plain.isSmall

theorem trim_part {part : List Char} (inside : part <:+: text) (filled : trim part ≠ []) :
    IsPlain (trim part) where
  filled := filled
  normal := normalize_eq_self (plain.isTidy.part inside).trim fun c member =>
    plain.isSmall c (inside.subset ((trim_isInfix part).subset member))
  whole member := plain.whole (inside.subset ((trim_isInfix part).subset member))

end IsPlain

theorem IsPlain.append {left right : List Char} (first : IsPlain left) (second : IsPlain right) :
    IsPlain (left ++ right) where
  filled := by simp [first.filled]
  normal := normalize_append first.normal second.normal
  whole := by simp [first.whole, second.whole]

theorem IsPlain.append_space {left right : List Char} (first : IsPlain left)
    (second : IsPlain right) : IsPlain (left ++ ' ' :: right) where
  filled := by simp
  normal := normalize_append_space first.normal second.normal first.filled second.filled
  whole := by
    have apart : separator ≠ ' ' := by decide
    simp [first.whole, second.whole, apart]

theorem minClauseLength_le_of_mem_clauses {text clause : List Char}
    (member : clause ∈ clauses text) : minClauseLength ≤ clause.length := by
  rw [clauses, List.mem_filter] at member
  simpa using member.2

theorem isPlain_of_mem_clauses {raw clause : List Char}
    (member : clause ∈ clauses (normalize raw)) : IsPlain clause := by
  have long := minClauseLength_le_of_mem_clauses member
  rw [clauses, List.mem_filter] at member
  obtain ⟨piece, belongs, rfl⟩ := List.mem_map.mp member.1
  have inside := infix_of_mem_pieces belongs
  have uncut := uncut_of_mem_pieces belongs
  refine ⟨?_, ?_, ?_⟩
  · rintro empty
    simp [empty, minClauseLength] at long
  · exact normalize_eq_self ((isTidy_normalize raw).part inside).trim fun c held =>
      isSmall_of_mem_normalize (inside.subset ((trim_isInfix piece).subset held))
  · intro held
    simpa using uncut separator ((trim_isInfix piece).subset held)

theorem pieces_of_not_mem {text : List Char} (absent : separator ∉ text) :
    pieces (· == separator) text = [text] :=
  pieces_of_uncut fun c member => by simpa using ne_of_mem_of_not_mem member absent

theorem pieces_intercalate {first : List Char} {later : List (List Char)}
    (whole : ∀ row ∈ first :: later, separator ∉ row) :
    pieces (· == separator) ([separator, ' '].intercalate (first :: later)) =
      first :: later.map (' ' :: ·) := by
  induction later generalizing first with
  | nil =>
      rw [List.intercalate_singleton, List.map_nil]
      exact pieces_of_not_mem (whole first (by simp))
  | cons next others ih =>
      rw [List.intercalate_cons_cons, List.append_assoc, List.cons_append, List.singleton_append,
        pieces_append_cut (by simp), pieces_of_not_mem (whole first (by simp)), pieces,
        if_neg (by decide), ih fun row member => whole row (List.mem_cons_of_mem _ member)]
      simp

theorem clauses_intercalate {rows : List (List Char)}
    (each : ∀ row ∈ rows, IsPlain row ∧ minClauseLength ≤ row.length) :
    clauses ([separator, ' '].intercalate rows) = rows := by
  cases rows with
  | nil => decide
  | cons first later =>
      have trimmed : ((first :: later.map (' ' :: ·)).map trim) = first :: later := by
        rw [List.map_cons, (each first (by simp)).1.trim_eq, List.map_map]
        congr 1
        conv_rhs => rw [← List.map_id later]
        refine List.map_congr_left fun row member => ?_
        rw [Function.comp_apply, trim_cons_of_blank (by decide),
          (each row (List.mem_cons_of_mem _ member)).1.trim_eq, id]
      rw [clauses, pieces_intercalate fun row member => (each row member).1.whole, trimmed,
        List.filter_eq_self]
      intro row member
      simpa using (each row member).2

theorem normalize_intercalate {rows : List (List Char)} (each : ∀ row ∈ rows, IsPlain row) :
    normalize ([separator, ' '].intercalate rows) = [separator, ' '].intercalate rows := by
  induction rows with
  | nil => decide
  | cons first later ih =>
      have head := each first (by simp)
      have tail := ih fun row member => each row (List.mem_cons_of_mem _ member)
      cases later with
      | nil => rw [List.intercalate_singleton, head.normal]
      | cons next others =>
          have shape : [separator, ' '].intercalate (first :: next :: others) =
              (first ++ [separator]) ++ ' ' :: [separator, ' '].intercalate (next :: others) := by
            simp [List.intercalate_cons_cons]
          rw [shape]
          exact normalize_append_space (normalize_append head.normal (by decide +kernel)) tail
            (by simp) (intercalate_cons_ne_nil (each next (by simp)).filled _ _)

end AccessCanvas.Query

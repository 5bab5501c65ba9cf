import Mathlib.Logic.Relation
import AccessCanvas.Proofs.Query.Conjunction
import AccessCanvas.Proofs.Query.Spelling
import AccessCanvas.Proofs.Text.Recase

/-!
Changes of a query that do not matter. Main statement: a text is read as the same query after any
number of changes to the case of its letters and to the amount of white space between its words, at
its ends and next to its separators.
-/

namespace AccessCanvas

namespace Text

variable {cut : Char → Bool}

theorem pieces_uncut_append {run : List Char} (uncut : ∀ c ∈ run, cut c = false)
    (after : List Char) :
    pieces cut (run ++ after) = (pieces cut after).modifyHead (run ++ ·) := by
  induction run with
  | nil => cases rows : pieces cut after <;> simp [rows]
  | cons c rest ih =>
      rw [List.forall_mem_cons] at uncut
      rw [List.cons_append, pieces, uncut.1, ih uncut.2, if_neg Bool.false_ne_true,
        List.modifyHead_modifyHead]
      rfl

theorem exists_last_piece (before : List Char) :
    ∃ rows last, ∀ after,
      pieces cut (before ++ after) = rows ++ (pieces cut after).modifyHead (last ++ ·) := by
  induction before with
  | nil =>
      refine ⟨[], [], fun after => ?_⟩
      cases rows : pieces cut after <;> simp [rows]
  | cons c rest ih =>
      obtain ⟨rows, last, split⟩ := ih
      cases cuts : cut c with
      | true => exact ⟨[] :: rows, last, fun after => by simp [pieces, cuts, split]⟩
      | false =>
          cases rows with
          | nil =>
              refine ⟨[], c :: last, fun after => ?_⟩
              simp only [List.cons_append, pieces, cuts, split, Bool.false_eq_true, if_false,
                List.nil_append, List.modifyHead_modifyHead]
              rfl
          | cons row later =>
              exact ⟨(c :: row) :: later, last, fun after => by simp [pieces, cuts, split]⟩

end Text

open Text

namespace Query

def normalPieces (raw : List Char) : List (List Char) :=
  (pieces (· == separator) raw).map normalize

theorem parse_of_normalPieces {raw other : String}
    (same : normalPieces raw.toList = normalPieces other.toList) : parse raw = parse other := by
  rw [parse, parse, clauses_normalize, clauses_normalize, ← normalPieces, ← normalPieces, same]

section Run

variable {run : List Char} (blank : ∀ c ∈ run, isBlank c = true)
include blank

theorem uncut_of_blank : ∀ c ∈ run, (c == separator) = false := by
  intro c member
  rw [beq_eq_false_iff_ne]
  rintro rfl
  exact absurd (blank _ member) (by decide)

theorem normalPieces_respaced {other : List Char} (filled : run ≠ []) (otherFilled : other ≠ [])
    (otherBlank : ∀ c ∈ other, isBlank c = true) (before after : List Char) :
    normalPieces (before ++ (run ++ after)) = normalPieces (before ++ (other ++ after)) := by
  -- The white space lies in one piece, between the last one of the text before it and the first
  -- one of the text after it.
  obtain ⟨rows, last, split⟩ := exists_last_piece before
  obtain ⟨first, later, front⟩ :=
    List.exists_cons_of_ne_nil (pieces_ne_nil (· == separator) after)
  rw [normalPieces, normalPieces, split, split, pieces_uncut_append (uncut_of_blank blank),
    pieces_uncut_append (uncut_of_blank otherBlank), front]
  simp only [List.modifyHead_cons, List.map_append, List.map_cons,
    normalize_respaced blank filled otherFilled otherBlank]

theorem normalPieces_run_append (after : List Char) :
    normalPieces (run ++ after) = normalPieces after := by
  obtain ⟨first, later, front⟩ :=
    List.exists_cons_of_ne_nil (pieces_ne_nil (· == separator) after)
  rw [normalPieces, normalPieces, pieces_uncut_append (uncut_of_blank blank), front,
    List.modifyHead_cons, List.map_cons, List.map_cons, normalize_run_append blank]

theorem normalPieces_append_run (before : List Char) :
    normalPieces (before ++ run) = normalPieces before := by
  obtain ⟨rows, last, split⟩ := exists_last_piece before
  have uncut := pieces_of_uncut (uncut_of_blank blank)
  have whole := split []
  rw [List.append_nil] at whole
  rw [normalPieces, normalPieces, split, whole, uncut]
  simp [pieces, normalize_append_run blank]

end Run

theorem normalPieces_append_separator (left right : List Char) :
    normalPieces (left ++ separator :: right) = normalPieces left ++ normalPieces right := by
  rw [normalPieces, pieces_append_cut (by simp), List.map_append, ← normalPieces, ← normalPieces]

/-- One end of a query, or a place next to a separator. -/
def IsEdge (before after : List Char) : Prop :=
  (∀ c ∈ before.getLast?, c = separator) ∨ ∀ c ∈ after.head?, c = separator

theorem normalPieces_padded {run before after : List Char} (blank : ∀ c ∈ run, isBlank c = true)
    (edge : IsEdge before after) :
    normalPieces (before ++ (run ++ after)) = normalPieces (before ++ after) := by
  rcases edge with last | next
  · rcases before.eq_nil_or_concat' with rfl | ⟨front, c, rfl⟩
    · exact normalPieces_run_append blank after
    · obtain rfl : c = separator := last c (by simp)
      rw [List.append_assoc, List.append_assoc, List.singleton_append, List.singleton_append,
        normalPieces_append_separator, normalPieces_append_separator,
        normalPieces_run_append blank]
  · cases after with
    | nil => rw [List.append_nil, List.append_nil, normalPieces_append_run blank]
    | cons c rest =>
        obtain rfl : c = separator := next c rfl
        rw [← List.append_assoc, normalPieces_append_separator, normalPieces_append_separator,
          normalPieces_append_run blank]

theorem normalize_map_toLower (raw : List Char) :
    normalize (raw.map Char.toLower) = normalize raw := by
  rw [normalize_eq_intercalate, normalize_eq_intercalate, words_map isBlank_toLower, List.map_map]
  congr 1
  exact List.map_congr_left fun word _ => fold_map_toLower word

theorem normalPieces_map_toLower (raw : List Char) :
    normalPieces (raw.map Char.toLower) = normalPieces raw := by
  have keeps : ∀ c : Char, (c.toLower == separator) = (c == separator) :=
    @apply_toLower Bool (· == separator) (by decide +kernel)
  rw [normalPieces, normalPieces, pieces_map keeps, List.map_map]
  exact List.map_congr_left fun piece _ => normalize_map_toLower piece

/-- A change of a query that does not matter. -/
inductive Edit : List Char → List Char → Prop
  /-- Letters from A to Z become small or capital. -/
  | recase {raw other : List Char} (same : raw.map Char.toLower = other.map Char.toLower) :
      Edit raw other
  | respace {run other : List Char} (filled : run ≠ []) (blank : ∀ c ∈ run, isBlank c = true)
      (otherFilled : other ≠ []) (otherBlank : ∀ c ∈ other, isBlank c = true)
      (before after : List Char) : Edit (before ++ (run ++ after)) (before ++ (other ++ after))
  | pad {run before after : List Char} (blank : ∀ c ∈ run, isBlank c = true)
      (edge : IsEdge before after) : Edit (before ++ after) (before ++ (run ++ after))

theorem Edit.normalPieces_eq {raw other : List Char} (edit : Edit raw other) :
    normalPieces raw = normalPieces other := by
  cases edit with
  | recase same => rw [← normalPieces_map_toLower raw, same, normalPieces_map_toLower]
  | respace filled blank otherFilled otherBlank before after =>
      exact normalPieces_respaced blank filled otherFilled otherBlank before after
  | pad blank edge => exact (normalPieces_padded blank edge).symm

theorem normalPieces_of_edited {raw other : List Char} (edited : Relation.EqvGen Edit raw other) :
    normalPieces raw = normalPieces other := by
  induction edited with
  | rel raw other edit => exact edit.normalPieces_eq
  | refl raw => rfl
  | symm raw other _ ih => exact ih.symm
  | trans raw middle other _ _ first second => exact first.trans second

theorem parse_of_edited {raw other : String}
    (edited : Relation.EqvGen Edit raw.toList other.toList) : parse raw = parse other :=
  parse_of_normalPieces (normalPieces_of_edited edited)

end Query

end AccessCanvas

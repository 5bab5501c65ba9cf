import AccessCanvas.Proofs.Query.Clause
import AccessCanvas.Proofs.Text.Seams
import AccessCanvas.Query.Basic

/-!
Texts joined by a separator. Main statements: every clause is normalized on its own, so the
statements of two joined texts are those of the first and then those of the second; an artifact
satisfies the joined texts when it satisfies each.
-/

namespace AccessCanvas.Query

open Text

theorem map_trim_pieces_cons_space (text : List Char) :
    (pieces (· == separator) (' ' :: text)).map trim = (pieces (· == separator) text).map trim := by
  obtain ⟨first, later, rows⟩ := List.exists_cons_of_ne_nil (pieces_ne_nil (· == separator) text)
  rw [pieces, if_neg (by decide), rows, List.modifyHead_cons, List.map_cons, List.map_cons,
    trim_cons_of_blank (by decide)]

theorem separator_not_mem_normalize {text : List Char} (absent : separator ∉ text) :
    separator ∉ normalize text :=
  fun member => absent (mem_of_mem_squeeze (by decide)
    (mem_of_mem_fold (Or.inr (Or.inl rfl)) member))

theorem normalize_append_separator (left right : List Char) :
    ∃ front back, normalize (left ++ separator :: right) = front ++ separator :: back ∧
      (front = normalize left ∨ front = normalize left ++ [' ']) ∧
      (back = normalize right ∨ back = ' ' :: normalize right) := by
  obtain ⟨front, back, whole, first, second⟩ :=
    squeeze_append_letter (show isBlank separator = false by decide) left right
  refine ⟨fold front, fold back, ?_, ?_, ?_⟩
  · rw [normalize, whole]
    exact fold_append_boundary isBoundary_semicolon front back
  · refine first.imp (congrArg fold) fun spaced => ?_
    rw [spaced]
    exact fold_append_boundary isBoundary_space (squeeze left) []
  · refine second.imp (congrArg fold) fun spaced => ?_
    rw [spaced]
    exact fold_append_boundary isBoundary_space [] (squeeze right)

/-- White space next to a separator is lost, and each piece is folded without its neighbours. -/
theorem map_trim_pieces_normalize (raw : List Char) :
    (pieces (· == separator) (normalize raw)).map trim =
      (pieces (· == separator) raw).map normalize := by
  -- by recursion on what follows the first separator
  by_cases found : separator ∈ raw
  · obtain ⟨left, right, rfl, absent⟩ := List.eq_append_cons_of_mem found
    obtain ⟨front, back, whole, first, second⟩ := normalize_append_separator left right
    have here : (pieces (· == separator) front).map trim = [normalize left] := by
      have uncut := separator_not_mem_normalize absent
      rcases first with rfl | rfl
      · rw [pieces_of_not_mem uncut, List.map_singleton, trim_normalize]
      · have apart : separator ≠ ' ' := by decide
        rw [pieces_of_not_mem (by simp [uncut, apart]), List.map_singleton,
          trim_append_of_blank (by decide), trim_normalize]
    have there : (pieces (· == separator) back).map trim =
        (pieces (· == separator) (normalize right)).map trim := by
      rcases second with rfl | rfl
      · rfl
      · exact map_trim_pieces_cons_space (normalize right)
    rw [whole, pieces_append_cut (by simp), List.map_append, here, there,
      map_trim_pieces_normalize right, pieces_append_cut (by simp), pieces_of_not_mem absent]
    rfl
  · rw [pieces_of_not_mem found, pieces_of_not_mem (separator_not_mem_normalize found),
      List.map_singleton, List.map_singleton, trim_normalize]
termination_by raw.length
decreasing_by
  simp only [*, List.length_append, List.length_cons]
  omega

theorem clauses_normalize (raw : List Char) :
    clauses (normalize raw) =
      ((pieces (· == separator) raw).map normalize).filter (minClauseLength ≤ ·.length) := by
  rw [clauses, map_trim_pieces_normalize]

-- a capital sigma ends its word at a separator, and white space there is lost
example : (parse "name=ΟΔΟΣ ;\tname=ΣΟΣ;x").map (·.pattern) = ["οδος", "σος"] := by
  decide +kernel

theorem clauses_normalize_append (left right : List Char) :
    clauses (normalize (left ++ separator :: right)) =
      clauses (normalize left) ++ clauses (normalize right) := by
  rw [clauses_normalize, pieces_append_cut (by simp), List.map_append, List.filter_append,
    ← clauses_normalize, ← clauses_normalize]

theorem toList_join (left right : String) :
    (left ++ ";" ++ right).toList = left.toList ++ separator :: right.toList := by
  simp [separator]

/-- A separator between two texts asks for the statements of the first and then of the second. -/
theorem parse_append (left right : String) :
    parse (left ++ ";" ++ right) = parse left ++ parse right := by
  rw [parse, toList_join, clauses_normalize_append, List.map_append]
  rfl

theorem accepts_parse_join (left right : String) (node : Node) :
    (parse (left ++ ";" ++ right)).accepts node =
      ((parse left).accepts node && (parse right).accepts node) := by
  rw [parse, toList_join, clauses_normalize_append, List.map_append, accepts, List.all_append]
  rfl

end AccessCanvas.Query

import AccessCanvas.Policy
import AccessCanvas.Proofs.Query.Conjunction
import AccessCanvas.Proofs.Text.Length

/-!
How many statements a text is read as. Main statement: one for every clause that is long enough as
it was typed, and no others unless folding made a shorter one longer; so a text of one clause that
is long enough to be answered is never read as the query that everything satisfies.
-/

namespace AccessCanvas.Query

open Text

/-- The number of clauses that hold three characters or more as they were typed, white space around
them left out. -/
def longClauses (raw : String) : Nat :=
  (pieces (· == separator) raw.toList).countP fun piece => 3 ≤ (trim piece).length

theorem length_parse (raw : String) : (parse raw).length =
    (pieces (· == separator) raw.toList).countP fun piece =>
      minClauseLength ≤ (normalize piece).length := by
  rw [parse, List.length_map, clauses_normalize, ← List.countP_eq_length_filter, List.countP_map]
  rfl

theorem minClauseLength_le_length_normalize {piece : List Char}
    (long : minClauseLength ≤ (trim piece).length) : minClauseLength ≤ (normalize piece).length := by
  rw [normalize, length_fold]
  exact (three_le_length_squeeze_iff.mpr long).trans (Nat.le_add_right _ _)

theorem minClauseLength_le_length_normalize_iff {piece : List Char} (plain : 'İ' ∉ piece) :
    minClauseLength ≤ (normalize piece).length ↔ minClauseLength ≤ (trim piece).length := by
  have squeezed : 'İ' ∉ squeeze piece := fun member => plain (mem_of_mem_squeeze (by decide) member)
  rw [normalize, length_fold_eq_iff.mpr squeezed]
  exact three_le_length_squeeze_iff

/-- Every clause that is typed with three characters or more is a statement, and there are no others
when folding adds no character. Hence an answered text without a separator is one statement. -/
theorem length_parse_spec (raw : String) :
    ((fold raw.toList).length = raw.toList.length ↔ 'İ' ∉ raw.toList) ∧
    ((fold raw.toList).length = raw.toList.length → (parse raw).length = longClauses raw) ∧
    longClauses raw ≤ (parse raw).length ∧
    ∀ policy : Policy, 3 ≤ policy.minQueryLength → separator ∉ raw.toList →
      policy.answers raw = true → (parse raw).length = 1 := by
  have least : longClauses raw ≤ (parse raw).length := by
    rw [length_parse]
    refine List.countP_mono_left fun piece _ long => ?_
    rw [decide_eq_true_eq] at long ⊢
    exact minClauseLength_le_length_normalize long
  refine ⟨length_fold_eq_iff, fun kept => ?_, least, fun policy strict single answered => ?_⟩
  · rw [length_parse]
    refine List.countP_congr fun piece member => ?_
    have plain : 'İ' ∉ piece := fun dotted =>
      length_fold_eq_iff.mp kept ((infix_of_mem_pieces member).subset dotted)
    rw [decide_eq_true_eq, decide_eq_true_eq]
    exact minClauseLength_le_length_normalize_iff plain
  · have rows := pieces_of_not_mem single
    have long : 3 ≤ (trim raw.toList).length := by
      rw [Policy.answers, decide_eq_true_eq] at answered
      exact strict.trans answered
    have most : (parse raw).length ≤ 1 := by
      rw [length_parse, rows]
      exact List.countP_le_length
    have one : longClauses raw = 1 := by simp [longClauses, rows, long]
    omega

/-- White space between two letters counts, and stays one space between them. -/
theorem length_parse_spec_spaced :
    (parse "a \t b ;xy ; name=SSO").length = 2 ∧ (parse "a \t b").length = 1 := by
  obtain ⟨-, counted, -, -⟩ := length_parse_spec "a \t b ;xy ; name=SSO"
  obtain ⟨-, -, -, answered⟩ := length_parse_spec "a \t b"
  refine ⟨(counted (by decide +kernel)).trans (by decide +kernel), ?_⟩
  exact answered {} (by decide) (by decide) (by decide +kernel)

example : (parse "İx").length = 1 := by decide +kernel

end AccessCanvas.Query

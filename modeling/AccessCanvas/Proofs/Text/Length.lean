import Mathlib.Algebra.GroupWithZero.Nat
import Mathlib.Algebra.Order.BigOperators.Group.List
import Mathlib.Algebra.Order.Group.Nat
import AccessCanvas.Proofs.Text.Seams
import AccessCanvas.Text.Fold

/-!
How long a text is once it is squeezed or folded. Main statements: squeezing a text takes away no
more than trimming leaves, and three characters stay three; folding adds one character for every
capital I with a dot, and takes none away.
-/

namespace AccessCanvas.Text

section Squeezing

theorem length_intercalate_space (rows : List (List Char)) :
    ([' '].intercalate rows).length = (rows.map (·.length + 1)).sum - 1 := by
  induction rows with
  | nil => rfl
  | cons row later ih =>
      cases later with
      | nil => simp
      | cons next others =>
          rw [List.intercalate_cons_cons, List.length_append, ih]
          simp only [List.length_append, List.length_singleton, List.map_cons, List.sum_cons]
          omega

theorem sum_length_pieces (cut : Char → Bool) (text : List Char) :
    ((pieces cut text).map (·.length + 1)).sum = text.length + 1 := by
  induction text with
  | nil => rfl
  | cons c rest ih =>
      rw [pieces]
      split
      · rw [List.map_cons, List.sum_cons, ih, List.length_nil, List.length_cons]
        omega
      · obtain ⟨row, later, rows⟩ := List.exists_cons_of_ne_nil (pieces_ne_nil cut rest)
        rw [rows, List.map_cons, List.sum_cons] at ih
        rw [rows, List.modifyHead_cons, List.map_cons, List.sum_cons, List.length_cons,
          List.length_cons]
        omega

theorem length_squeeze_le_length (text : List Char) : (squeeze text).length ≤ text.length := by
  have kept : (words text).Sublist (pieces isBlank text) := List.filter_sublist
  have fewer := (kept.map (·.length + 1)).sum_le_sum fun _ _ => Nat.zero_le _
  rw [sum_length_pieces] at fewer
  rw [squeeze, length_intercalate_space]
  omega

theorem words_ne_nil {text : List Char} {c : Char} (member : c ∈ text)
    (letter : isBlank c = false) : words text ≠ [] := by
  obtain ⟨left, right, rfl⟩ := List.append_of_mem member
  obtain ⟨earlier, first, last, later, whole, -, -⟩ := exists_words_append_letter letter left right
  rw [whole]
  simp

theorem exists_eq_append_trim (text : List Char) :
    ∃ before after, (∀ c ∈ before, isBlank c = true) ∧ (∀ c ∈ after, isBlank c = true) ∧
      text = before ++ (trim text ++ after) := by
  refine ⟨text.takeWhile isBlank, (trimStart text).rtakeWhile isBlank, ?_, ?_, ?_⟩
  · exact fun c member => List.mem_takeWhile_imp member
  · exact fun c member => List.mem_rtakeWhile_imp member
  · rw [trim, trimEnd_eq_rdropWhile, List.rdropWhile_append_rtakeWhile, trimStart,
      List.takeWhile_append_dropWhile]

theorem words_trim (text : List Char) : words (trim text) = words text := by
  obtain ⟨before, after, front, back, whole⟩ := exists_eq_append_trim text
  conv_rhs => rw [whole, words_run_append front]
  cases after with
  | nil => rw [List.append_nil]
  | cons c rest =>
      have ends := words_append_run (List.cons_ne_nil c rest) back (trim text) []
      rw [List.append_nil] at ends
      rw [ends, show words [] = [] from rfl, List.append_nil]

theorem squeeze_trim (text : List Char) : squeeze (trim text) = squeeze text := by
  rw [squeeze, words_trim, squeeze]

theorem length_squeeze_le (text : List Char) : (squeeze text).length ≤ (trim text).length := by
  rw [← squeeze_trim]
  exact length_squeeze_le_length (trim text)

theorem IsTrimmed.three_le_length_squeeze {left right : List Char} {c : Char}
    (trimmed : IsTrimmed (left ++ c :: right)) (blank : isBlank c = true) :
    3 ≤ (squeeze (left ++ c :: right)).length := by
  have before : words left ≠ [] := by
    cases left with
    | nil => exact absurd (trimmed.front c rfl) (by simp [blank])
    | cons d rest => exact words_ne_nil List.mem_cons_self (trimmed.front d rfl)
  have after : words right ≠ [] := by
    rcases List.eq_nil_or_concat right with rfl | ⟨rest, d, rfl⟩
    · exact absurd (trimmed.back c (by simp)) (by simp [blank])
    · refine words_ne_nil (by simp) (trimmed.back d ?_)
      rw [List.concat_eq_append, ← List.cons_append, ← List.append_assoc]
      exact List.getLast?_concat
  obtain ⟨first, earlier, front⟩ := List.exists_cons_of_ne_nil before
  obtain ⟨last, later, back⟩ := List.exists_cons_of_ne_nil after
  have firstWord : IsWord first := isWord_of_mem_words (front ▸ List.mem_cons_self)
  have lastWord : IsWord last := isWord_of_mem_words (back ▸ List.mem_cons_self)
  have firstLong := List.length_pos_iff.mpr firstWord.1
  have lastLong := List.length_pos_iff.mpr lastWord.1
  rw [squeeze, words_append_blank blank, front, back, length_intercalate_space]
  simp only [List.cons_append, List.map_cons, List.map_append, List.sum_cons, List.sum_append]
  omega

theorem three_le_length_squeeze_iff {text : List Char} :
    3 ≤ (squeeze text).length ↔ 3 ≤ (trim text).length := by
  constructor
  · exact fun long => long.trans (length_squeeze_le text)
  · intro long
    rw [← squeeze_trim]
    by_cases inside : ∃ c ∈ trim text, isBlank c = true
    · obtain ⟨c, member, blank⟩ := inside
      have trimmed := isTrimmed_trim text
      obtain ⟨left, right, whole⟩ := List.append_of_mem member
      rw [whole] at trimmed ⊢
      exact trimmed.three_le_length_squeeze blank
    · have word : IsWord (trim text) := by
        refine ⟨fun empty => ?_, fun c member => ?_⟩
        · simp [empty] at long
        · exact Bool.eq_false_iff.mpr fun blank => inside ⟨c, member, blank⟩
      rwa [squeeze, words_of_isWord word, List.intercalate_singleton]

end Squeezing

section Folding

theorem length_lower (c : Char) : (lower c).length = if c = 'İ' then 2 else 1 := by
  rw [lower]
  split
  · rfl
  · split <;> rfl

theorem length_foldAfter (before text : List Char) :
    (foldAfter before text).length = text.length + text.count 'İ' := by
  induction text generalizing before with
  | nil => rfl
  | cons c after ih =>
      rw [foldAfter, List.length_append, ih, List.length_cons, List.count_cons, lowerBetween]
      by_cases sigma : c = 'Σ'
      · subst sigma
        simp
        omega
      · rw [if_neg sigma, length_lower]
        by_cases dotted : c = 'İ'
        · subst dotted
          simp
          omega
        · simp [dotted]
          omega

theorem length_fold (text : List Char) : (fold text).length = text.length + text.count 'İ' :=
  length_foldAfter [] text

theorem length_fold_eq_iff {text : List Char} :
    (fold text).length = text.length ↔ 'İ' ∉ text := by
  rw [length_fold, Nat.add_eq_left, List.count_eq_zero]

end Folding

end AccessCanvas.Text

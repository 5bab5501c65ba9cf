import AccessCanvas.Proofs.Attributes
import AccessCanvas.Proofs.Text.Context

/-!
Asking for text that was copied from an attribute. Main statement: the artifact is found by a part of
its own attribute just when the part is folded as it is within the attribute. A part that ends in a
capital sigma cut out of a word is not, so the artifact it was copied from is missed.
-/

namespace AccessCanvas

open Text

namespace Statement

theorem accepts_make_iff {key : Attribute} {text : String} {node : Node} {condition : Condition}
    (filled : node.read key ≠ "") :
    (make (.known key) condition text).accepts node = true ↔
      condition.holds (fold (node.read key).toList) (fold text.toList) = true := by
  rw [accepts_make_known, Bool.and_eq_true, bne_iff_ne]
  exact and_iff_right filled

/-- A part of an attribute is found in it, in any case, when it keeps its sigmas, and at either end of
the attribute only then. They are kept by a part without a capital sigma and by one that is not cut
out of a word. The whole attribute is always found. -/
theorem accepts_literal (node : Node) (key : Attribute) (before part after : String)
    (value : node.read key = before ++ part ++ after) (filled : part ≠ "") :
    let accepted (condition : Condition) : Prop :=
      (make (.known key) condition part).accepts node = true
    let kept : Prop := FoldsAlone before.toList part.toList after.toList
    ('Σ' ∉ part.toList → kept) ∧
    (meetsCased before.toList.reverse = false → meetsCased after.toList = false → kept) ∧
    (kept → accepted .has) ∧
    (before = "" → (accepted .startsWith ↔ kept)) ∧
    (after = "" → (accepted .endsWith ↔ kept)) ∧
    (before = "" → after = "" → accepted .equals) := by
  intro accepted kept
  have some : node.read key ≠ "" := by
    intro empty
    rw [value, String.append_eq_empty_iff, String.append_eq_empty_iff] at empty
    exact filled empty.1.2
  have asked : ∀ condition : Condition, accepted condition ↔
      condition.holds (fold (before.toList ++ part.toList ++ after.toList))
        (fold part.toList) = true := by
    intro condition
    rw [← String.toList_append, ← String.toList_append, ← value]
    exact accepts_make_iff some
  refine ⟨foldsAlone_of_not_mem, foldsAlone_of_apart, fun alone => ?_, ?_, ?_, ?_⟩
  · rw [asked, Condition.holds, occursIn_iff]
    exact alone.infix
  · rintro rfl
    rw [asked, Condition.holds, List.isPrefixOf_iff_prefix]
    exact fold_prefix_iff
  · rintro rfl
    rw [asked, Condition.holds, List.isSuffixOf_iff_suffix, String.toList_empty, List.append_nil]
    exact fold_suffix_iff
  · rintro rfl rfl
    rw [asked, Condition.holds, beq_iff_eq, String.toList_empty, List.append_nil, List.nil_append]

/-- A word with a capital sigma at its end is found in a sentence, in which it stands alone too. -/
theorem accepts_literal_word :
    let node := Sample.namedNode "Η ΟΔΟΣ, ΟΔΟΣΗΜΑ"
    node.read .name = "Η " ++ "ΟΔΟΣ" ++ ", ΟΔΟΣΗΜΑ" ∧ "ΟΔΟΣ" ≠ "" ∧
      meetsCased "Η ".toList.reverse = false ∧ meetsCased ", ΟΔΟΣΗΜΑ".toList = false ∧
      (make (.known .name) .has "ΟΔΟΣ").accepts node = true := by
  intro node
  have value : node.read .name = "Η " ++ "ΟΔΟΣ" ++ ", ΟΔΟΣΗΜΑ" := by decide
  have front : meetsCased "Η ".toList.reverse = false := by decide +kernel
  have back : meetsCased ", ΟΔΟΣΗΜΑ".toList = false := by decide +kernel
  obtain ⟨-, apart, has, -⟩ :=
    accepts_literal node .name "Η " "ΟΔΟΣ" ", ΟΔΟΣΗΜΑ" value (by decide)
  exact ⟨value, by decide, front, back, has (apart front back)⟩

/-- The start of a word is missed when it ends in a capital sigma, and so is the end of one that
begins with it: the same sigma is folded in one way inside the word and in another at its end. -/
theorem not_accepts_literal :
    let node := Sample.namedNode "ΑΣΑ"
    node.read .name = "" ++ "ΑΣ" ++ "Α" ∧
      (make (.known .name) .has "ΑΣ").accepts node = false ∧
      (make (.known .name) .startsWith "ΑΣ").accepts node = false ∧
      (Sample.namedNode "ΑΣ").read .name = "Α" ++ "Σ" ++ "" ∧
      (make (.known .name) .endsWith "Σ").accepts (Sample.namedNode "ΑΣ") = false := by
  decide +kernel

end Statement

end AccessCanvas

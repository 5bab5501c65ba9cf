import Mathlib.Data.List.Infix
import AccessCanvas.Text.Fold

/-!
What folding makes of a part of a text. Main statement: the part becomes what it becomes on its own
just when each of its capital sigmas ends a word in both places, or in neither.
-/

namespace AccessCanvas.Text

def foldBetween (before after : List Char) : List Char → List Char
  | [] => []
  | c :: rest => lowerBetween before c (rest ++ after) ++ foldBetween (c :: before) after rest

theorem foldAfter_append (before part after : List Char) :
    foldAfter before (part ++ after) =
      foldBetween before after part ++ foldAfter (part.reverse ++ before) after := by
  induction part generalizing before with
  | nil => rfl
  | cons c rest ih =>
      rw [List.cons_append, foldAfter, ih, foldBetween, List.append_assoc, List.reverse_cons,
        List.append_assoc, List.singleton_append]

theorem foldBetween_alone (part : List Char) : foldBetween [] [] part = fold part := by
  have whole := foldAfter_append [] part []
  rw [foldAfter, List.append_nil, List.append_nil] at whole
  exact whole.symm

theorem fold_append_append (before part after : List Char) :
    fold (before ++ part ++ after) =
      foldBetween [] (part ++ after) before ++ foldBetween before.reverse after part ++
        foldAfter (part.reverse ++ before.reverse) after := by
  rw [fold, List.append_assoc, foldAfter_append, List.append_nil, foldAfter_append,
    List.append_assoc]

theorem length_lowerBetween (c : Char) (before after other behind : List Char) :
    (lowerBetween before c after).length = (lowerBetween other c behind).length := by
  rw [lowerBetween, lowerBetween]
  split <;> rfl

theorem length_foldBetween (part before after other behind : List Char) :
    (foldBetween before after part).length = (foldBetween other behind part).length := by
  induction part generalizing before other with
  | nil => rfl
  | cons c rest ih =>
      rw [foldBetween, foldBetween, List.length_append, List.length_append,
        ih (c :: before) (c :: other), length_lowerBetween c before (rest ++ after) other
          (rest ++ behind)]

theorem lowerBetween_eq_iff {c : Char} {before after other behind : List Char} :
    lowerBetween before c after = lowerBetween other c behind ↔
      (c = 'Σ' → endsWord before after = endsWord other behind) := by
  rw [lowerBetween, lowerBetween]
  by_cases sigma : c = 'Σ'
  · have apart : 'ς' ≠ 'σ' := by decide
    cases endsWord before after <;> cases endsWord other behind <;> simp [sigma, apart, apart.symm]
  · simp [sigma]

theorem foldBetween_eq_iff {part before after other behind : List Char} :
    foldBetween before after part = foldBetween other behind part ↔
      ∀ left right, part = left ++ 'Σ' :: right →
        endsWord (left.reverse ++ before) (right ++ after) =
          endsWord (left.reverse ++ other) (right ++ behind) := by
  induction part generalizing before other with
  | nil => simp [foldBetween]
  | cons c rest ih =>
      rw [foldBetween, foldBetween]
      constructor
      · intro same left right split
        -- A character is folded to as many characters in either place.
        obtain ⟨head, tail⟩ := List.append_inj same
          (length_lowerBetween c before (rest ++ after) other (rest ++ behind))
        cases left with
        | nil =>
            obtain ⟨sigma, rfl⟩ := List.cons.inj split
            exact lowerBetween_eq_iff.mp head sigma
        | cons d later =>
            obtain ⟨rfl, inner⟩ := List.cons.inj split
            simpa using ih.mp tail later right inner
      · intro each
        have head : lowerBetween before c (rest ++ after) = lowerBetween other c (rest ++ behind) :=
          lowerBetween_eq_iff.mpr fun sigma => each [] rest (by rw [sigma]; rfl)
        have tail : foldBetween (c :: before) after rest = foldBetween (c :: other) behind rest :=
          ih.mpr fun left right inner => by
            simpa using each (c :: left) right (by rw [inner]; rfl)
        rw [head, tail]

/-- Every capital sigma of the part ends a word between the two other texts just when it ends one in
the part alone. -/
def FoldsAlone (before part after : List Char) : Prop :=
  ∀ left right, part = left ++ 'Σ' :: right →
    endsWord (left.reverse ++ before.reverse) (right ++ after) = endsWord left.reverse right

theorem foldsAlone_iff {before part after : List Char} :
    FoldsAlone before part after ↔ foldBetween before.reverse after part = fold part := by
  rw [← foldBetween_alone, foldBetween_eq_iff]
  simp only [FoldsAlone, List.append_nil]

theorem foldsAlone_of_not_mem {before part after : List Char} (plain : 'Σ' ∉ part) :
    FoldsAlone before part after := by
  rintro left right rfl
  simp at plain

theorem meetsCased_append {near far : List Char} (apart : meetsCased far = false) :
    meetsCased (near ++ far) = meetsCased near := by
  induction near with
  | nil => exact apart
  | cons c rest ih => simp only [List.cons_append, meetsCased, ih]

theorem foldsAlone_of_apart {before part after : List Char}
    (front : meetsCased before.reverse = false) (back : meetsCased after = false) :
    FoldsAlone before part after := by
  intro left right _
  rw [endsWord, endsWord, meetsCased_append front, meetsCased_append back]

theorem length_foldBetween_eq (before part after : List Char) :
    (foldBetween before after part).length = (fold part).length := by
  rw [← foldBetween_alone, length_foldBetween part before after [] []]

section Found

variable {before part after : List Char}

theorem FoldsAlone.infix (alone : FoldsAlone before part after) :
    fold part <:+: fold (before ++ part ++ after) := by
  rw [fold_append_append, foldsAlone_iff.mp alone]
  exact List.infix_append _ _ _

theorem fold_prefix_iff : fold part <+: fold (part ++ after) ↔ FoldsAlone [] part after := by
  have whole := fold_append_append [] part after
  rw [foldBetween, List.nil_append, List.nil_append] at whole
  rw [foldsAlone_iff, whole]
  constructor
  · intro starts
    have size := length_foldBetween_eq [].reverse part after
    exact (List.prefix_of_prefix_length_le (List.prefix_append _ _) starts size.le).eq_of_length size
  · intro same
    rw [same]
    exact List.prefix_append _ _

theorem fold_suffix_iff : fold part <:+ fold (before ++ part) ↔ FoldsAlone before part [] := by
  have whole := fold_append_append before part []
  rw [foldAfter, List.append_nil, List.append_nil] at whole
  rw [foldsAlone_iff, whole]
  constructor
  · intro ends
    have size := length_foldBetween_eq before.reverse part []
    exact (List.suffix_of_suffix_length_le (List.suffix_append _ _) ends size.le).eq_of_length size
  · intro same
    rw [same]
    exact List.suffix_append _ _

end Found

end AccessCanvas.Text

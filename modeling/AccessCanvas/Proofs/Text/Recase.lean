import AccessCanvas.Proofs.Text.Spacing
import AccessCanvas.Text.Fold

/-!
Texts in capitals and in small letters. Main statements: a change of characters that keeps where a
text is cut goes through the cutting; folding makes no difference between a letter from A to Z and its
small form, not even for the sigmas next to it.
-/

namespace AccessCanvas.Text

section Cut

variable {cut : Char → Bool} {change : Char → Char}

theorem pieces_map (keeps : ∀ c, cut (change c) = cut c) (text : List Char) :
    pieces cut (text.map change) = (pieces cut text).map (List.map change) := by
  induction text with
  | nil => rfl
  | cons c rest ih =>
      rw [List.map_cons, pieces, pieces, keeps, ih]
      split
      · rfl
      · cases pieces cut rest <;> rfl

theorem words_map (keeps : ∀ c, isBlank (change c) = isBlank c) (text : List Char) :
    words (text.map change) = (words text).map (List.map change) := by
  have filled : (fun word : List Char => !(word.map change).isEmpty) = fun word => !word.isEmpty := by
    funext word
    cases word <;> rfl
  rw [words, words, pieces_map keeps, List.filter_map]
  exact congrArg (fun filled => ((pieces isBlank text).filter filled).map (List.map change)) filled

end Cut

/-- What is the same for the 26 capitals and their small letters is so for all characters. -/
theorem apply_toLower {f : Char → α}
    (letters : ∀ n < 26, f (Char.ofNat (65 + n)).toLower = f (Char.ofNat (65 + n))) (c : Char) :
    f c.toLower = f c := by
  by_cases capital : c.val ≥ 'A'.val ∧ c.val ≤ 'Z'.val
  · have low : 65 ≤ c.toNat := capital.1
    have high : c.toNat ≤ 90 := capital.2
    have number : Char.ofNat (65 + (c.toNat - 65)) = c := by
      rw [Nat.add_sub_cancel' low, Char.ofNat_toNat]
    have same := letters (c.toNat - 65) (by omega)
    rwa [number] at same
  · exact congrArg f (dif_neg capital)

theorem lower_toLower (c : Char) : lower c.toLower = lower c :=
  apply_toLower (by decide +kernel) c

theorem isCased_toLower (c : Char) : isCased c.toLower = isCased c :=
  apply_toLower (by decide +kernel) c

theorem isCaseIgnorable_toLower (c : Char) : isCaseIgnorable c.toLower = isCaseIgnorable c :=
  apply_toLower (by decide +kernel) c

theorem isBlank_toLower (c : Char) : isBlank c.toLower = isBlank c :=
  apply_toLower (by decide +kernel) c

theorem toLower_eq_sigma_iff (c : Char) : c.toLower = 'Σ' ↔ c = 'Σ' := by
  have same : decide (c.toLower = 'Σ') = decide (c = 'Σ') :=
    @apply_toLower Bool (fun d => decide (d = 'Σ')) (by decide +kernel) c
  simpa using same

theorem meetsCased_map_toLower (text : List Char) :
    meetsCased (text.map Char.toLower) = meetsCased text := by
  induction text with
  | nil => rfl
  | cons c rest ih =>
      rw [List.map_cons, meetsCased, meetsCased, isCaseIgnorable_toLower, isCased_toLower, ih]

theorem foldAfter_map_toLower (before text : List Char) :
    foldAfter (before.map Char.toLower) (text.map Char.toLower) = foldAfter before text := by
  induction text generalizing before with
  | nil => rfl
  | cons c after ih =>
      have head : lowerBetween (before.map Char.toLower) c.toLower (after.map Char.toLower) =
          lowerBetween before c after := by
        rw [lowerBetween, lowerBetween, lower_toLower, endsWord, endsWord, meetsCased_map_toLower,
          meetsCased_map_toLower]
        exact if_congr (toLower_eq_sigma_iff c) rfl rfl
      rw [List.map_cons, foldAfter, foldAfter, head, ← List.map_cons, ih]

theorem fold_map_toLower (text : List Char) : fold (text.map Char.toLower) = fold text :=
  foldAfter_map_toLower [] text

end AccessCanvas.Text

import AccessCanvas.Proofs.Text.Spacing
import AccessCanvas.Text.Strings

/-!
Folding and the characters that hold a query together. Main statements: folding makes no white
space and none of the signs of the query syntax, and what stands on one side of a space, a
separator or a sign is folded without regard to the other side.
-/

namespace AccessCanvas.Text

def markRanges : List (Nat × Nat) :=
  blankRanges ++ [(0x21, 0x21), (0x3B, 0x3B), (0x3D, 0x3D)]

def IsMark (c : Char) : Prop :=
  isBlank c = true ∨ c = ';' ∨ c = '=' ∨ c = '!'

instance (c : Char) : Decidable (IsMark c) := by
  unfold IsMark
  infer_instance

def CaseRun.avoids (run : CaseRun) (range : Nat × Nat) : Bool :=
  ((run.last + 1).ble range.1 || (range.2 + 1).ble run.first) &&
    ((run.image + (run.last - run.first) + 1).ble range.1 || (range.2 + 1).ble run.image)

theorem avoids_caseRuns : (caseRuns.all fun run => markRanges.all run.avoids) = true := by
  decide +kernel

theorem IsMark.exists_range {c : Char} (mark : IsMark c) :
    ∃ range ∈ markRanges, range.1 ≤ c.toNat ∧ c.toNat ≤ range.2 := by
  rcases mark with blank | rfl | rfl | rfl
  · obtain ⟨range, member, bounds⟩ := covered_of_mem blank
    exact ⟨range, List.mem_append_left _ member, bounds⟩
  all_goals decide

theorem not_mark_of_smallCode? {code small : Nat} {c : Char} (mark : IsMark c)
    (found : smallCode? caseRuns code = some small) : code ≠ c.toNat ∧ small ≠ c.toNat := by
  obtain ⟨run, member, holds, image⟩ := exists_run_of_smallCode? found
  obtain ⟨range, belongs, bounds⟩ := mark.exists_range
  have avoids := List.all_eq_true.mp (List.all_eq_true.mp avoids_caseRuns run member) range belongs
  have imageBounds := image_bounds image
  simp only [CaseRun.holds, CaseRun.avoids, Bool.and_eq_true, Bool.or_eq_true, Nat.ble_eq]
    at holds avoids
  omega

theorem eq_of_mem_lower {c d : Char} (mark : IsMark d) (member : d ∈ lower c) : d = c := by
  rw [lower] at member
  split at member
  · simp only [List.mem_cons, List.not_mem_nil, or_false] at member
    rcases member with rfl | rfl <;> exact absurd mark (by decide)
  · split at member
    · next small found =>
      rw [List.mem_singleton] at member
      have number := toNat_ofNat (smallCode?_image found).2.2.2
      exact absurd (member ▸ number).symm (not_mark_of_smallCode? mark found).2
    · exact List.mem_singleton.mp member

theorem eq_of_mem_lowerBetween {before after : List Char} {c d : Char} (mark : IsMark d)
    (member : d ∈ lowerBetween before c after) : d = c := by
  rw [lowerBetween] at member
  split at member
  · rw [List.mem_singleton] at member
    subst member
    split at mark <;> exact absurd mark (by decide)
  · exact eq_of_mem_lower mark member

theorem mem_of_mem_foldAfter {before text : List Char} {d : Char} (mark : IsMark d)
    (member : d ∈ foldAfter before text) : d ∈ text := by
  induction text generalizing before with
  | nil => simp [foldAfter] at member
  | cons c after ih =>
      rw [foldAfter, List.mem_append] at member
      rcases member with here | later
      · exact eq_of_mem_lowerBetween mark here ▸ List.mem_cons_self
      · exact List.mem_cons_of_mem _ (ih later)

theorem mem_of_mem_fold {text : List Char} {d : Char} (mark : IsMark d) (member : d ∈ fold text) :
    d ∈ text :=
  mem_of_mem_foldAfter mark member

theorem lowerBetween_ne_nil (before : List Char) (c : Char) (after : List Char) :
    lowerBetween before c after ≠ [] := by
  rw [lowerBetween, lower]
  split
  · simp
  · split
    · simp
    · split <;> simp

theorem foldAfter_ne_nil {before text : List Char} (filled : text ≠ []) :
    foldAfter before text ≠ [] := by
  obtain ⟨c, after, rfl⟩ := List.exists_cons_of_ne_nil filled
  rw [foldAfter]
  exact List.append_ne_nil_of_left_ne_nil (lowerBetween_ne_nil before c after) _

theorem IsWord.fold {word : List Char} (single : IsWord word) : IsWord (fold word) := by
  refine ⟨foldAfter_ne_nil single.1, fun d member => ?_⟩
  cases blank : isBlank d with
  | false => rfl
  | true =>
      have original := single.2 d (mem_of_mem_fold (Or.inl blank) member)
      rw [blank] at original
      cases original

theorem mem_getLast?_of_foldAfter {before text : List Char} {d : Char} (mark : IsMark d)
    (final : d ∈ (foldAfter before text).getLast?) : d ∈ text.getLast? := by
  -- no character is folded to nothing, so a folded text ends in what its last character becomes
  induction text generalizing before with
  | nil => simp [foldAfter] at final
  | cons c after ih =>
      rw [foldAfter] at final
      cases after with
      | nil =>
          rw [foldAfter, List.append_nil] at final
          exact (eq_of_mem_lowerBetween mark (List.mem_of_mem_getLast? final)).symm ▸ rfl
      | cons next later =>
          rw [List.getLast?_append_of_ne_nil _ (foldAfter_ne_nil (by simp))] at final
          rw [List.getLast?_cons_cons]
          exact ih final

theorem mem_getLast?_of_fold {text : List Char} {d : Char} (mark : IsMark d)
    (final : d ∈ (fold text).getLast?) : d ∈ text.getLast? :=
  mem_getLast?_of_foldAfter mark final

theorem mem_head?_of_fold {text : List Char} {d : Char} (mark : IsMark d)
    (starts : d ∈ (fold text).head?) : d ∈ text.head? := by
  cases text with
  | nil => cases starts
  | cons c after =>
      have filled := lowerBetween_ne_nil [] c after
      rw [Text.fold, foldAfter, List.head?_append_of_ne_nil _ filled] at starts
      exact (eq_of_mem_lowerBetween mark (List.mem_of_mem_head? starts)).symm ▸ rfl

theorem IsTrimmed.fold {text : List Char} (trimmed : IsTrimmed text) : IsTrimmed (fold text) where
  front d starts := by
    cases blank : isBlank d with
    | false => rfl
    | true => rw [← blank, trimmed.front d (mem_head?_of_fold (Or.inl blank) starts)]
  back d final := by
    cases blank : isBlank d with
    | false => rfl
    | true => rw [← blank, trimmed.back d (mem_getLast?_of_fold (Or.inl blank) final)]

theorem folded_trimmed_folded_trimmed (text : String) :
    folded (trimmed (folded (trimmed text))) = folded (trimmed text) := by
  have ends : trim (fold (trim text.toList)) = fold (trim text.toList) :=
    trim_eq_self (isTrimmed_trim text.toList).fold
  simp [folded, trimmed, ends, fold_fold]

/-- A character past which the search for a letter with case does not look. -/
def IsBoundary (c : Char) : Prop :=
  IsSmall c ∧ isCased c = false ∧ isCaseIgnorable c = false

instance (c : Char) : Decidable (IsBoundary c) := by
  unfold IsBoundary
  infer_instance

theorem isBoundary_space : IsBoundary ' ' := by decide +kernel

theorem isBoundary_semicolon : IsBoundary ';' := by decide +kernel

theorem isBoundary_equals : IsBoundary '=' := by decide +kernel

theorem isBoundary_exclamation : IsBoundary '!' := by decide +kernel

section Boundary

variable {boundary : Char} (limits : IsBoundary boundary)
include limits

theorem meetsCased_append_boundary (near far : List Char) :
    meetsCased (near ++ boundary :: far) = meetsCased near := by
  induction near with
  | nil => simp [meetsCased, limits.2.1, limits.2.2]
  | cons c rest ih => simp only [List.cons_append, meetsCased, ih]

theorem lowerBetween_boundary (near far after : List Char) (c : Char) :
    lowerBetween (near ++ boundary :: far) c after = lowerBetween near c after := by
  rw [lowerBetween, lowerBetween, endsWord, endsWord, meetsCased_append_boundary limits]

theorem lowerBetween_append_boundary (before near far : List Char) (c : Char) :
    lowerBetween before c (near ++ boundary :: far) = lowerBetween before c near := by
  rw [lowerBetween, lowerBetween, endsWord, endsWord, meetsCased_append_boundary limits]

theorem foldAfter_boundary (near far text : List Char) :
    foldAfter (near ++ boundary :: far) text = foldAfter near text := by
  induction text generalizing near with
  | nil => rfl
  | cons c after ih =>
      rw [foldAfter, foldAfter, ← List.cons_append, ih, lowerBetween_boundary limits]

theorem foldAfter_append_boundary (before left right : List Char) :
    foldAfter before (left ++ boundary :: right) =
      foldAfter before left ++ boundary :: fold right := by
  induction left generalizing before with
  | nil =>
      have rest : foldAfter (boundary :: before) right = fold right :=
        foldAfter_boundary limits [] before right
      change lowerBetween before boundary right ++ foldAfter (boundary :: before) right =
        boundary :: fold right
      rw [rest, lowerBetween, if_neg limits.1.1, limits.1.2, List.singleton_append]
  | cons c later ih =>
      rw [List.cons_append, foldAfter, foldAfter, ih, List.append_assoc,
        lowerBetween_append_boundary limits]

theorem fold_append_boundary (left right : List Char) :
    fold (left ++ boundary :: right) = fold left ++ boundary :: fold right :=
  foldAfter_append_boundary limits [] left right

end Boundary

theorem fold_boundaries_append {marks : List Char} (limits : ∀ c ∈ marks, IsBoundary c)
    (right : List Char) : fold (marks ++ right) = marks ++ fold right := by
  induction marks with
  | nil => rfl
  | cons c rest ih =>
      rw [List.forall_mem_cons] at limits
      have first := fold_append_boundary limits.1 [] (rest ++ right)
      rw [ih limits.2] at first
      exact first

theorem fold_append_boundaries {marks : List Char} (limits : ∀ c ∈ marks, IsBoundary c)
    (filled : marks ≠ []) (left right : List Char) :
    fold (left ++ (marks ++ right)) = fold left ++ (marks ++ fold right) := by
  obtain ⟨c, rest, rfl⟩ := List.exists_cons_of_ne_nil filled
  rw [List.forall_mem_cons] at limits
  rw [List.cons_append, fold_append_boundary limits.1, fold_boundaries_append limits.2,
    List.cons_append]

theorem fold_intercalate (rows : List (List Char)) :
    fold ([' '].intercalate rows) = [' '].intercalate (rows.map fold) := by
  induction rows with
  | nil => rfl
  | cons row later ih =>
      cases later with
      | nil => simp
      | cons next others =>
          rw [List.intercalate_cons_cons, List.append_assoc, List.singleton_append,
            fold_append_boundary isBoundary_space, ih]
          simp [List.intercalate_cons_cons]

end AccessCanvas.Text

import AccessCanvas.Text.Blank
import AccessCanvas.Text.CaseRuns
import AccessCanvas.Text.WordMarks

/-!
Case folding: every character becomes its small letter, and a capital sigma at the end of a word
becomes the final one. Main statement: folding a folded text changes nothing.
-/

namespace AccessCanvas.Text

def isCased (c : Char) : Bool :=
  covered casedRanges c.toNat

def isCaseIgnorable (c : Char) : Bool :=
  covered caseIgnorableRanges c.toNat

def smallCode? : List CaseRun → Nat → Option Nat
  | [], _ => none
  | run :: later, code =>
    if code < run.first then none
    else if code ≤ run.last then
      if (code - run.first) % run.stride = 0 then some (run.image + (code - run.first)) else none
    else smallCode? later code

/-- The small form of a character whatever stands around it. The dotted capital I keeps its dot. -/
def lower (c : Char) : List Char :=
  if c = 'İ' then ['i', '\u0307']
  else match smallCode? caseRuns c.toNat with
    | some code => [Char.ofNat code]
    | none => [c]

def meetsCased : List Char → Bool
  | [] => false
  | c :: rest => if isCaseIgnorable c then meetsCased rest else isCased c

/-- Whether a letter ends a word: there is one with case before it and none after it. The text
before the letter is read backwards. -/
def endsWord (before after : List Char) : Bool :=
  meetsCased before && !meetsCased after

def lowerBetween (before : List Char) (c : Char) (after : List Char) : List Char :=
  if c = 'Σ' then [if endsWord before after then 'ς' else 'σ'] else lower c

def foldAfter (before : List Char) : List Char → List Char
  | [] => []
  | c :: after => lowerBetween before c after ++ foldAfter (c :: before) after

def fold (text : List Char) : List Char :=
  foldAfter [] text

def IsSmall (c : Char) : Prop :=
  c ≠ 'Σ' ∧ lower c = [c]

instance (c : Char) : Decidable (IsSmall c) := by
  unfold IsSmall
  infer_instance

def CaseRun.images (run : CaseRun) : List Nat :=
  (List.range ((run.last - run.first) / run.stride + 1)).map (run.image + run.stride * ·)

def CaseRun.holds (run : CaseRun) (code : Nat) : Bool :=
  run.first.ble code && code.ble run.last && ((code - run.first) % run.stride).beq 0

theorem exists_run_of_smallCode? {runs : List CaseRun} {code small : Nat}
    (found : smallCode? runs code = some small) :
    ∃ run ∈ runs, run.holds code = true ∧ small ∈ run.images := by
  induction runs with
  | nil => simp [smallCode?] at found
  | cons run later step =>
    rw [smallCode?] at found
    split at found
    · cases found
    · split at found
      · next above inside =>
        split at found
        · next whole =>
          simp only [Option.some.injEq] at found
          subst found
          refine ⟨run, by simp, ?_, List.mem_map.mpr ⟨(code - run.first) / run.stride, ?_, ?_⟩⟩
          · simp only [CaseRun.holds, Bool.and_eq_true, Nat.ble_eq, Nat.beq_eq]
            omega
          · rw [List.mem_range]
            exact Nat.lt_succ_of_le (Nat.div_le_div_right (by omega))
          · have split := Nat.div_add_mod (code - run.first) run.stride
            omega
        · cases found
      · obtain ⟨run, member, facts⟩ := step found
        exact ⟨run, by simp [member], facts⟩

/-- The small letters of one run are no capitals of the other: the two stretches are apart, or the
letters are looked up one by one. -/
def CaseRun.clear (small capital : CaseRun) : Bool :=
  (small.image + (small.last - small.first) + 1).ble capital.first ||
    (capital.last + 1).ble small.image || small.images.all (!capital.holds ·)

def CaseRun.sound (run : CaseRun) : Bool :=
  run.images.all fun code =>
    code != 0x130 && code != 0x3A3 && (code < 0xD800 || (0xDFFF < code && code < 0x110000))

theorem clear_caseRuns :
    (caseRuns.all fun small => small.sound && caseRuns.all small.clear) = true := by
  decide +kernel

theorem image_bounds {run : CaseRun} {code : Nat} (member : code ∈ run.images) :
    run.image ≤ code ∧ code ≤ run.image + (run.last - run.first) := by
  obtain ⟨index, below, rfl⟩ := List.mem_map.mp member
  have bound : run.stride * index ≤ run.last - run.first := by
    rw [List.mem_range] at below
    exact Nat.le_trans (Nat.mul_le_mul_left _ (Nat.lt_succ_iff.mp below))
      (Nat.mul_div_le _ _)
  omega

theorem not_holds_of_clear {small capital : CaseRun} {code : Nat}
    (clear : small.clear capital = true) (member : code ∈ small.images) :
    capital.holds code = false := by
  have bounds := image_bounds member
  simp only [CaseRun.clear, Bool.or_eq_true, Nat.ble_eq] at clear
  rcases clear with (below | above) | each
  · have : ¬capital.first ≤ code := by omega
    simp [CaseRun.holds, this]
  · have : ¬code ≤ capital.last := by omega
    simp [CaseRun.holds, this]
  · simpa using List.all_eq_true.mp each code member

/-- The small letter of a code point has no small letter of its own. -/
theorem smallCode?_image {code small : Nat} (found : smallCode? caseRuns code = some small) :
    smallCode? caseRuns small = none ∧ small ≠ 0x130 ∧ small ≠ 0x3A3 ∧ small.isValidChar := by
  obtain ⟨run, member, -, image⟩ := exists_run_of_smallCode? found
  have checked := List.all_eq_true.mp clear_caseRuns run member
  simp only [Bool.and_eq_true] at checked
  have sound := List.all_eq_true.mp checked.1 small image
  simp only [Bool.and_eq_true, bne_iff_ne, ne_eq, Bool.or_eq_true, decide_eq_true_eq] at sound
  refine ⟨?_, sound.1.1, sound.1.2, by simp only [Nat.isValidChar]; omega⟩
  cases again : smallCode? caseRuns small with
  | none => rfl
  | some smaller =>
    obtain ⟨capital, belongs, holds, -⟩ := exists_run_of_smallCode? again
    have clear := List.all_eq_true.mp checked.2 capital belongs
    rw [not_holds_of_clear clear image] at holds
    cases holds

theorem toNat_ofNat {code : Nat} (scalar : code.isValidChar) : (Char.ofNat code).toNat = code := by
  rw [Char.ofNat, dif_pos scalar]
  rfl

theorem isSmall_ofNat {code : Nat} (alone : smallCode? caseRuns code = none)
    (undotted : code ≠ 0x130) (plain : code ≠ 0x3A3) (scalar : code.isValidChar) :
    IsSmall (Char.ofNat code) := by
  have number := toNat_ofNat scalar
  have ne : ∀ {c : Char}, code ≠ c.toNat → Char.ofNat code ≠ c := by
    intro c differs same
    exact differs (by rw [← same, number])
  have notDotted : Char.ofNat code ≠ 'İ' := ne undotted
  exact ⟨ne plain, by simp [lower, notDotted, number, alone]⟩

theorem isSmall_of_mem_lower {c d : Char} (plain : c ≠ 'Σ') (member : d ∈ lower c) : IsSmall d := by
  rw [lower] at member
  split at member
  · simp only [List.mem_cons, List.not_mem_nil, or_false] at member
    rcases member with rfl | rfl <;> decide +kernel
  · next undotted =>
    split at member
    · next code found =>
      rw [List.mem_singleton] at member
      subst member
      obtain ⟨alone, undotted, unsigma, scalar⟩ := smallCode?_image found
      exact isSmall_ofNat alone undotted unsigma scalar
    · next alone =>
      rw [List.mem_singleton] at member
      subst member
      exact ⟨plain, by simp [lower, undotted, alone]⟩

theorem isSmall_of_mem_lowerBetween {before after : List Char} {c d : Char}
    (member : d ∈ lowerBetween before c after) : IsSmall d := by
  rw [lowerBetween] at member
  split at member
  · rw [List.mem_singleton] at member
    subst member
    split <;> decide +kernel
  · next plain => exact isSmall_of_mem_lower plain member

theorem isSmall_of_mem_foldAfter {before text : List Char} {d : Char}
    (member : d ∈ foldAfter before text) : IsSmall d := by
  induction text generalizing before with
  | nil => simp [foldAfter] at member
  | cons c after step =>
    rw [foldAfter, List.mem_append] at member
    cases member with
    | inl here => exact isSmall_of_mem_lowerBetween here
    | inr later => exact step later

theorem isSmall_of_mem_fold {text : List Char} {d : Char} (member : d ∈ fold text) : IsSmall d :=
  isSmall_of_mem_foldAfter member

theorem foldAfter_eq_self {before text : List Char} (small : ∀ c ∈ text, IsSmall c) :
    foldAfter before text = text := by
  induction text generalizing before with
  | nil => rfl
  | cons c after step =>
    have first := small c (by simp)
    rw [foldAfter, step fun d member => small d (List.mem_cons_of_mem _ member), lowerBetween,
      if_neg first.1, first.2, List.singleton_append]

theorem fold_eq_self {text : List Char} (small : ∀ c ∈ text, IsSmall c) : fold text = text :=
  foldAfter_eq_self small

theorem fold_fold (text : List Char) : fold (fold text) = fold text :=
  fold_eq_self fun _ member => isSmall_of_mem_fold member

end AccessCanvas.Text

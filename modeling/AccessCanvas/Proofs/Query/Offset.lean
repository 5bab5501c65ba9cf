import AccessCanvas.Proofs.Query.Operator

/-!
Where an operator stands in a clause, counted in bytes. Main statements: the bytes of a token are
found in a text only where the text can be cut; what the search for an operator reports starts at
the smallest offset at which there is an operator, and is the longest one there; it is also what is
found by looking for one operator after the other.
-/

namespace AccessCanvas

namespace Text

/-- The bytes of the token stand in the text from this offset on. -/
def StandsAt (token text : String) (offset : Nat) : Prop :=
  text.toByteArray.extract offset (offset + token.utf8ByteSize) = token.toByteArray

theorem utf8ByteSize_ofList (text : List Char) :
    (String.ofList text).utf8ByteSize = byteCount text := by
  induction text with
  | nil => rfl
  | cons c rest ih =>
      rw [String.ofList_cons, String.utf8ByteSize_append, ih, String.utf8ByteSize_singleton,
        byteCount]

theorem byteCount_toList (text : String) : byteCount text.toList = text.utf8ByteSize := by
  rw [← utf8ByteSize_ofList, String.ofList_toList]

theorem byteCount_pos {text : List Char} (filled : text ≠ []) : 0 < byteCount text := by
  obtain ⟨c, rest, rfl⟩ := List.exists_cons_of_ne_nil filled
  have size := c.utf8Size_pos
  rw [byteCount]
  omega

theorem extract_left (left right : String) :
    (left ++ right).toByteArray.extract 0 left.utf8ByteSize = left.toByteArray := by
  rw [String.toByteArray_append]
  exact ByteArray.extract_append_eq_left String.size_toByteArray.symm

theorem standsAt_append (left token right : String) :
    StandsAt token (left ++ token ++ right) left.utf8ByteSize := by
  have skipped := @ByteArray.extract_append_size_add left.toByteArray (token ++ right).toByteArray 0
    token.utf8ByteSize
  rw [Nat.add_zero, String.size_toByteArray] at skipped
  rw [StandsAt, String.append_assoc, String.toByteArray_append, skipped, extract_left]

/-- Bytes that spell a token do not start or end inside a character. -/
theorem exists_append_of_standsAt {token text : String} {offset : Nat} (filled : token ≠ "")
    (stands : StandsAt token text offset) :
    ∃ left right, text = left ++ token ++ right ∧ offset = left.utf8ByteSize := by
  have size := congrArg ByteArray.size stands
  rw [ByteArray.size_extract, String.size_toByteArray, String.size_toByteArray] at size
  have positive : token.utf8ByteSize ≠ 0 := mt String.utf8ByteSize_eq_zero_iff.mp filled
  have within : offset + token.utf8ByteSize ≤ text.utf8ByteSize := by omega
  have valid : (text.toByteArray.extract offset (offset + token.utf8ByteSize)).IsValidUTF8 :=
    stands ▸ token.isValidUTF8
  have cuts := (String.Pos.Raw.isValidUTF8_extract_iff ⟨offset⟩ ⟨offset + token.utf8ByteSize⟩
    (Nat.le_add_right _ _) within).mp valid
  have apart : (⟨offset⟩ : String.Pos.Raw) ≠ ⟨offset + token.utf8ByteSize⟩ := by
    simpa using positive
  -- Both ends of the bytes are now ends of a text before them.
  obtain ⟨first, last⟩ := cuts.resolve_left apart
  obtain ⟨left, rest, whole, first⟩ := String.Pos.Raw.isValid_iff_exists_append.mp first
  obtain ⟨front, right, same, last⟩ := String.Pos.Raw.isValid_iff_exists_append.mp last
  have start : offset = left.utf8ByteSize := congrArg String.Pos.Raw.byteIdx first
  have stop : offset + token.utf8ByteSize = front.utf8ByteSize :=
    congrArg String.Pos.Raw.byteIdx last
  have spelled : front = left ++ token := by
    have joined : text.toByteArray.extract 0 offset ++
        text.toByteArray.extract offset (offset + token.utf8ByteSize) =
          text.toByteArray.extract 0 (offset + token.utf8ByteSize) := by
      rw [ByteArray.extract_append_extract, Nat.min_eq_left (Nat.zero_le _),
        Nat.max_eq_right (Nat.le_add_right _ _)]
    rw [← String.toByteArray_inj, String.toByteArray_append, ← stands, ← extract_left front right,
      ← extract_left left rest, ← same, ← whole, ← stop, ← start, joined]
  exact ⟨left, right, by rw [same, spelled], start⟩

theorem standsAt_iff {token : List Char} (filled : token ≠ []) {text : String} {offset : Nat} :
    StandsAt (.ofList token) text offset ↔
      ∃ left right, text.toList = left ++ token ++ right ∧ offset = byteCount left := by
  constructor
  · intro stands
    obtain ⟨left, right, rfl, rfl⟩ := exists_append_of_standsAt (by simpa using filled) stands
    exact ⟨left.toList, right.toList, by simp, (byteCount_toList left).symm⟩
  · rintro ⟨left, right, whole, rfl⟩
    have same : text = .ofList left ++ .ofList token ++ .ofList right := by
      rw [← String.toList_inj, whole]
      simp
    rw [same, ← utf8ByteSize_ofList]
    exact standsAt_append _ _ _

theorem exists_between_of_byteCount_le {left rest before after : List Char}
    (same : left ++ rest = before ++ after) (le : byteCount left ≤ byteCount before) :
    ∃ part, before = left ++ part ∧ rest = part ++ after := by
  rcases List.append_eq_append_iff.mp same with early | ⟨part, rfl, rfl⟩
  · exact early
  · rw [byteCount_append] at le
    by_cases empty : part = []
    · exact ⟨[], by simp [empty], by simp [empty]⟩
    · have positive := byteCount_pos empty
      omega

end Text

open Text (StandsAt byteCount)

namespace Operator

def token (operator : Operator) : String :=
  .ofList operator.spelling

theorem standsAt_token_iff {operator : Operator} {text : String} {offset : Nat} :
    StandsAt operator.token text offset ↔
      ∃ left right, text.toList = left ++ operator.spelling ++ right ∧ offset = byteCount left :=
  Text.standsAt_iff operator.spelling_ne_nil

theorem absent_iff_standsAt {text : String} :
    Absent text.toList ↔ ∀ (operator : Operator) (offset : Nat),
      ¬StandsAt operator.token text offset := by
  constructor
  · intro absent operator offset stands
    obtain ⟨left, right, whole, -⟩ := standsAt_token_iff.mp stands
    exact absent operator ⟨left, right, whole.symm⟩
  · rintro nowhere operator ⟨left, right, whole⟩
    exact nowhere operator _ (standsAt_token_iff.mpr ⟨left, right, whole.symm, rfl⟩)

theorem absent_of_find? {clause : List Char} (none : find? clause = none) : Absent clause := by
  intro operator inside
  induction clause with
  | nil => exact operator.spelling_ne_nil (List.infix_nil.mp inside)
  | cons c rest ih =>
      rw [find?] at none
      split at none
      · cases none
      · next missed =>
        rcases List.infix_cons_iff.mp inside with here | later
        · exact atStart?_eq_none_iff.mp missed operator here
        · exact ih (Option.map_eq_none_iff.mp none) later

theorem find?_eq_none_iff {clause : List Char} : find? clause = none ↔ Absent clause := by
  refine ⟨absent_of_find?, fun absent => ?_⟩
  cases search : find? clause with
  | none => rfl
  | some found => exact absurd ⟨found.before, found.after, find?_parts search⟩ (absent found.operator)

theorem exists_split_of_atStart? {text : List Char} {operator : Operator}
    (found : atStart? text = some operator) :
    operator.spelling <+: text ∧ ∃ earlier later, all = earlier ++ operator :: later ∧
      ∀ other ∈ earlier, ¬other.spelling <+: text := by
  obtain ⟨starts, earlier, later, whole, none⟩ := List.find?_eq_some_iff_append.mp found
  refine ⟨List.isPrefixOf_iff_prefix.mp starts, earlier, later, whole, fun other member => ?_⟩
  have missed := none other member
  rwa [Bool.not_eq_true', ← Bool.not_eq_true, List.isPrefixOf_iff_prefix] at missed

theorem all_pairwise : all.Pairwise fun long short =>
    byteCount short.spelling ≤ byteCount long.spelling := by
  decide

theorem atStart?_longest {text : List Char} {operator other : Operator}
    (starts : atStart? text = some operator) (also : other.spelling <+: text) :
    byteCount other.spelling ≤ byteCount operator.spelling := by
  obtain ⟨-, earlier, later, whole, missed⟩ := exists_split_of_atStart? starts
  have member := mem_all other
  have sorted := all_pairwise
  rw [whole] at member sorted
  rcases List.mem_append.mp member with before | here
  · exact absurd also (missed other before)
  · rcases List.mem_cons.mp here with rfl | after
    · exact Nat.le_refl _
    · exact (List.pairwise_cons.mp (List.pairwise_append.mp sorted).2.1).1 other after

namespace Found.IsFirst

variable {found : Found} (first : found.IsFirst) {clause : String}
  (parts : found.before ++ found.operator.spelling ++ found.after = clause.toList)
include first parts

theorem not_standsAt_of_lt {other : Operator} {offset : Nat} (before : offset < found.start) :
    ¬StandsAt other.token clause offset := by
  intro stands
  obtain ⟨left, right, whole, rfl⟩ := standsAt_token_iff.mp stands
  rw [← parts, List.append_assoc, List.append_assoc] at whole
  obtain ⟨part, front, rest⟩ := Text.exists_between_of_byteCount_le whole.symm before.le
  have filled : part ≠ [] := by
    rintro rfl
    rw [List.append_nil] at front
    exact before.ne (congrArg byteCount front.symm)
  have none := first.earliest part ⟨left, front.symm⟩ filled
  rw [List.append_assoc, ← rest] at none
  exact atStart?_eq_none_iff.mp none other (List.prefix_append _ _)

theorem byteCount_le_of_standsAt {other : Operator}
    (stands : StandsAt other.token clause found.start) :
    byteCount other.spelling ≤ byteCount found.operator.spelling := by
  obtain ⟨left, right, whole, same⟩ := standsAt_token_iff.mp stands
  rw [← parts, List.append_assoc, List.append_assoc] at whole
  obtain ⟨part, rfl, rest⟩ := Text.exists_between_of_byteCount_le whole same.le
  have empty : part = [] := by
    by_contra filled
    have positive := Text.byteCount_pos filled
    rw [Found.start, Text.byteCount_append] at same
    omega
  subst empty
  exact atStart?_longest first.here ⟨right, rest.symm⟩

end Found.IsFirst

def firstStart? (operator : Operator) : List Char → Option Nat
  | [] => none
  | c :: rest =>
    if operator.spelling.isPrefixOf (c :: rest) then some 0
    else (firstStart? operator rest).map (c.utf8Size + ·)

structure Candidate where
  operator : Operator
  start : Nat
deriving DecidableEq, Repr

def Candidate.shift (bytes : Nat) (candidate : Candidate) : Candidate :=
  { candidate with start := bytes + candidate.start }

def better (clause : List Char) (best : Option Candidate) (operator : Operator) :
    Option Candidate :=
  match operator.firstStart? clause with
  | none => best
  | some start => if best.all (start < ·.start) then some ⟨operator, start⟩ else best

section Loop

variable {c : Char} {rest : List Char}

theorem firstStart?_of_starts {operator : Operator} (starts : operator.spelling <+: c :: rest) :
    operator.firstStart? (c :: rest) = some 0 := by
  rw [firstStart?, if_pos (List.isPrefixOf_iff_prefix.mpr starts)]

theorem firstStart?_of_not_starts {operator : Operator}
    (later : ¬operator.spelling <+: c :: rest) :
    operator.firstStart? (c :: rest) = (operator.firstStart? rest).map (c.utf8Size + ·) := by
  rw [firstStart?, if_neg (mt List.isPrefixOf_iff_prefix.mp later)]

theorem better_shift {operator : Operator} (later : ¬operator.spelling <+: c :: rest)
    (best : Option Candidate) :
    better (c :: rest) (best.map (Candidate.shift c.utf8Size)) operator =
      (better rest best operator).map (Candidate.shift c.utf8Size) := by
  rw [better, better, firstStart?_of_not_starts later]
  cases operator.firstStart? rest with
  | none => rfl
  | some start =>
      have same : (best.map (Candidate.shift c.utf8Size)).all (c.utf8Size + start < ·.start) =
          best.all (start < ·.start) := by
        cases best <;> simp [Candidate.shift]
      simp only [Option.map_some, same]
      split <;> rfl

theorem all_better {operator : Operator} (later : ¬operator.spelling <+: c :: rest)
    {best : Option Candidate} (positive : best.all (0 < ·.start) = true) :
    (better (c :: rest) best operator).all (0 < ·.start) = true := by
  rw [better, firstStart?_of_not_starts later]
  cases operator.firstStart? rest with
  | none => exact positive
  | some start =>
      have size := c.utf8Size_pos
      simp only [Option.map_some]
      split
      · simpa using Nat.add_pos_left size start
      · exact positive

theorem all_foldl_better {operators : List Operator}
    (later : ∀ operator ∈ operators, ¬operator.spelling <+: c :: rest)
    {best : Option Candidate} (positive : best.all (0 < ·.start) = true) :
    (operators.foldl (better (c :: rest)) best).all (0 < ·.start) = true := by
  induction operators generalizing best with
  | nil => exact positive
  | cons operator others ih =>
      rw [List.forall_mem_cons] at later
      exact ih later.2 (all_better later.1 positive)

theorem better_first {operator : Operator} (starts : operator.spelling <+: c :: rest)
    {best : Option Candidate} (positive : best.all (0 < ·.start) = true) :
    better (c :: rest) best operator = some ⟨operator, 0⟩ := by
  rw [better, firstStart?_of_starts starts]
  exact if_pos positive

theorem foldl_better_first (clause : List Char) (operators : List Operator) (operator : Operator) :
    operators.foldl (better clause) (some ⟨operator, 0⟩) = some ⟨operator, 0⟩ := by
  induction operators with
  | nil => rfl
  | cons other rest ih =>
      have kept : better clause (some ⟨operator, 0⟩) other = some ⟨operator, 0⟩ := by
        rw [better]
        cases other.firstStart? clause with
        | none => rfl
        | some start => exact if_neg (by simp)
      rw [List.foldl_cons, kept, ih]

end Loop

/-- Looking for one operator after the other, and keeping a later one only when it starts earlier,
finds the same as looking at one place after the other. -/
theorem foldl_better_eq_find? (clause : List Char) :
    all.foldl (better clause) none =
      (find? clause).map fun found => ⟨found.operator, found.start⟩ := by
  induction clause with
  | nil => rfl
  | cons c rest ih =>
      rw [find?]
      cases here : atStart? (c :: rest) with
      | none =>
          -- Every operator starts one character later than in the rest, if it does.
          have later := atStart?_eq_none_iff.mp here
          have shifted := @List.foldl_hom _ _ _ (Option.map (Candidate.shift c.utf8Size))
            (better rest) (better (c :: rest)) all none
            fun best operator => better_shift (later operator) best
          rw [Option.map_none] at shifted
          rw [shifted, ih, Option.map_map, Option.map_map]
          rfl
      | some operator =>
          obtain ⟨starts, earlier, others, whole, missed⟩ := exists_split_of_atStart? here
          -- Those listed earlier start later, so this one is taken, and nothing takes its place.
          rw [whole, List.foldl_append, List.foldl_cons,
            better_first starts (all_foldl_better missed rfl), foldl_better_first]
          rfl

/-- The search finds nothing when there is no operator in the clause. What it finds otherwise starts
at the smallest offset at which an operator stands, is the longest operator there, and is cut out
between characters, so that the parts before and after it are texts. -/
theorem find?_leftmost_longest (clause : String) :
    (find? clause.toList = none ↔
      ∀ (operator : Operator) (offset : Nat), ¬StandsAt operator.token clause offset) ∧
    ∀ found, find? clause.toList = some found →
      StandsAt found.operator.token clause found.start ∧
      found.stop = found.start + found.operator.token.utf8ByteSize ∧
      (∀ (other : Operator) (offset : Nat), offset < found.start →
        ¬StandsAt other.token clause offset) ∧
      (∀ other : Operator, found.operator.token.utf8ByteSize < other.token.utf8ByteSize →
        ¬StandsAt other.token clause found.start) ∧
      ∃ first last : clause.Pos,
        first.offset.byteIdx = found.start ∧ last.offset.byteIdx = found.stop ∧
        (clause.sliceTo first).copy = .ofList found.before ∧
        (clause.sliceFrom last).copy = .ofList found.after ∧
        (clause.sliceTo first).copy ++ found.operator.token ++ (clause.sliceFrom last).copy =
          clause := by
  refine ⟨find?_eq_none_iff.trans absent_iff_standsAt, fun found search => ?_⟩
  obtain ⟨parts, first⟩ := find?_eq_some_iff.mp search
  have size : ∀ operator : Operator, operator.token.utf8ByteSize = byteCount operator.spelling :=
    fun operator => Text.utf8ByteSize_ofList operator.spelling
  have whole : clause = .ofList found.before ++ found.operator.token ++ .ofList found.after := by
    rw [← String.toList_inj, ← parts]
    simp [token]
  have left : clause = .ofList found.before ++ (found.operator.token ++ .ofList found.after) := by
    rw [← String.append_assoc, ← whole]
  have start := String.Pos.splits_ofEqAppend left
  have stop := String.Pos.splits_ofEqAppend whole
  refine ⟨standsAt_token_iff.mpr ⟨_, _, parts.symm, rfl⟩, ?_, ?_, ?_, .ofEqAppend left,
    .ofEqAppend whole, ?_, ?_, start.copy_sliceTo_eq, stop.copy_sliceFrom_eq, ?_⟩
  · rw [Found.stop, size]
  · exact fun other offset before => first.not_standsAt_of_lt parts before
  · intro other longer stands
    have short := first.byteCount_le_of_standsAt parts stands
    rw [size, size] at longer
    omega
  · rw [start.offset_eq_rawEndPos, Found.start]
    exact Text.utf8ByteSize_ofList found.before
  · rw [stop.offset_eq_rawEndPos, Found.stop, Found.start, ← size]
    simp [Text.utf8ByteSize_ofList]
  · rw [start.copy_sliceTo_eq, stop.copy_sliceFrom_eq, ← whole]

/-- Letters of two bytes count twice, and the sign found is not the shorter one that is part of it. -/
theorem find?_leftmost_longest_umlauts :
    ∃ found, find? "größe==x has y".toList = some found ∧ found.start = 7 ∧ found.stop = 9 ∧
      StandsAt "==" "größe==x has y" 7 ∧
      (∀ (other : Operator) (offset : Nat), offset < 7 →
        ¬StandsAt other.token "größe==x has y" offset) ∧
      ∃ first last : "größe==x has y".Pos,
        first.offset.byteIdx = 7 ∧ last.offset.byteIdx = 9 ∧
        ("größe==x has y".sliceTo first).copy = "größe" ∧
        ("größe==x has y".sliceFrom last).copy = "x has y" := by
  have search : find? "größe==x has y".toList =
      some ⟨"größe".toList, .doubleEquals, "x has y".toList⟩ := by decide
  obtain ⟨stands, -, earliest, -, first, last, start, stop, before, after, -⟩ :=
    (find?_leftmost_longest "größe==x has y").2 _ search
  exact ⟨_, search, rfl, rfl, stands, earliest, first, last, start, stop, before, after⟩

end Operator
end AccessCanvas

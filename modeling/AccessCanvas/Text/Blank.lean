/-!
Sets of characters, of which white space is one: the property White_Space. What a text is without
it: its two ends trimmed, its words, and the words with one space between them.
-/

namespace AccessCanvas.Text

def covered : List (Nat × Nat) → Nat → Bool
  | [], _ => false
  | (first, last) :: later, code =>
    if code < first then false else code ≤ last || covered later code

theorem covered_cons (first last : Nat) (later : List (Nat × Nat)) (code : Nat) :
    covered ((first, last) :: later) code =
      if code < first then false else code ≤ last || covered later code := rfl

theorem covered_of_mem {ranges : List (Nat × Nat)} {code : Nat}
    (found : covered ranges code = true) :
    ∃ range ∈ ranges, range.1 ≤ code ∧ code ≤ range.2 := by
  induction ranges with
  | nil => simp [covered] at found
  | cons range later step =>
    obtain ⟨first, last⟩ := range
    rw [covered_cons] at found
    split at found
    · cases found
    · next bound =>
      simp only [Bool.or_eq_true, decide_eq_true_eq] at found
      cases found with
      | inl inside => exact ⟨(first, last), by simp, by simpa using bound, inside⟩
      | inr inside =>
        obtain ⟨range, member, bounds⟩ := step inside
        exact ⟨range, by simp [member], bounds⟩

def blankRanges : List (Nat × Nat) :=
  [(0x09, 0x0D), (0x20, 0x20), (0x85, 0x85), (0xA0, 0xA0), (0x1680, 0x1680), (0x2000, 0x200A),
    (0x2028, 0x2029), (0x202F, 0x202F), (0x205F, 0x205F), (0x3000, 0x3000)]

def isBlank (c : Char) : Bool :=
  covered blankRanges c.toNat

def trimStart (text : List Char) : List Char :=
  text.dropWhile isBlank

def trimEnd (text : List Char) : List Char :=
  (text.reverse.dropWhile isBlank).reverse

def trim (text : List Char) : List Char :=
  trimEnd (trimStart text)

/-- The text between the cuts. There is one piece more than there are cuts, so some pieces may be
empty. -/
def pieces (cut : Char → Bool) : List Char → List (List Char)
  | [] => [[]]
  | c :: rest => if cut c then [] :: pieces cut rest else (pieces cut rest).modifyHead (c :: ·)

def words (text : List Char) : List (List Char) :=
  (pieces isBlank text).filter (!·.isEmpty)

def squeeze (text : List Char) : List Char :=
  [' '].intercalate (words text)

theorem pieces_ne_nil (cut : Char → Bool) (text : List Char) : pieces cut text ≠ [] := by
  cases text with
  | nil => simp [pieces]
  | cons c rest =>
    have more := pieces_ne_nil cut rest
    rw [pieces]
    split
    · simp
    · cases rows : pieces cut rest with
      | nil => exact absurd rows more
      | cons row rows => simp

end AccessCanvas.Text

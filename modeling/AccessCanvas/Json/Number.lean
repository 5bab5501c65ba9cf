import AccessCanvas.Json.Lexeme

/-!
Numbers in documents. A whole number is kept as long as it fits 64 bits; any other number is
binary, made from as many leading digits as fit 64 bits and one multiplication or division by a
power of ten.
-/

namespace AccessCanvas.Json

structure Numeral where
  negative : Bool
  whole : List Char
  fraction : List Char
  exponent : Option Int

def digits (atEnd : Fault) (text : List Char) : Except Fault (List Char × List Char) :=
  match text with
  | [] => .error atEnd
  | c :: rest =>
    if c.isDigit then .ok (c :: rest.takeWhile Char.isDigit, rest.dropWhile Char.isDigit)
    else .error .invalidNumber

def fractionDigits (atEnd : Fault) (text : List Char) : Except Fault (List Char × List Char) :=
  match text with
  | [] => .ok ([], [])
  | c :: rest => if c = '.' then digits atEnd rest else .ok ([], c :: rest)

def digitValue (c : Char) : Nat :=
  c.toNat - '0'.toNat

def signed (text : List Char) : Option Char × List Char :=
  match text with
  | [] => (none, [])
  | c :: rest => if c = '-' ∨ c = '+' then (some c, rest) else (none, c :: rest)

def exponentDigits (atEnd : Fault) (text : List Char) : Except Fault (Option Int × List Char) :=
  match text with
  | [] => .ok (none, [])
  | c :: rest =>
    if c = 'e' ∨ c = 'E' then
      match digits atEnd (signed rest).2 with
      | .error fault => .error fault
      | .ok (written, after) =>
        let size := written.foldl (fun size digit => size * 10 + digitValue digit) 0
        .ok (some (if (signed rest).1 = some '-' then Int.negOfNat size else size), after)
    else .ok (none, c :: rest)

def magnitude (atEnd : Fault) (negative : Bool) (text : List Char) :
    Except Fault (Numeral × List Char) :=
  match digits atEnd text with
  | .error fault => .error fault
  | .ok (whole, afterWhole) =>
    if whole.head? = some '0' ∧ whole.length ≠ 1 then .error .invalidNumber
    else
      match fractionDigits atEnd afterWhole with
      | .error fault => .error fault
      | .ok (fraction, afterFraction) =>
        match exponentDigits atEnd afterFraction with
        | .error fault => .error fault
        | .ok (exponent, rest) => .ok (⟨negative, whole, fraction, exponent⟩, rest)

def numeral (atEnd : Fault) (text : List Char) : Except Fault (Numeral × List Char) :=
  match text with
  | [] => .error atEnd
  | c :: rest =>
    if c = '-' then magnitude atEnd true rest else magnitude atEnd false (c :: rest)

/-- Append leading digits to a count while it fits 64 bits; also how many were taken. -/
def absorb (count : Nat) : List Char → Nat × Nat
  | [] => (count, 0)
  | digit :: later =>
    let next := count * 10 + digitValue digit
    if next < UInt64.size then
      let (total, taken) := absorb next later
      (total, taken + 1)
    else (count, 0)

def powerOfTen (exponent : Nat) : Float :=
  .ofScientific 1 false exponent

/-- Divide by a power of ten, in steps when it is beyond the largest one that is a number. -/
def scaleDown (number : Float) (exponent : Nat) : Float :=
  if exponent ≤ 308 then number / powerOfTen exponent
  else if number == 0 then number
  else scaleDown (number / powerOfTen 308) (exponent - 308)
termination_by exponent

def scale (count : Nat) (exponent : Int) : Except Fault Float :=
  let number := count.toUInt64.toFloat
  if exponent < 0 then .ok (scaleDown number exponent.natAbs)
  else if exponent ≤ 308 then
    let product := number * powerOfTen exponent.natAbs
    if product.isInf then .error .numberOutOfRange else .ok product
  else if number == 0 then .ok number
  else .error .numberOutOfRange

def Number.ofFloat (negative : Bool) (number : Float) : Number :=
  .real (if negative then -number else number).toBits

def Numeral.value (numeral : Numeral) : Except Fault Number :=
  let (count, taken) := absorb 0 numeral.whole
  let spare := numeral.whole.length - taken
  if spare = 0 ∧ numeral.fraction = [] ∧ numeral.exponent = none then
    if !numeral.negative then .ok (.natural count)
    else if 0 < count && count ≤ 1 <<< 63 then .ok (.negative count)
    else .ok (.ofFloat true count.toUInt64.toFloat)
  else
    let (total, places) := absorb count numeral.fraction
    (scale total (spare - places + numeral.exponent.getD 0)).map (.ofFloat numeral.negative ·)

def numberHead (text : List Char) : Except Fault (Number × List Char) :=
  match numeral .endOfValue text with
  | .error fault => .error fault
  | .ok (written, rest) => written.value.map fun number => (number, rest)

def afterNumber (text : List Char) : Except Fault (List Char) :=
  match numeral .invalidNumber text with
  | .error fault => .error fault
  | .ok (_, rest) => .ok rest

theorem length_digits_lt {atEnd : Fault} {text written rest : List Char}
    (read : digits atEnd text = .ok (written, rest)) : rest.length < text.length := by
  rw [digits.eq_def] at read
  split at read
  · cases read
  · next c after =>
    split at read
    · cases read
      exact Nat.lt_succ_of_le (List.dropWhile_sublist _).length_le
    · cases read

theorem length_fractionDigits_le {atEnd : Fault} {text written rest : List Char}
    (read : fractionDigits atEnd text = .ok (written, rest)) : rest.length ≤ text.length := by
  rw [fractionDigits.eq_def] at read
  split at read
  · cases read
    exact Nat.le_refl _
  · split at read
    · exact Nat.le_succ_of_le (Nat.le_of_lt (length_digits_lt read))
    · cases read
      exact Nat.le_refl _

theorem length_signed_le (text : List Char) : (signed text).2.length ≤ text.length := by
  rw [signed.eq_def]
  split
  · exact Nat.le_refl _
  · split
    · exact Nat.le_succ _
    · exact Nat.le_refl _

theorem length_exponentDigits_le {atEnd : Fault} {text rest : List Char} {exponent : Option Int}
    (read : exponentDigits atEnd text = .ok (exponent, rest)) : rest.length ≤ text.length := by
  rw [exponentDigits.eq_def] at read
  split at read
  · cases read
    exact Nat.le_refl _
  · next c after =>
    split at read
    · split at read
      · cases read
      · next found =>
        cases read
        have shorter := length_digits_lt found
        have smaller := length_signed_le after
        rw [List.length_cons]
        omega
    · cases read
      exact Nat.le_refl _

theorem length_magnitude_lt {atEnd : Fault} {negative : Bool} {text rest : List Char}
    {written : Numeral} (read : magnitude atEnd negative text = .ok (written, rest)) :
    rest.length < text.length := by
  rw [magnitude] at read
  split at read
  · cases read
  · next foundWhole =>
    split at read
    · cases read
    · split at read
      · cases read
      · next foundFraction =>
        split at read
        · cases read
        · next foundExponent =>
          cases read
          have first := length_digits_lt foundWhole
          have second := length_fractionDigits_le foundFraction
          have third := length_exponentDigits_le foundExponent
          omega

theorem length_numeral_lt {atEnd : Fault} {text rest : List Char} {written : Numeral}
    (read : numeral atEnd text = .ok (written, rest)) : rest.length < text.length := by
  rw [numeral.eq_def] at read
  split at read
  · cases read
  · split at read
    · exact Nat.lt_succ_of_lt (length_magnitude_lt read)
    · exact length_magnitude_lt read

theorem length_numberHead_lt {text rest : List Char} {number : Number}
    (read : numberHead text = .ok (number, rest)) : rest.length < text.length := by
  rw [numberHead] at read
  split at read
  · cases read
  · next written after found =>
    obtain ⟨value, -, same⟩ := Text.exists_of_map_eq_ok read
    cases same
    exact length_numeral_lt found

theorem length_afterNumber_lt {text rest : List Char} (read : afterNumber text = .ok rest) :
    rest.length < text.length := by
  rw [afterNumber] at read
  split at read
  · cases read
  · next found =>
    cases read
    exact length_numeral_lt found

end AccessCanvas.Json

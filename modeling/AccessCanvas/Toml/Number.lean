import AccessCanvas.Toml.Item
import AccessCanvas.Toml.Text

/-!
Numbers, dates and times in settings. Underscores may stand between digits. A whole number has to
fit 64 bits with a sign; any other number is rounded to the nearest binary one.
-/

namespace AccessCanvas.Toml

open Grammar

/-! Digits. -/

def moreDigits (accepts : Char → Bool) : List Char → Except Failure (List Char × List Char)
  | [] => .ok ([], [])
  | c :: rest =>
    if accepts c then pushed c (moreDigits accepts rest)
    else if c = '_' then
      if rest.head?.any accepts then moreDigits accepts rest
      else .error ⟨{ expected := ["digit"] }, true⟩
    else .ok ([], c :: rest)

def digitRun (accepts : Char → Bool) : Grammar (List Char) := do
  let first ← one accepts
  return first :: (← moreDigits accepts)

def valueIn (base : Nat) (digits : List Char) : Nat :=
  digits.foldl (fun total digit => total * base + (hexValue? digit).getD 0) 0

def sign : Grammar Bool := do
  return (← optional (one fun c => c == '+' || c == '-')) == some '-'

def field (count low high : Nat) : Grammar Nat := do
  let digits ← fixed count
  let value := valueIn 10 digits
  if low ≤ value ∧ value ≤ high then return value
  else fail (.because .outOfRange)
where
  fixed : Nat → Grammar (List Char)
    | 0 => pure []
    | count + 1 => do return (← one Char.isDigit) :: (← fixed count)

/-! Dates and times. -/

def daysIn (year month : Nat) : Nat :=
  if month = 2 then
    if year % 4 = 0 ∧ (year % 100 ≠ 0 ∨ year % 400 = 0) then 29 else 28
  else if month ∈ [4, 6, 9, 11] then 30
  else 31

def date : Grammar Unit := do
  let year ← field 4 0 9999
  char '-'
  settle do
    let month ← field 2 1 12
    char '-'
    let day ← field 2 1 31
    if daysIn year month < day then fail (.because .outOfRange)

def time : Grammar Unit := do
  let _ ← field 2 0 23
  char ':'
  settle do
    let _ ← field 2 0 59
    char ':'
    let _ ← field 2 0 60
    let _ ← optional do
      char '.'
      digitsOnly
where
  digitsOnly : Grammar Unit := do
    let _ ← one Char.isDigit
    let _ ← span Char.isDigit

def timeOffset : Grammar Unit :=
  named "time offset" <|
    Grammar.orElse (do let _ ← one fun c => c == 'Z' || c == 'z') do
      let _ ← one fun c => c == '+' || c == '-'
      settle do
        let _ ← field 2 0 23
        char ':'
        let _ ← field 2 0 59

def moment : Grammar Unit :=
  Grammar.orElse
    (named "date-time" do
      date
      let _ ← optional do
        let _ ← one fun c => c == 'T' || c == 't' || c == ' '
        time
        optional timeOffset)
    (named "time" time)

/-! Numbers. -/

def decimal : Grammar (Bool × List Char) :=
  named "integer" do
    let negative ← sign
    let first ← one Char.isDigit
    if first = '0' then return (negative, [first])
    else return (negative, first :: (← moreDigits Char.isDigit))

/-- The number `count · 10 ^ exponent`; beyond the largest number it is infinite. -/
def nearest (count : Nat) (exponent : Int) : Float :=
  let size := (Nat.toDigits 10 count).length + exponent
  if count = 0 ∨ size < -400 then 0
  else if 400 < size then 1 / 0
  else .ofScientific count (exponent < 0) exponent.natAbs

def exponent : Grammar Int := do
  let _ ← one fun c => c == 'e' || c == 'E'
  let negative ← sign
  let digits ← settle (digitRun Char.isDigit)
  let size := valueIn 10 digits
  return if negative then Int.negOfNat size else size

def fraction : Grammar (List Char) := do
  char '.'
  settle (expecting ["digit"] (digitRun Char.isDigit))

def written : Grammar Float := do
  let (negative, whole) ← decimal
  let (places, power) ← Grammar.orElse
    (do return ([], ← exponent))
    (do
      let places ← fraction
      return (places, (← optional exponent).getD 0))
  let number := nearest (valueIn 10 (whole ++ places)) (power - places.length)
  if negative then return -number
  else if number.isInf then settle (fail {})
  else return number

def spelled (letters : String) (number : Float) : Grammar Float := do
  word letters
  return number

def infinite : Grammar Float :=
  spelled "inf" (1 / 0)

def undefined : Grammar Float :=
  spelled "nan" (0 / 0)

def special : Grammar Float := do
  let negative ← sign
  let number ← infinite.orElse undefined
  return if negative then -number else number

def real : Grammar Float :=
  named "floating-point number" (written.orElse special)

def bounded (negative : Bool) (magnitude : Nat) : Grammar Int :=
  if negative then
    if magnitude ≤ 1 <<< 63 then return Int.negOfNat magnitude
    else settle (fail (.because .tooSmall))
  else if magnitude < 1 <<< 63 then return magnitude
  else settle (fail (.because .tooLarge))

def based (mark subject : String) (base : Nat) : Grammar Int := do
  let digits ← named subject do
    word mark
    settle (digitRun fun c => (hexValue? c).any (· < base))
  bounded false (valueIn base digits)

def integer : Grammar Int :=
  (based "0x" "hexadecimal integer" 16).orElse <|
    (based "0o" "octal integer" 8).orElse <|
      (based "0b" "binary integer" 2).orElse do
        let (negative, digits) ← decimal
        bounded negative (valueIn 10 digits)

def number : Grammar Item :=
  Grammar.orElse (do moment; return .moment) <|
    Grammar.orElse (do return .real (← real).toBits) (do return .integer (← integer))

end AccessCanvas.Toml

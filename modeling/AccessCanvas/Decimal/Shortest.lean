/-!
The fewest decimal digits that read back as a given floating point number, and the two ways of
writing them. A number is taken apart into `mantissa · 2 ^ power`; the decimals that read back as
it fill the interval half way to its two neighbours, whose ends belong to it when the mantissa is
even. Of the decimals with one digit, two digits and so on the first that lie in the interval are
looked for next to the number, and of two the nearer is taken. Which one it is when the number lies
half way between them is for the format to say.
-/

namespace AccessCanvas.Decimal

inductive Binary where
  | finite (negative : Bool) (mantissa : Nat) (power : Int)
  | infinite (negative : Bool)
  | undefined
deriving DecidableEq, Repr

def Binary.ofBits (bits : Nat) : Binary :=
  let negative := (bits >>> 63) % 2 == 1
  let exponent := (bits >>> 52) % (1 <<< 11)
  let fraction := bits % (1 <<< 52)
  if exponent == 2047 then
    if fraction == 0 then .infinite negative else .undefined
  else if exponent == 0 then .finite negative fraction (-1074)
  else .finite negative ((1 <<< 52) + fraction) (Int.ofNat exponent - 1075)

/-- Decimal digits without leading or trailing zeros, and the place of the point counted from the
left of the first digit. -/
structure Digits where
  digits : List Char
  point : Int
deriving DecidableEq, Repr

/-- A positive number as quarters of the distance to its neighbours, over a common denominator:
the number itself, the ends of the interval that reads back as it, and whether they belong to it. -/
structure Interval where
  lower : Nat
  value : Nat
  upper : Nat
  denominator : Nat
  closed : Bool

def Interval.ofParts (mantissa : Nat) (power : Int) : Interval :=
  let up := (power - 2).toNat
  let below := if mantissa == 1 <<< 52 && power > -1074 then 1 else 2
  { lower := (4 * mantissa - below) <<< up
    value := (4 * mantissa) <<< up
    upper := (4 * mantissa + 2) <<< up
    denominator := 1 <<< (2 - power).toNat
    closed := mantissa % 2 == 0 }

def Interval.holds (interval : Interval) (count : Nat) (place : Int) : Bool :=
  let scaled := count * Nat.pow 10 place.toNat * interval.denominator
  let lower := interval.lower * Nat.pow 10 (-place).toNat
  let upper := interval.upper * Nat.pow 10 (-place).toNat
  if interval.closed then lower ≤ scaled && scaled ≤ upper else lower < scaled && scaled < upper

/-- The number of digits before the point of `value / denominator`, or less than one by the number
of zeros after it. -/
def Interval.point (interval : Interval) : Int :=
  let whole := interval.value / interval.denominator
  if whole > 0 then (Nat.toDigits 10 whole).length
  else
    let gap := (List.range 330).find? fun gap =>
      interval.denominator ≤ interval.value * Nat.pow 10 (gap + 1)
    Int.negOfNat (gap.getD 330)

inductive Tie where
  | toEven
  | awayFromZero
deriving DecidableEq, Repr

def Tie.takesLower : Tie → (floor : Nat) → Bool
  | .toEven, floor => floor % 2 == 0
  | .awayFromZero, _ => false

/-- The multiple of `10 ^ place` that reads back as the number, the nearer of the two next to it. -/
def Interval.multiple? (interval : Interval) (tie : Tie) (place : Int) : Option Nat :=
  let above := interval.value * Nat.pow 10 (-place).toNat
  let unit := interval.denominator * Nat.pow 10 place.toNat
  let floor := above / unit
  let left := interval.holds floor place
  let right := interval.holds (floor + 1) place
  let spare := 2 * (above % unit)
  if left && right then
    some (if spare < unit || (spare == unit && tie.takesLower floor) then floor else floor + 1)
  else if left then some floor
  else if right then some (floor + 1)
  else none

def Digits.ofNat (count : Nat) (place : Int) : Digits :=
  let written := Nat.toDigits 10 count
  ⟨(written.reverse.dropWhile (· == '0')).reverse, written.length + place⟩

def shortest (tie : Tie) (mantissa : Nat) (power : Int) : Digits :=
  let interval := Interval.ofParts mantissa power
  let point := interval.point
  let found := (List.range 18).findSome? fun count =>
    let place := point - ((count + 1 : Nat) : Int)
    (interval.multiple? tie place).map (Digits.ofNat · place)
  found.getD ⟨[], 0⟩

def zeros (count : Int) : List Char :=
  List.replicate count.toNat '0'

def Digits.positional (number : Digits) : List Char :=
  let count : Int := number.digits.length
  if number.point ≤ 0 then ['0', '.'] ++ zeros (-number.point) ++ number.digits
  else if count ≤ number.point then number.digits ++ zeros (number.point - count) ++ ['.', '0']
  else number.digits.take number.point.toNat ++ ['.'] ++ number.digits.drop number.point.toNat

def Digits.scientific (number : Digits) : List Char :=
  let exponent := number.point - 1
  let sign := if exponent < 0 then ['-'] else ['+']
  let tail := number.digits.drop 1
  number.digits.take 1 ++ (if tail.isEmpty then [] else '.' :: tail) ++ ['e'] ++ sign ++
    Nat.toDigits 10 exponent.natAbs

structure Format where
  tie : Tie
  isPositional : Int → Bool

def Binary.text (format : Format) : Binary → List Char
  | .undefined => "NaN".toList
  | .infinite negative => (if negative then ['-'] else []) ++ "inf".toList
  | .finite negative mantissa power =>
    let sign := if negative then ['-'] else []
    if mantissa == 0 then sign ++ "0.0".toList
    else
      let number := shortest format.tie mantissa power
      sign ++ if format.isPositional number.point then number.positional else number.scientific

end AccessCanvas.Decimal

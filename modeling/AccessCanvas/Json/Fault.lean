import AccessCanvas.Decimal.Shortest
import AccessCanvas.Text.Strings

/-!
What can be wrong with a document, and the wording. A fault is one of three kinds: the text is
malformed, the text ends too early, or it holds a value that does not belong there.
-/

namespace AccessCanvas.Json

inductive Number where
  | natural (value : Nat)
  | negative (magnitude : Nat)
  /-- A number with a fraction or an exponent, or too large, by the bits of its binary format. -/
  | real (bits : UInt64)
deriving DecidableEq, Repr

/-- A real number is written positionally from 0.00001 up to 16 digits before the point, and half way
between two decimals the even one is taken. -/
def Number.format : Decimal.Format where
  tie := .toEven
  isPositional point := -5 < point && point ≤ 16

def Number.text : Number → String
  | .natural value => toString value
  | .negative magnitude => "-" ++ toString magnitude
  | .real bits =>
    .ofList ((Decimal.Binary.ofBits bits.toNat).text Number.format)

inductive Found where
  | null
  | boolean (value : Bool)
  | number (value : Number)
  | text (value : String)
  | list
  | object
deriving DecidableEq, Repr

def Found.message : Found → String
  | .null => "null"
  | .boolean value => "boolean " ++ Text.ticked (if value then "true" else "false")
  | .number (.real bits) => "floating point " ++ Text.ticked (Number.real bits).text
  | .number value => "integer " ++ Text.ticked value.text
  | .text value => "string " ++ Text.quoted value
  | .list => "sequence"
  | .object => "map"

inductive Fault where
  | endOfValue
  | endOfObject
  | endOfList
  | endOfText
  | expectedValue
  | expectedColon
  | expectedListEnd
  | expectedObjectEnd
  | expectedWord
  | keyNotText
  | trailingComma
  | trailingCharacters
  | invalidEscape
  | loneSurrogate
  | brokenSurrogatePair
  | controlCharacter
  | invalidNumber
  | numberOutOfRange
  | tooDeep
  | wrongType (found : Found) (expected : String)
  | wrongValue (found : Found) (expected : String)
  | wrongLength (count : Nat) (expected : String)
  | missingField (name : String)
  | duplicateField (name : String)
  | unknownVariant (name : String) (options : List String)
deriving DecidableEq, Repr

inductive Fault.Category where
  | malformed
  | truncated
  | unsuitable
deriving DecidableEq, Repr

namespace Fault

def category : Fault → Category
  | .endOfValue | .endOfObject | .endOfList | .endOfText => .truncated
  | .wrongType .. | .wrongValue .. | .wrongLength .. | .missingField _ | .duplicateField _
  | .unknownVariant .. => .unsuitable
  | .expectedValue | .expectedColon | .expectedListEnd | .expectedObjectEnd | .expectedWord
  | .keyNotText | .trailingComma | .trailingCharacters | .invalidEscape | .loneSurrogate
  | .brokenSurrogatePair | .controlCharacter | .invalidNumber | .numberOutOfRange
  | .tooDeep => .malformed

def message : Fault → String
  | .endOfValue => "EOF while parsing a value"
  | .endOfObject => "EOF while parsing an object"
  | .endOfList => "EOF while parsing a list"
  | .endOfText => "EOF while parsing a string"
  | .expectedValue => "expected value"
  | .expectedColon => "expected `:`"
  | .expectedListEnd => "expected `,` or `]`"
  | .expectedObjectEnd => "expected `,` or `\x7d`"
  | .expectedWord => "expected ident"
  | .keyNotText => "key must be a string"
  | .trailingComma => "trailing comma"
  | .trailingCharacters => "trailing characters"
  | .invalidEscape => "invalid escape"
  | .loneSurrogate => "lone leading surrogate in hex escape"
  | .brokenSurrogatePair => "unexpected end of hex escape"
  | .controlCharacter =>
    "control character (\\u0000-\\u001F) found while parsing a string"
  | .invalidNumber => "invalid number"
  | .numberOutOfRange => "number out of range"
  | .tooDeep => "recursion limit exceeded"
  | .wrongType found expected => "invalid type: " ++ found.message ++ ", expected " ++ expected
  | .wrongValue found expected => "invalid value: " ++ found.message ++ ", expected " ++ expected
  | .wrongLength count expected => "invalid length " ++ toString count ++ ", expected " ++ expected
  | .missingField name => "missing field " ++ Text.ticked name
  | .duplicateField name => "duplicate field " ++ Text.ticked name
  | .unknownVariant name options =>
    "unknown variant " ++ Text.ticked name ++ ", expected " ++ Text.listing options

end Fault

end AccessCanvas.Json

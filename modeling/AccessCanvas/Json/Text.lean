import AccessCanvas.Json.Lexeme
import AccessCanvas.Text.Strings

/-!
Texts in documents: written between quotes with escapes, read back, and passed over where their
value does not matter. A text that is passed over may hold half of a surrogate pair.
-/

namespace AccessCanvas.Json

def hexValue? (c : Char) : Option Nat :=
  if '0' ≤ c && c ≤ '9' then some (c.toNat - '0'.toNat)
  else if 'a' ≤ c && c ≤ 'f' then some (c.toNat - 'a'.toNat + 10)
  else if 'A' ≤ c && c ≤ 'F' then some (c.toNat - 'A'.toNat + 10)
  else none

/-- The number that four hexadecimal digits spell. With fewer than four bytes left the text has
ended too early, whatever they are. -/
def hexCode (text : List Char) : Except Fault Nat :=
  if AccessCanvas.Text.byteCount (text.take 4) < 4 then .error .endOfText
  else match (text.take 4).mapM hexValue? with
    | some [a, b, c, d] => .ok (((a * 16 + b) * 16 + c) * 16 + d)
    | _ => .error .invalidEscape

def shortEscape? (letter : Char) : Option Char :=
  if letter = '"' then some '"'
  else if letter = '\\' then some '\\'
  else if letter = '/' then some '/'
  else if letter = 'b' then some '\x08'
  else if letter = 'f' then some '\x0c'
  else if letter = 'n' then some '\n'
  else if letter = 'r' then some '\r'
  else if letter = 't' then some '\t'
  else none

/-- The character spelled after a backslash and the letter u, and the number of characters that
spell it. A character beyond the basic plane is spelled as a pair of surrogates. -/
def codeEscape (text : List Char) : Except Fault (Char × Nat) :=
  match hexCode text with
  | .error fault => .error fault
  | .ok code =>
    if 0xDC00 ≤ code && code ≤ 0xDFFF then .error .loneSurrogate
    else if code < 0xD800 || 0xDBFF < code then .ok (Char.ofNat code, 4)
    else match text.drop 4 with
      | [] => .error .endOfText
      | '\\' :: [] => .error .endOfText
      | '\\' :: 'u' :: second =>
        match hexCode second with
        | .error fault => .error fault
        | .ok low =>
          if 0xDC00 ≤ low && low ≤ 0xDFFF then
            .ok (Char.ofNat (0x10000 + (code - 0xD800) * 0x400 + (low - 0xDC00)), 10)
          else .error .loneSurrogate
      | _ => .error .brokenSurrogatePair

def escape (text : List Char) : Except Fault (Char × Nat) :=
  match text with
  | [] => .error .endOfText
  | letter :: rest =>
    if letter = 'u' then
      match codeEscape rest with
      | .error fault => .error fault
      | .ok (c, used) => .ok (c, used + 1)
    else match shortEscape? letter with
      | some c => .ok (c, 1)
      | none => .error .invalidEscape

/-- The text up to the closing quote. The number counts characters that an escape has used up. -/
def textBody : (used : Nat) → List Char → Except Fault (List Char × List Char)
  | _, [] => .error .endOfText
  | used + 1, _ :: rest => textBody used rest
  | 0, c :: rest =>
    if c = '"' then .ok ([], rest)
    else if c = '\\' then
      match escape rest with
      | .error fault => .error fault
      | .ok (d, used) =>
        match textBody used rest with
        | .error fault => .error fault
        | .ok (body, after) => .ok (d :: body, after)
    else if c.toNat < 0x20 then .error .controlCharacter
    else
      match textBody 0 rest with
      | .error fault => .error fault
      | .ok (body, after) => .ok (c :: body, after)

theorem length_textBody_lt {used : Nat} {text body rest : List Char}
    (read : textBody used text = .ok (body, rest)) : rest.length < text.length := by
  induction text generalizing used body with
  | nil => simp [textBody] at read
  | cons c after step =>
    rw [List.length_cons]
    cases used with
    | succ used =>
      rw [textBody] at read
      exact Nat.lt_succ_of_lt (step read)
    | zero =>
      rw [textBody] at read
      repeat' split at read
      all_goals try cases read
      · exact Nat.lt_succ_self _
      · next found => exact Nat.lt_succ_of_lt (step found)
      · next found => exact Nat.lt_succ_of_lt (step found)

def stringBody (text : List Char) : Except Fault (String × List Char) :=
  match textBody 0 text with
  | .error fault => .error fault
  | .ok (body, rest) => .ok (.ofList body, rest)

theorem length_stringBody_lt {text rest : List Char} {body : String}
    (read : stringBody text = .ok (body, rest)) : rest.length < text.length := by
  rw [stringBody] at read
  split at read
  · cases read
  · next found =>
    cases read
    exact length_textBody_lt found

def escapeLength (text : List Char) : Except Fault Nat :=
  match text with
  | [] => .error .endOfText
  | letter :: rest =>
    if letter = 'u' then (hexCode rest).map fun _ => 5
    else if (shortEscape? letter).isSome then .ok 1
    else .error .invalidEscape

def afterText : (used : Nat) → List Char → Except Fault (List Char)
  | _, [] => .error .endOfText
  | used + 1, _ :: rest => afterText used rest
  | 0, c :: rest =>
    if c = '"' then .ok rest
    else if c = '\\' then
      match escapeLength rest with
      | .error fault => .error fault
      | .ok used => afterText used rest
    else if c.toNat < 0x20 then .error .controlCharacter
    else afterText 0 rest

theorem length_afterText_lt {used : Nat} {text rest : List Char}
    (read : afterText used text = .ok rest) : rest.length < text.length := by
  induction text generalizing used with
  | nil => simp [afterText] at read
  | cons c after step =>
    rw [List.length_cons]
    cases used with
    | succ used =>
      rw [afterText] at read
      exact Nat.lt_succ_of_lt (step read)
    | zero =>
      rw [afterText] at read
      repeat' split at read
      · cases read
        exact Nat.lt_succ_self _
      · cases read
      · exact Nat.lt_succ_of_lt (step read)
      · cases read
      · exact Nat.lt_succ_of_lt (step read)

def written (c : Char) : List Char :=
  if c = '"' then ['\\', '"']
  else if c = '\\' then ['\\', '\\']
  else if c = '\x08' then ['\\', 'b']
  else if c = '\x0c' then ['\\', 'f']
  else if c = '\n' then ['\\', 'n']
  else if c = '\r' then ['\\', 'r']
  else if c = '\t' then ['\\', 't']
  else if c.toNat < 0x20 then
    ['\\', 'u', '0', '0', Nat.digitChar (c.toNat / 16), Nat.digitChar (c.toNat % 16)]
  else [c]

def quotation (text : List Char) : List Char :=
  ['"'] ++ text.flatMap written ++ ['"']

end AccessCanvas.Json

import AccessCanvas.Toml.Grammar

/-!
Texts in settings: between double quotes with escapes or between single quotes without, on one line
or, between three quotes, on several. Line ends inside a text are single line feeds.
-/

namespace AccessCanvas.Toml

def hexValue? (c : Char) : Option Nat :=
  if c.isDigit then some (c.toNat - '0'.toNat)
  else if 'a' ≤ c && c ≤ 'f' then some (c.toNat - 'a'.toNat + 10)
  else if 'A' ≤ c && c ≤ 'F' then some (c.toNat - 'A'.toNat + 10)
  else none

def spelledCode (count : Nat) (text : List Char) : Except Failure Char :=
  let subject := s!"unicode {count}-digit hex code"
  let digits := text.take count
  match digits.mapM hexValue? with
  | none => .error ⟨{ subject }, true⟩
  | some values =>
    let code := values.foldl (fun code digit => code * 16 + digit) 0
    if digits.length < count then .error ⟨{ subject }, true⟩
    else if code.isValidChar then .ok (Char.ofNat code)
    else .error ⟨{ subject, reason := some .outOfRange }, true⟩

def shortEscape? (letter : Char) : Option Char :=
  if letter = 'b' then some '\x08'
  else if letter = 'f' then some '\x0c'
  else if letter = 'n' then some '\n'
  else if letter = 'r' then some '\r'
  else if letter = 't' then some '\t'
  else if letter = '\\' then some '\\'
  else if letter = '"' then some '"'
  else none

def escapeLetters : List String :=
  ["b", "f", "n", "r", "t", "u", "U", "\\", "\""].map Text.ticked

/-- The character spelled after a backslash and the number of characters that spell it; `subject`
is the text that has ended when there are none. -/
def escape (subject : String) (text : List Char) : Except Failure (Char × Nat) :=
  match text with
  | [] => .error ⟨{ subject }, true⟩
  | letter :: rest =>
    if letter = 'u' then (spelledCode 4 rest).map fun c => (c, 5)
    else if letter = 'U' then (spelledCode 8 rest).map fun c => (c, 9)
    else
      match shortEscape? letter with
      | some c => .ok (c, 1)
      | none => .error ⟨{ subject := "escape sequence", expected := escapeLetters }, true⟩

/-- The number of characters from the backslash that ends a line up to the next line that is not
blank, if nothing but white space follows the backslash. -/
def foldedLine? (text : List Char) : Option Nat :=
  let blankLength := (text.takeWhile isBlank).length
  match text.drop blankLength with
  | '\n' :: rest => some (blankLength + 1 + gapLength rest)
  | '\r' :: '\n' :: rest => some (blankLength + 2 + gapLength rest)
  | _ => none
where
  gapLength : List Char → Nat
    | [] => 0
    | c :: rest =>
      if isBlank c || c == '\n' then gapLength rest + 1
      else if c == '\r' && rest.head? == some '\n' then gapLength rest + 1
      else 0

/-- The quotes that are part of a text when so many stand in a row: all of one or two, and of three
or more what is left when three close the text, up to two. -/
def closingQuotes (count : Nat) : Nat :=
  min (count - 3) 2

def pushed (c : Char) : Except Failure (List Char × List Char) → Except Failure (List Char × List Char)
  | .error failure => .error failure
  | .ok (body, rest) => .ok (c :: body, rest)

def lineBody : (used : Nat) → List Char → Except Failure (List Char × List Char)
  | _, [] => .error ⟨{ subject := "basic string" }, true⟩
  | used + 1, _ :: rest => lineBody used rest
  | 0, c :: rest =>
    if c = '"' then .ok ([], rest)
    else if c = '\\' then
      match escape "basic string" rest with
      | .error failure => .error failure
      | .ok (d, used) => pushed d (lineBody used rest)
    else if isVisible c then pushed c (lineBody 0 rest)
    else .error ⟨{ subject := "basic string" }, true⟩

def blockBody (quote : Char) (escapes : Bool) (subject : String) :
    (used : Nat) → List Char → Except Failure (List Char × List Char)
  | _, [] => .error ⟨{ subject }, true⟩
  | used + 1, _ :: rest => blockBody quote escapes subject used rest
  | 0, c :: rest =>
    if c = quote then
      let count := (rest.takeWhile (· == quote)).length + 1
      if 3 ≤ count then
        .ok (List.replicate (closingQuotes count) quote, rest.drop (2 + closingQuotes count))
      else pushed quote (blockBody quote escapes subject 0 rest)
    else if c = '\\' ∧ escapes then
      match foldedLine? rest with
      | some used => blockBody quote escapes subject used rest
      | none =>
        match escape subject rest with
        | .error failure => .error failure
        | .ok (d, used) => pushed d (blockBody quote escapes subject used rest)
    else if c = '\n' then pushed '\n' (blockBody quote escapes subject 0 rest)
    else if c = '\r' ∧ rest.head? = some '\n' then
      pushed '\n' (blockBody quote escapes subject 1 rest)
    else if isVisible c then pushed c (blockBody quote escapes subject 0 rest)
    else .error ⟨{ subject }, true⟩

def isLiteral (c : Char) : Bool :=
  isVisible c && c != '\''

def basicLine : Grammar (List Char) := do
  Grammar.char '"'
  lineBody 0

def literalLine : Grammar (List Char) :=
  Grammar.named "literal string" do
    Grammar.char '\''
    let body ← Grammar.span isLiteral
    Grammar.settle (Grammar.char '\'')
    return body

def basicBlock : Grammar (List Char) := do
  Grammar.word "\"\"\""
  let _ ← Grammar.optional newline
  blockBody '"' true "multiline basic string" 0

def literalBlock : Grammar (List Char) := do
  Grammar.word "'''"
  let _ ← Grammar.optional newline
  blockBody '\'' false "multiline literal string" 0

def text : Grammar String := do
  return .ofList (← basicBlock.orElse (basicLine.orElse (literalBlock.orElse literalLine)))

end AccessCanvas.Toml

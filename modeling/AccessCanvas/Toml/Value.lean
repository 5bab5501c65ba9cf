import AccessCanvas.Toml.Number
import AccessCanvas.Toml.Table

/-! Keys and values of settings. Lists and tables in braces may be nested in a limited depth. -/

namespace AccessCanvas.Toml

open Grammar

/-- The number of levels that stay within the limit on keys with dots and on nested values. -/
def maxDepth : Nat := 79

def simpleKey : Grammar String := do
  match ← ahead with
  | some '"' => return .ofList (← basicLine)
  | some '\'' => return .ofList (← literalLine)
  | _ =>
    let first ← one isBare
    return .ofList (first :: (← span isBare))

def key : Grammar (List String) := do
  let parts ← named "key" (items (do blanks; let part ← simpleKey; blanks; return part) '.')
  if parts.length ≤ maxDepth then return parts
  else fail (.because .tooDeep)

def equalsSign : Grammar Unit :=
  expecting ["`.`", "`=`"] (char '=')

/-- The items of a list. White space, line ends and comments may stand around them, and a comma
after the last one. -/
def listItems (item : Grammar Item) : Grammar (List Item) := do
  if (← ahead) == some ']' then return []
  match ← optional (items (do gap false; let value ← item; gap false; return value) ',') with
  | none =>
    gap false
    return []
  | some values =>
    let _ ← optional (char ',')
    gap false
    return values

def list (item : Grammar Item) : Grammar Item := do
  char '['
  settle do
    let values ← listItems item
    named "array" (expecting ["`]`"] (char ']'))
    return .list values

def braceItem (item : Grammar Item) : Grammar (List String × Item) := do
  let path ← key
  settle do
    equalsSign
    blanks
    let value ← item
    blanks
    return (path, value)

def addPath (route : Route) (owner : Option (List String)) (path : List String) (item : Item)
    (style : Style) (entries : Entries) : Except Reason Entries :=
  match path.getLast? with
  | none => .ok entries
  | some name =>
    route.change (addItem owner (!path.dropLast.isEmpty) name item) [] path.dropLast style entries

def braces (item : Grammar Item) : Grammar Item := do
  char '{'
  settle do
    let found ← optional (items (braceItem item) ',')
    blanks
    let entries ← ofReason <| (found.getD []).foldlM
      (fun entries (path, value) => addPath .braces none path value .braced entries) []
    named "inline table" (expecting ["`\x7d`"] (char '}'))
    return .table .braced entries

/-- What starts with a letter and is no value is taken for a text without its quotes. -/
def unquoted (rule : Grammar Item) : Grammar Item :=
  named "string" (expecting ["`\"`", "`'`"] rule)

def booleanWord (letters : String) (value : Bool) : Grammar Item :=
  unquoted do
    settle (word letters)
    return .boolean value

def valueWithin (inner : Option (Grammar Item)) : Grammar Item := do
  let nested (rule : Grammar Item → Grammar Item) : Grammar Item :=
    match inner with
    | none => settle (fail (.because .tooDeep))
    | some item => rule item
  match ← ahead with
  | none => fail {}
  | some c =>
    if c = '"' ∨ c = '\'' then return .text (← text)
    else if c = '[' then nested list
    else if c = '{' then nested braces
    else if c = '+' ∨ c = '-' ∨ c.isDigit then number
    else if c = '_' then
      expecting ["leading digit"] (do return .integer (← integer))
    else if c = '.' then
      expecting ["leading digit"] (do return .real (← real).toBits)
    else if c = 't' then booleanWord "true" true
    else if c = 'f' then booleanWord "false" false
    else if c = 'i' then unquoted (do return .real (← infinite).toBits)
    else if c = 'n' then unquoted (do return .real (← undefined).toBits)
    else unquoted (fail {})

def value : (levels : Nat) → Grammar Item
  | 0 => valueWithin none
  | levels + 1 => valueWithin (some (value levels))

end AccessCanvas.Toml

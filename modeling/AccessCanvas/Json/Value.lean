import AccessCanvas.Json.Text

/-!
Documents as values, and how they are written: every entry of a list and every member of an object
on a line of its own, two spaces further in than what holds it. Members keep their order.
-/

namespace AccessCanvas.Json

inductive Value where
  | null
  | boolean (value : Bool)
  | number (value : Number)
  | text (value : String)
  | list (items : List Value)
  | object (members : List (String × Value))

namespace Value

def found : Value → Found
  | .null => .null
  | .boolean value => .boolean value
  | .number value => .number value
  | .text value => .text value
  | .list _ => .list
  | .object _ => .object

def indentation (level : Nat) : List Char :=
  '\n' :: List.replicate (2 * level) ' '

mutual

def layout (level : Nat) : Value → List Char
  | .null => "null".toList
  | .boolean value => (if value then "true" else "false").toList
  | .number value => value.text.toList
  | .text value => quotation value.toList
  | .list [] => ['[', ']']
  | .list (item :: items) =>
    '[' :: indentation (level + 1) ++ layout (level + 1) item ++ layoutItems (level + 1) items ++
      indentation level ++ [']']
  | .object [] => ['{', '}']
  | .object ((name, value) :: members) =>
    '{' :: indentation (level + 1) ++ quotation name.toList ++ [':', ' '] ++
      layout (level + 1) value ++ layoutMembers (level + 1) members ++ indentation level ++ ['}']

def layoutItems (level : Nat) : List Value → List Char
  | [] => []
  | item :: items => ',' :: indentation level ++ layout level item ++ layoutItems level items

def layoutMembers (level : Nat) : List (String × Value) → List Char
  | [] => []
  | (name, value) :: members =>
    ',' :: indentation level ++ quotation name.toList ++ [':', ' '] ++ layout level value ++
      layoutMembers level members

end

def pretty (value : Value) : String :=
  .ofList (layout 0 value)

end Value

end AccessCanvas.Json

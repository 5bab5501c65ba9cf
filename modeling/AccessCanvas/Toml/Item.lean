/-!
What a settings text holds: tables of named items. A table remembers how it came about, because
that decides whether it may still be added to.
-/

namespace AccessCanvas.Toml

inductive Style where
  | braced
  /-- Opened by a header of its own. -/
  | headed
  /-- Named in the header of a table inside it. -/
  | implied
  /-- Named in the key of an item inside it. -/
  | dotted
deriving DecidableEq, Repr

inductive Item where
  | text (value : String)
  | integer (value : Int)
  /-- A number with a fraction or an exponent, by the bits of its binary format. -/
  | real (bits : UInt64)
  | boolean (value : Bool)
  /-- A date or a time, none of which is a setting. -/
  | moment
  | list (items : List Item)
  | table (style : Style) (entries : List (String × Item))
  /-- Tables opened one after another by headers in double brackets. -/
  | tables (items : List Item)

abbrev Entries := List (String × Item)

namespace Item

def sort : Item → String
  | .text _ => "string"
  | .integer _ => "integer"
  | .real _ => "float"
  | .boolean _ => "boolean"
  | .moment => "datetime"
  | .list _ => "array"
  | .table .braced _ => "inline table"
  | .table _ _ => "table"
  | .tables _ => "array of tables"

end Item

end AccessCanvas.Toml

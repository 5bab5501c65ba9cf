import AccessCanvas.Decimal.Shortest
import AccessCanvas.Settings.Basic
import AccessCanvas.Text.Strings
import AccessCanvas.Toml.Document

/-!
Settings read from a text. Whatever the text leaves out keeps its default, and what it says beside
the settings is ignored. A section may also be a list of its settings in their order.
-/

namespace AccessCanvas

open Toml (Item)

namespace Settings

inductive Fault where
  | malformed (fault : Toml.Fault)
  | wrongType (found : Item) (expected : String)
  | negative (value : Int) (expected : String)
  | unknownWord (word : String) (options : List String)
  /-- Neither a word nor a table stands where one of several words was expected. -/
  | noWord
  /-- A table that stands for a word has no item, or more than one. -/
  | noItem
  | furtherItem
  | filledItem
  | filledTables
  | notTable (found : Item)

/-- A number is written positionally always, and half way between two decimals the one further from
zero is taken. -/
def realFormat : Decimal.Format where
  tie := .awayFromZero
  isPositional _ := true

def foundText : Item → String
  | .text value => "string " ++ Text.quoted value
  | .integer value => "integer " ++ Text.ticked (toString value)
  | .real bits =>
    "floating point " ++
      Text.ticked (.ofList ((Decimal.Binary.ofBits bits.toNat).text realFormat))
  | .boolean value => "boolean " ++ Text.ticked (if value then "true" else "false")
  | .moment | .table .. => "map"
  | .list _ | .tables _ => "sequence"

def Fault.text : Fault → String
  | .malformed fault => fault.message
  | .wrongType found expected => "invalid type: " ++ foundText found ++ ", expected " ++ expected
  | .negative value expected =>
    "invalid value: " ++ foundText (.integer value) ++ ", expected " ++ expected
  | .unknownWord word options =>
    "unknown variant " ++ Text.ticked word ++ ", expected " ++ Text.listing options
  | .noWord => "wanted string or table"
  | .noItem => "wanted exactly 1 element, found 0 elements"
  | .furtherItem => "wanted exactly 1 element, more than 1 element"
  | .filledItem => "expected empty table"
  | .filledTables => "expected empty array"
  | .notTable found => "expected table, found " ++ found.sort

def faultHeading : String := "invalid configuration: "

def Fault.message (fault : Fault) : String :=
  faultHeading ++ fault.text

structure Part (group : Type) where
  name : String
  fill : group → Item → Except Fault group

/-- A section from its items by name, or from a list of its parts. A moment holds none of them. -/
def readSection (title : String) (parts : List (Part group)) (start : group) :
    Item → Except Fault group
  | .table _ entries =>
    entries.foldlM (fun sofar (key, item) =>
      match parts.find? (·.name == key) with
      | none => .ok sofar
      | some part => part.fill sofar item) start
  | .list items | .tables items =>
    (parts.zip items).foldlM (fun sofar (part, item) => part.fill sofar item) start
  | .moment => .ok start
  | item => .error (.wrongType item title)

def readCount : Item → Except Fault Nat
  | .integer value => if value < 0 then .error (.negative value "usize") else .ok value.natAbs
  | item => .error (.wrongType item "usize")

def readNothing : Item → Except Fault Unit
  | .list [] | .table _ [] => .ok ()
  | .list _ | .table _ _ => .error .filledItem
  | .tables _ => .error .filledTables
  | item => .error (.notTable item)

def readWord (options : List (String × α)) : Item → Except Fault α
  | .text word => named word
  | .table _ [] => .error .noItem
  | .table _ [(name, content)] =>
    match named name with
    | .error fault => .error fault
    | .ok option => (readNothing content).map fun () => option
  | .table _ _ => .error .furtherItem
  | _ => .error .noWord
where
  named (word : String) : Except Fault α :=
    match options.find? (·.1 == word) with
    | some (_, option) => .ok option
    | none => .error (.unknownWord word (options.map (·.1)))

def searchParts : List (Part SearchSettings) :=
  [⟨"min_query_len", fun sofar item =>
      (readCount item).map fun minQueryLength => { sofar with minQueryLength }⟩,
    ⟨"orientation", fun sofar item =>
      (readWord (Text.byWord Orientation.word Orientation.all) item).map
        fun orientation => { sofar with orientation }⟩]

def loggingParts : List (Part LoggingSettings) :=
  [⟨"profile", fun sofar item =>
      (readWord (Text.byWord Profile.word Profile.all) item).map
        fun profile => { sofar with profile }⟩]

def sections : List (Part Settings) :=
  [⟨"search", fun sofar item =>
      (readSection "struct SearchConfig" searchParts {} item).map
        fun search => { sofar with search }⟩,
    ⟨"logging", fun sofar item =>
      (readSection "struct LoggingConfig" loggingParts {} item).map
        fun logging => { sofar with logging }⟩]

def ofText (written : String) : Except Fault Settings :=
  match Toml.read written with
  | .error fault => .error (.malformed fault)
  | .ok root => readSection "struct AxesConfig" sections {} (.table .headed root)

end Settings

end AccessCanvas

import AccessCanvas.Toml.Fault
import AccessCanvas.Toml.Item

/-!
Adding to tables. Items keep the order in which they were added, and no key is given twice. A table
that was opened by a header or written in braces is complete where dotted keys are concerned, and
one in braces is complete in every respect.
-/

namespace AccessCanvas.Toml

namespace Entries

def get? (entries : Entries) (key : String) : Option Item :=
  (entries.find? (·.1 == key)).map (·.2)

def erase (entries : Entries) (key : String) : Entries :=
  entries.filter (·.1 != key)

def put (entries : Entries) (key : String) (item : Item) : Entries :=
  if entries.any (·.1 == key) then
    entries.map fun entry => if entry.1 == key then (key, item) else entry
  else entries ++ [(key, item)]

end Entries

inductive Route where
  | header
  | line
  | braces
deriving DecidableEq, Repr

namespace Route

def madeStyle : Route → Style
  | .header => .implied
  | .line | .braces => .dotted

def refusal? (route : Route) (style : Style) (before : List String) (key : String) :
    Option Reason :=
  match route, style with
  | .header, .braced | .line, .braced => some (.notTable (before ++ [key]) "inline table")
  | .line, .headed | .braces, .braced => some (.duplicate key none)
  | _, _ => none

/-- Change the table at the end of a path, making the tables on the way that are missing. Of several
tables opened one after another the last one is meant. -/
def change (route : Route) (edit : Style → Entries → Except Reason Entries)
    (before path : List String) (style : Style) (entries : Entries) : Except Reason Entries :=
  match path with
  | [] => edit style entries
  | key :: keys =>
    let inside := change route edit (before ++ [key]) keys
    match entries.get? key with
    | none =>
      (inside route.madeStyle []).map fun made => entries.put key (.table route.madeStyle made)
    | some (.table inner held) =>
      match route.refusal? inner before key with
      | some reason => .error reason
      | none => (inside inner held).map fun changed => entries.put key (.table inner changed)
    | some (.tables items) =>
      match items.getLast? with
      | some (.table inner held) =>
        (inside inner held).map fun changed =>
          entries.put key (.tables (items.dropLast ++ [.table inner changed]))
      | _ => .error (.notTable (before ++ [key]) "array of tables")
    | some item => .error (.notTable (before ++ [key]) item.sort)

end Route

def addItem (owner : Option (List String)) (throughDots : Bool) (key : String) (item : Item)
    (style : Style) (entries : Entries) : Except Reason Entries :=
  if (style == .dotted) != throughDots then .error (.duplicate key none)
  else if (entries.get? key).isSome then .error (.duplicate key owner)
  else .ok (entries ++ [(key, item)])

def isBare (c : Char) : Bool :=
  c.isAlphanum || c == '-' || c == '_'

def escaped (c : Char) : List Char :=
  if c = '\x08' then ['\\', 'b']
  else if c = '\t' then ['\\', 't']
  else if c = '\n' then ['\\', 'n']
  else if c = '\x0c' then ['\\', 'f']
  else if c = '\r' then ['\\', 'r']
  else if c = '"' then ['\\', '"']
  else if c = '\\' then ['\\', '\\']
  else if c.toNat < 0x20 ∨ c = '\x7f' then
    let digits := (Nat.toDigits 16 c.toNat).map Char.toUpper
    ['\\', 'u'] ++ List.replicate (4 - digits.length) '0' ++ digits
  else [c]

/-- A key as a header would write it: bare if it can be, and between single quotes if these spare a
double quote or a backslash its escape and the key can stand between them. -/
def keyText (key : String) : String :=
  let isControl := fun (c : Char) => (c.toNat < 0x20 && c != '\t') || c == '\x7f'
  let letters := key.toList
  if !letters.isEmpty && letters.all isBare then key
  else if letters.any (fun c => c == '"' || c == '\\') &&
      !letters.any (fun c => isControl c || c == '\'') then "'" ++ key ++ "'"
  else "\"" ++ .ofList (letters.flatMap escaped) ++ "\""

/-- Open the table that a header names. One that was implied before moves to the end. -/
def openTable (before : List String) (key : String) (_ : Style) (entries : Entries) :
    Except Reason Entries :=
  match entries.get? key with
  | none => .ok (entries ++ [(key, .table .headed [])])
  | some (.table .implied held) => .ok (entries.erase key ++ [(key, .table .headed held)])
  | some _ => .error (.duplicate (keyText key) (some before))

def openFurther (before : List String) (key : String) (_ : Style) (entries : Entries) :
    Except Reason Entries :=
  match entries.get? key with
  | none => .ok (entries ++ [(key, .tables [.table .headed []])])
  | some (.tables items) => .ok (entries.put key (.tables (items ++ [.table .headed []])))
  | some _ => .error (.duplicate (keyText key) (some before))

end AccessCanvas.Toml

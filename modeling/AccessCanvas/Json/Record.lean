import AccessCanvas.Json.Nested
import AccessCanvas.Json.Skipped

/-!
Records: an object with a member for each part, in any order and among others that are ignored, or
a list of the parts in their order. Parts are collected in a draft, and the record is made from it
in the end; the same form serves records in a text and records in a value that was read before.
-/

namespace AccessCanvas.Json

/-- A part of a record. `source` is what reads it, either from a text or from a value. -/
structure Member (draft source : Type) where
  name : String
  given : draft → Bool
  fill : draft → source

/-- The form of a record. `complete` says what a part that was not given leads to, by its place and
its name. -/
structure Form (draft source record : Type) where
  title : String
  members : List (Member draft source)
  blank : draft
  complete : (absent : Nat → String → Fault) → draft → Except Fault record

def demanded (absent : Nat → String → Fault) (place : Nat) (name : String) :
    Option α → Except Fault α
  | none => .error (absent place name)
  | some part => .ok part

namespace Form

/-- The fault of a list that ends before a part that has to be there. -/
def short (form : Form draft source record) (place : Nat) (_ : String) : Fault :=
  .wrongLength place s!"{form.title} with {form.members.length} elements"

def select (form : Form draft source record) (name : String) (sofar : draft) :
    Except Fault (Option source) :=
  match form.members.find? (·.name == name) with
  | none => .ok none
  | some member =>
    if member.given sofar then .error (.duplicateField name) else .ok (some (member.fill sofar))

def choose (form : Form draft (Reader draft) record) (name : String) (sofar : draft) :
    Except Fault (Reader draft) :=
  (form.select name sofar).map fun
    | none => skipped.map fun () => sofar
    | some reader => reader

def inOrder (parts : List (Member draft (Reader draft))) (first : Bool) (sofar : draft)
    (text : List Char) : Except Fault (draft × List Char) :=
  match parts with
  | [] => (afterList text).map fun rest => (sofar, rest)
  | part :: later =>
    match nextItem first text with
    | .error fault => .error fault
    | .ok (.finished rest) => .ok (sofar, rest)
    | .ok (.entry start) =>
      match (part.fill sofar).run start with
      | .error fault => .error fault
      | .ok (next, rest) => inOrder later false next rest

theorem length_inOrder_lt {parts : List (Member draft (Reader draft))} {first : Bool}
    {sofar result : draft} {text rest : List Char}
    (read : inOrder parts first sofar text = .ok (result, rest)) : rest.length < text.length := by
  induction parts generalizing first sofar text with
  | nil =>
    obtain ⟨after, found, same⟩ := Text.exists_of_map_eq_ok read
    cases same
    exact length_afterList_lt found
  | cons part later step =>
    rw [inOrder] at read
    split at read
    · cases read
    · next ended =>
      cases read
      exact nextItem_finished ended
    · next started =>
      split at read
      · cases read
      · next found =>
        have first := nextItem_entry started
        have second := (part.fill sofar).consumes found
        have third := step read
        omega

def reader (form : Form draft (Reader draft) record) : Reader record where
  run text :=
    match skipBlanks text with
    | [] => .error .endOfValue
    | c :: rest =>
      if c = '{' then
        match Json.members form.choose true form.blank rest with
        | .error fault => .error fault
        | .ok (filled, after) =>
          (form.complete (fun _ => .missingField) filled).map fun record => (record, after)
      else if c = '[' then
        match inOrder form.members true form.blank rest with
        | .error fault => .error fault
        | .ok (filled, after) =>
          (form.complete form.short filled).map fun record => (record, after)
      else .error (unexpected form.title (c :: rest))
  consumes {text _ _} read := by
    have shorter := length_skipBlanks_le text
    split at read
    · cases read
    · next seen =>
      rw [seen, List.length_cons] at shorter
      split at read
      · split at read
        · cases read
        · next found =>
          obtain ⟨record, -, same⟩ := Text.exists_of_map_eq_ok read
          cases same
          have inside := length_members_lt found
          omega
      · split at read
        · split at read
          · cases read
          · next found =>
            obtain ⟨record, -, same⟩ := Text.exists_of_map_eq_ok read
            cases same
            have inside := length_inOrder_lt found
            omega
        · cases read

def addMember (form : Form draft (Value → Except Fault draft) record) (sofar : draft)
    (entry : String × Value) : Except Fault draft :=
  match form.select entry.1 sofar with
  | .error fault => .error fault
  | .ok none => .ok sofar
  | .ok (some fill) => fill entry.2

def addItems : List (Member draft (Value → Except Fault draft)) → draft → List Value →
    Except Fault draft
  | [], sofar, _ => .ok sofar
  | _ :: _, sofar, [] => .ok sofar
  | part :: later, sofar, item :: items =>
    match part.fill sofar item with
    | .error fault => .error fault
    | .ok next => addItems later next items

def ofValue (form : Form draft (Value → Except Fault draft) record) :
    Value → Except Fault record
  | .object entries =>
    match entries.foldlM form.addMember form.blank with
    | .error fault => .error fault
    | .ok filled => form.complete (fun _ => .missingField) filled
  | .list items =>
    match addItems form.members form.blank items with
    | .error fault => .error fault
    | .ok filled =>
      match form.complete form.short filled with
      | .error fault => .error fault
      | .ok record =>
        if items.length ≤ form.members.length then .ok record
        else .error (.wrongLength items.length s!"{form.members.length} elements in sequence")
  | value => .error (.wrongType value.found form.title)

end Form

namespace Value

def readBoolean : Value → Except Fault Bool
  | .boolean value => .ok value
  | value => .error (.wrongType value.found "a boolean")

def readUnit : Value → Except Fault Unit
  | .null | .object [] => .ok ()
  | value => .error (.wrongType value.found "unit")

def readChoice (options : List (String × α)) : Value → Except Fault α
  | .text name => optionNamed options name
  | .object [(name, content)] =>
    match optionNamed options name with
    | .error fault => .error fault
    | .ok option => content.readUnit.map fun () => option
  | .object _ => .error (.wrongValue .object "map with a single key")
  | value => .error (.wrongType value.found "string or map")

end Value

end AccessCanvas.Json

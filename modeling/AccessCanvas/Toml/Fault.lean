import AccessCanvas.Text.Strings

/-!
What can be wrong with a settings text before it is known what the settings are. A fault names the
part that is wrong, what could have stood there, and why a part of the right shape is refused; each
of the three may be missing.
-/

namespace AccessCanvas.Toml

inductive Reason where
  | outOfRange
  | tooLarge
  | tooSmall
  | tooDeep
  /-- The key is written as a text would write it; the owner is the table that has it already. -/
  | duplicate (key : String) (owner : Option (List String))
  /-- A key of more than one part goes through a value that has no keys. -/
  | notTable (path : List String) (sort : String)
deriving DecidableEq, Repr

def dotted (path : List String) : String :=
  Text.ticked (".".intercalate path)

def Reason.message : Reason → String
  | .outOfRange => "value is out of range"
  | .tooLarge => "number too large to fit in target type"
  | .tooSmall => "number too small to fit in target type"
  | .tooDeep => "recursion limit exceeded"
  | .duplicate key none => "duplicate key " ++ Text.ticked key
  | .duplicate key (some []) => "duplicate key " ++ Text.ticked key ++ " in document root"
  | .duplicate key (some path) => "duplicate key " ++ Text.ticked key ++ " in table " ++ dotted path
  | .notTable path sort =>
    "dotted key " ++ dotted path ++ " attempted to extend non-table type (" ++ sort ++ ")"

structure Fault where
  subject : Option String := none
  expected : List String := []
  reason : Option Reason := none
deriving DecidableEq, Repr

namespace Fault

def message (fault : Fault) : String :=
  "\n".intercalate
    ((fault.subject.map ("invalid " ++ ·)).toList ++
      (if fault.expected.isEmpty then [] else ["expected " ++ ", ".intercalate fault.expected]) ++
      (fault.reason.map Reason.message).toList)

def because (reason : Reason) : Fault :=
  { reason := some reason }

end Fault

end AccessCanvas.Toml

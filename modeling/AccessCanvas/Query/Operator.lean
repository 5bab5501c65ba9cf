import AccessCanvas.Text.Strings

/-!
The spellings of a condition inside a clause, and the search for the first of them. Worded
operators need a space on either side. Of the operators that start at one place the longest wins,
so two equal signs are never read as one before a pattern that starts with another.
-/

namespace AccessCanvas

inductive Operator where
  | startsWith
  | endsWith
  | has
  | tripleEquals
  | doubleEquals
  | notEquals
  | equals
deriving DecidableEq, Repr

namespace Operator

def spelling : Operator → List Char
  | .startsWith => " startswith ".toList
  | .endsWith => " endswith ".toList
  | .has => " has ".toList
  | .tripleEquals => "===".toList
  | .doubleEquals => "==".toList
  | .notEquals => "!=".toList
  | .equals => "=".toList

/-- Every operator, a longer one before those its spelling starts with. -/
def all : List Operator :=
  [.startsWith, .endsWith, .has, .tripleEquals, .doubleEquals, .notEquals, .equals]

def atStart? (text : List Char) : Option Operator :=
  all.find? (·.spelling.isPrefixOf text)

structure Found where
  before : List Char
  operator : Operator
  after : List Char
deriving DecidableEq, Repr

namespace Found

def start (found : Found) : Nat :=
  Text.byteCount found.before

def stop (found : Found) : Nat :=
  found.start + Text.byteCount found.operator.spelling

end Found

def find? : List Char → Option Found
  | [] => none
  | c :: rest =>
    match atStart? (c :: rest) with
    | some operator => some ⟨[], operator, (c :: rest).drop operator.spelling.length⟩
    | none => (find? rest).map fun found => { found with before := c :: found.before }

theorem find?_parts {clause : List Char} {found : Found} (first : find? clause = some found) :
    found.before ++ found.operator.spelling ++ found.after = clause := by
  induction clause generalizing found with
  | nil => simp [find?] at first
  | cons c rest step =>
    rw [find?] at first
    split at first
    · next operator here =>
      simp only [Option.some.injEq] at first
      subst first
      have starts := List.find?_some here
      rw [List.isPrefixOf_iff_prefix] at starts
      obtain ⟨after, whole⟩ := starts
      simp [← whole]
    · obtain ⟨later, inner, rfl⟩ := Option.map_eq_some_iff.mp first
      simpa using step inner

end Operator

end AccessCanvas

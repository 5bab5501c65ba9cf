import AccessCanvas.Json.Reader

/-!
Values whose content does not matter. They are passed over without being built, nested as deeply as
they like: the brackets that are still open are kept in a list, the innermost first.
-/

namespace AccessCanvas.Json

inductive Bracket where
  | list
  | object
deriving DecidableEq, Repr

namespace Bracket

def ofChar? (c : Char) : Option Bracket :=
  if c = '[' then some .list else if c = '{' then some .object else none

def closing : Bracket → Char
  | .list => ']'
  | .object => '}'

def unclosed : Bracket → Fault
  | .list => .endOfList
  | .object => .endOfObject

def unseparated : Bracket → Fault
  | .list => .expectedListEnd
  | .object => .expectedObjectEnd

def valueStart (bracket : Bracket) (text : List Char) : Except Fault (List Char) :=
  match bracket with
  | .list => .ok text
  | .object =>
    match skipBlanks text with
    | [] => .error .endOfObject
    | c :: rest =>
      if c = '"' then
        match afterText 0 rest with
        | .error fault => .error fault
        | .ok after => afterColon after
      else .error .keyNotText

theorem length_valueStart_le {bracket : Bracket} {text start : List Char}
    (read : bracket.valueStart text = .ok start) : start.length ≤ text.length := by
  have shorter := length_skipBlanks_le text
  rw [valueStart.eq_def] at read
  split at read
  · cases read
    exact Nat.le_refl _
  · split at read
    · cases read
    · next seen =>
      rw [seen, List.length_cons] at shorter
      split at read
      · split at read
        · cases read
        · next name =>
          have first := length_afterText_lt name
          have second := length_afterColon_lt read
          omega
      · cases read

end Bracket

/-- What follows when brackets have been closed: the end of the value, or a further value inside
the brackets that are still open. -/
inductive Onward where
  | finished (rest : List Char)
  | value (nesting : List Bracket) (start : List Char)

/-- Close brackets as far as the text does. An entry needs a comma before it unless it is the first
one after its opening bracket. -/
def onward (first : Bool) (nesting : List Bracket) (text : List Char) : Except Fault Onward :=
  match nesting with
  | [] => .ok (.finished text)
  | bracket :: outer =>
    match skipBlanks text with
    | [] => .error bracket.unclosed
    | c :: rest =>
      if c = bracket.closing then onward false outer rest
      else if first then (bracket.valueStart (c :: rest)).map (.value nesting)
      else if c = ',' then (bracket.valueStart rest).map (.value nesting)
      else .error bracket.unseparated

theorem onward_finished {first : Bool} {nesting : List Bracket} {text rest : List Char}
    (read : onward first nesting text = .ok (.finished rest)) : rest.length ≤ text.length := by
  induction nesting generalizing first text with
  | nil =>
    cases read
    exact Nat.le_refl _
  | cons bracket outer step =>
    have shorter := length_skipBlanks_le text
    rw [onward] at read
    split at read
    · cases read
    · next seen =>
      rw [seen, List.length_cons] at shorter
      split at read
      · have inner := step read
        omega
      · split at read
        · obtain ⟨start, -, same⟩ := Text.exists_of_map_eq_ok read
          cases same
        · split at read
          · obtain ⟨start, -, same⟩ := Text.exists_of_map_eq_ok read
            cases same
          · cases read

theorem onward_value {first : Bool} {nesting inner : List Bracket} {text start : List Char}
    (read : onward first nesting text = .ok (.value inner start)) :
    start.length ≤ text.length := by
  induction nesting generalizing first text with
  | nil => cases read
  | cons bracket outer step =>
    have shorter := length_skipBlanks_le text
    rw [onward] at read
    split at read
    · cases read
    · next seen =>
      rw [seen, List.length_cons] at shorter
      split at read
      · have inside := step read
        omega
      · split at read
        · obtain ⟨found, named, same⟩ := Text.exists_of_map_eq_ok read
          cases same
          have inside := Bracket.length_valueStart_le named
          rw [List.length_cons] at inside
          omega
        · split at read
          · obtain ⟨found, named, same⟩ := Text.exists_of_map_eq_ok read
            cases same
            have inside := Bracket.length_valueStart_le named
            omega
          · cases read

def afterScalar (text : List Char) : Except Fault (List Char) :=
  match text with
  | [] => .error .endOfValue
  | c :: rest =>
    match wordOf? c with
    | some (letters, _) => afterWord letters.toList rest
    | none =>
      if startsNumber c then afterNumber (c :: rest)
      else if c = '"' then afterText 0 rest
      else .error .expectedValue

theorem length_afterScalar_lt {text rest : List Char} (read : afterScalar text = .ok rest) :
    rest.length < text.length := by
  rw [afterScalar.eq_def] at read
  split at read
  · cases read
  · split at read
    · exact Nat.lt_succ_of_le (length_afterWord_le read)
    · split at read
      · exact length_afterNumber_lt read
      · split at read
        · exact Nat.lt_succ_of_lt (length_afterText_lt read)
        · cases read

def enter (nesting : List Bracket) (text : List Char) : Except Fault Onward :=
  match skipBlanks text with
  | [] => .error .endOfValue
  | c :: rest =>
    match Bracket.ofChar? c with
    | some bracket => onward true (bracket :: nesting) rest
    | none =>
      match afterScalar (c :: rest) with
      | .error fault => .error fault
      | .ok after => onward false nesting after

theorem enter_finished {nesting : List Bracket} {text rest : List Char}
    (read : enter nesting text = .ok (.finished rest)) : rest.length < text.length := by
  have shorter := length_skipBlanks_le text
  rw [enter] at read
  split at read
  · cases read
  · next seen =>
    rw [seen, List.length_cons] at shorter
    split at read
    · have inside := onward_finished read
      omega
    · split at read
      · cases read
      · next scalar =>
        have first := length_afterScalar_lt scalar
        have second := onward_finished read
        rw [List.length_cons] at first
        omega

theorem enter_value {nesting inner : List Bracket} {text start : List Char}
    (read : enter nesting text = .ok (.value inner start)) : start.length < text.length := by
  have shorter := length_skipBlanks_le text
  rw [enter] at read
  split at read
  · cases read
  · next seen =>
    rw [seen, List.length_cons] at shorter
    split at read
    · have inside := onward_value read
      omega
    · split at read
      · cases read
      · next scalar =>
        have first := length_afterScalar_lt scalar
        have second := onward_value read
        rw [List.length_cons] at first
        omega

def passOver (nesting : List Bracket) (text : List Char) : Except Fault (List Char) :=
  match _read : enter nesting text with
  | .error fault => .error fault
  | .ok (.finished rest) => .ok rest
  | .ok (.value inner start) => passOver inner start
termination_by text.length
decreasing_by exact enter_value _read

theorem length_passOver_lt {nesting : List Bracket} {text rest : List Char}
    (read : passOver nesting text = .ok rest) : rest.length < text.length := by
  fun_induction passOver nesting text with
  | case1 => cases read
  | case2 _ _ _ entered =>
    cases read
    exact enter_finished entered
  | case3 _ _ _ _ entered step =>
    have first := enter_value entered
    have second := step read
    omega

def skipped : Reader Unit where
  run text := (passOver [] text).map fun rest => ((), rest)
  consumes read := by
    obtain ⟨rest, found, same⟩ := Text.exists_of_map_eq_ok read
    cases same
    exact length_passOver_lt found

end AccessCanvas.Json

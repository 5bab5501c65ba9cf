import AccessCanvas.Json.Number
import AccessCanvas.Json.Value

/-!
Readers of single values. A reader that wants one kind of value and meets another says which one
it met, after reading it as far as that takes; a fault inside it comes first.
-/

namespace AccessCanvas.Json

def wordOf? (letter : Char) : Option (String × Value) :=
  if letter = 'n' then some ("ull", .null)
  else if letter = 't' then some ("rue", .boolean true)
  else if letter = 'f' then some ("alse", .boolean false)
  else none

def startsNumber (c : Char) : Bool :=
  c == '-' || c.isDigit

def scalarHead (text : List Char) : Except Fault (Value × List Char) :=
  match text with
  | [] => .error .endOfValue
  | c :: rest =>
    match wordOf? c with
    | some (letters, value) => (afterWord letters.toList rest).map fun rest => (value, rest)
    | none =>
      if startsNumber c then
        (numberHead (c :: rest)).map fun (number, rest) => (.number number, rest)
      else if c = '"' then (stringBody rest).map fun (body, rest) => (.text body, rest)
      else .error .expectedValue

theorem length_scalarHead_lt {text rest : List Char} {value : Value}
    (read : scalarHead text = .ok (value, rest)) : rest.length < text.length := by
  rw [scalarHead.eq_def] at read
  split at read
  · cases read
  · next c after =>
    split at read
    · obtain ⟨left, inner, same⟩ := Text.exists_of_map_eq_ok read
      cases same
      exact Nat.lt_succ_of_le (length_afterWord_le inner)
    · split at read
      · obtain ⟨parts, inner, same⟩ := Text.exists_of_map_eq_ok read
        cases same
        exact length_numberHead_lt inner
      · split at read
        · obtain ⟨parts, inner, same⟩ := Text.exists_of_map_eq_ok read
          cases same
          exact Nat.lt_succ_of_lt (length_stringBody_lt inner)
        · cases read

def unexpected (expected : String) (text : List Char) : Fault :=
  match text with
  | '[' :: _ => .wrongType .list expected
  | '{' :: _ => .wrongType .object expected
  | _ =>
    match scalarHead text with
    | .error fault => fault
    | .ok (value, _) => .wrongType value.found expected

/-- A text; `expected` says what it is in the fault when there is none. -/
def textAs (expected : String) : Reader String where
  run text :=
    match skipBlanks text with
    | [] => .error .endOfValue
    | c :: rest => if c = '"' then stringBody rest else .error (unexpected expected (c :: rest))
  consumes {text _ _} read := by
    have shorter := length_skipBlanks_le text
    split at read
    · cases read
    · next seen =>
      rw [seen, List.length_cons] at shorter
      split at read
      · have inner := length_stringBody_lt read
        omega
      · cases read

def text : Reader String :=
  textAs "a string"

def wordAs (expected : String) (accepts : Value → Option α) : Reader α where
  run text :=
    match skipBlanks text with
    | [] => .error .endOfValue
    | c :: rest =>
      match wordOf? c with
      | none => .error (unexpected expected (c :: rest))
      | some (letters, value) =>
        match accepts value with
        | none => .error (unexpected expected (c :: rest))
        | some result => (afterWord letters.toList rest).map fun rest => (result, rest)
  consumes {text _ _} read := by
    have shorter := length_skipBlanks_le text
    split at read
    · cases read
    · next seen =>
      rw [seen, List.length_cons] at shorter
      split at read
      · cases read
      · split at read
        · cases read
        · obtain ⟨left, inner, same⟩ := Text.exists_of_map_eq_ok read
          cases same
          have smaller := length_afterWord_le inner
          omega

def unit : Reader Unit :=
  wordAs "unit" fun
    | .null => some ()
    | _ => none

def optionNamed (options : List (String × α)) (name : String) : Except Fault α :=
  match options.find? (·.1 == name) with
  | some (_, value) => .ok value
  | none => .error (.unknownVariant name (options.map (·.1)))

def variant (options : List (String × α)) : Reader α where
  run text :=
    match (textAs "variant identifier").run text with
    | .error fault => .error fault
    | .ok (name, rest) => (optionNamed options name).map fun value => (value, rest)
  consumes read := by
    split at read
    · cases read
    · next found =>
      obtain ⟨value, -, same⟩ := Text.exists_of_map_eq_ok read
      cases same
      exact (textAs "variant identifier").consumes found

def memberNamed (options : List (String × α)) : Reader α where
  run text :=
    match skipBlanks text with
    | [] => .error .endOfObject
    | c :: rest =>
      if c = '"' then (variant options).run (c :: rest)
      else if c = '}' then .error .expectedValue
      else .error .keyNotText
  consumes {text _ _} read := by
    have shorter := length_skipBlanks_le text
    split at read
    · cases read
    · next seen =>
      rw [seen, List.length_cons] at shorter
      split at read
      · have inner := (variant options).consumes read
        rw [List.length_cons] at inner
        omega
      · split at read
        · cases read
        · cases read

/-- One of the options: its name, or an object whose only member has that name and is null. -/
def choice (options : List (String × α)) : Reader α where
  run text :=
    match skipBlanks text with
    | [] => .error .endOfValue
    | c :: rest =>
      if c = '"' then (variant options).run (c :: rest)
      else if c = '{' then
        match (memberNamed options).run rest with
        | .error fault => .error fault
        | .ok (value, afterName) =>
          match afterColon afterName with
          | .error fault => .error fault
          | .ok content =>
            match unit.run content with
            | .error fault => .error fault
            | .ok ((), afterContent) =>
              match skipBlanks afterContent with
              | [] => .error .endOfObject
              | d :: after => if d = '}' then .ok (value, after) else .error .expectedValue
      else .error .expectedValue
  consumes {text _ _} read := by
    have shorter := length_skipBlanks_le text
    split at read
    · cases read
    · next seen =>
      rw [seen, List.length_cons] at shorter
      split at read
      · have inner := (variant options).consumes read
        rw [List.length_cons] at inner
        omega
      · split at read
        · split at read
          · cases read
          · next named =>
            split at read
            · cases read
            · next colon =>
              split at read
              · cases read
              · next afterContent content =>
                have last := length_skipBlanks_le afterContent
                split at read
                · cases read
                · next closing =>
                  split at read
                  · cases read
                    have first := (memberNamed options).consumes named
                    have second := length_afterColon_lt colon
                    have third := unit.consumes content
                    rw [closing, List.length_cons] at last
                    omega
                  · cases read
        · cases read

def document (reader : Reader α) (written : String) : Except Fault α :=
  match reader.run written.toList with
  | .error fault => .error fault
  | .ok (value, rest) => if (skipBlanks rest).isEmpty then .ok value else .error .trailingCharacters

end AccessCanvas.Json

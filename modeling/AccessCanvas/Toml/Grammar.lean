import AccessCanvas.Toml.Fault

/-!
The combinators that the grammar of settings texts is written with. A rule that fails may leave
room for another one at the same place, unless it has read enough to settle what stands there.
-/

namespace AccessCanvas.Toml

structure Failure where
  fault : Fault := {}
  settled : Bool := false

abbrev Grammar := StateT (List Char) (Except Failure)

namespace Grammar

def fail (fault : Fault) : Grammar α := fun _ =>
  .error { fault }

def change (edit : Failure → Failure) (rule : Grammar α) : Grammar α := fun text =>
  match rule text with
  | .error failure => .error (edit failure)
  | .ok result => .ok result

/-- Name what the rule reads; the innermost name counts. -/
def named (subject : String) (rule : Grammar α) : Grammar α :=
  rule.change fun failure =>
    { failure with fault.subject := failure.fault.subject.or (some subject) }

def expecting (words : List String) (rule : Grammar α) : Grammar α :=
  rule.change fun failure => { failure with fault.expected := failure.fault.expected ++ words }

def settle (rule : Grammar α) : Grammar α :=
  rule.change fun failure => { failure with settled := true }

def optional (rule : Grammar α) : Grammar (Option α) := fun text =>
  match rule text with
  | .ok (value, rest) => .ok (some value, rest)
  | .error failure => if failure.settled then .error failure else .ok (none, text)

def orElse (first second : Grammar α) : Grammar α := fun text =>
  match first text with
  | .ok result => .ok result
  | .error failure => if failure.settled then .error failure else second text

def ofReason (attempt : Except Reason α) : Grammar α :=
  match attempt with
  | .error reason => fail (.because reason)
  | .ok value => pure value

def ahead : Grammar (Option Char) := fun text =>
  .ok (text.head?, text)

def one (accepts : Char → Bool) : Grammar Char := fun text =>
  match text with
  | [] => .error {}
  | c :: rest => if accepts c then .ok (c, rest) else .error {}

def char (c : Char) : Grammar Unit := do
  let _ ← one (· == c)

def word (letters : String) : Grammar Unit := fun text =>
  if letters.toList.isPrefixOf text then .ok ((), text.drop letters.length) else .error {}

def span (accepts : Char → Bool) : Grammar (List Char) := fun text =>
  .ok (text.takeWhile accepts, text.dropWhile accepts)

def furtherItems (item : Grammar α) (separator : Char) : (count : Nat) → Grammar (List α)
  | 0 => pure []
  | count + 1 => do
    match ← optional (do char separator; item) with
    | none => return []
    | some value => return value :: (← furtherItems item separator count)

def items (item : Grammar α) (separator : Char) : Grammar (List α) := do
  let first ← item
  let text ← get
  return first :: (← furtherItems item separator text.length)

end Grammar

def isBlank (c : Char) : Bool :=
  c == ' ' || c == '\t'

def isVisible (c : Char) : Bool :=
  c == '\t' || (' ' ≤ c && c != '\x7f')

def blanks : Grammar Unit := do
  let _ ← Grammar.span isBlank

def newline : Grammar Unit :=
  (Grammar.char '\n').orElse (Grammar.word "\r\n")

def atEnd : Grammar Unit := fun text =>
  if text.isEmpty then .ok ((), text) else .error {}

def comment : Grammar Unit := do
  Grammar.char '#'
  let _ ← Grammar.span isVisible

def lineEnd : Grammar Unit :=
  newline.orElse atEnd

def trailing : Grammar Unit := do
  blanks
  let _ ← Grammar.optional comment
  lineEnd

/-- White space, line ends and comments, which have to end with their line. -/
def gap (inComment : Bool) : List Char → Except Failure (Unit × List Char)
  | [] => if inComment then .error {} else .ok ((), [])
  | c :: rest =>
    if c = '\n' then gap false rest
    else if c = '\r' then
      if rest.head? = some '\n' then gap inComment rest else .error {}
    else if inComment then if isVisible c then gap true rest else .error {}
    else if isBlank c then gap false rest
    else if c = '#' then gap true rest
    else .ok ((), c :: rest)

end AccessCanvas.Toml

import AccessCanvas.Toml.Value

/-!
Settings texts as a whole: lines that give an item its value, and headers that say which table the
items after them belong to.
-/

namespace AccessCanvas.Toml

open Grammar

structure Draft where
  root : Entries := []
  path : List String := []

namespace Draft

def addItem (draft : Draft) (path : List String) (item : Item) : Except Reason Draft :=
  (Route.header.change (addPath .line (some draft.path) path item) [] draft.path .headed
    draft.root).map fun root => { draft with root }

def enter (draft : Draft) (opening : List String → String → Style → Entries → Except Reason Entries)
    (path : List String) : Except Reason Draft :=
  match path.getLast? with
  | none => .ok draft
  | some name =>
    (Route.header.change (opening path.dropLast name) [] path.dropLast .headed draft.root).map
      fun root => { root, path }

end Draft

def lineTrailing : Grammar Unit :=
  expecting ["newline", "`#`"] trailing

def itemLine (draft : Draft) : Grammar Draft := do
  let path ← key
  equalsSign
  blanks
  let item ← value maxDepth
  lineTrailing
  ofReason (draft.addItem path item)

def simpleHeader (draft : Draft) : Grammar Draft := do
  char '['
  let path ← key
  expecting ["`.`", "`]`"] (char ']')
  lineTrailing
  ofReason (draft.enter openTable path)

def furtherHeader (draft : Draft) : Grammar Draft := do
  word "[["
  let path ← key
  expecting ["`.`", "`]]`"] (word "]]")
  lineTrailing
  ofReason (draft.enter openFurther path)

def header (draft : Draft) : Grammar Draft :=
  named "table header" do
    match ← get with
    | '[' :: '[' :: _ => furtherHeader draft
    | '[' :: _ :: _ => simpleHeader draft
    | _ => fail {}

def line (draft : Draft) : Grammar Draft := do
  match ← ahead with
  | some '#' =>
    comment
    lineEnd
    return draft
  | some '[' => header draft
  | some '\n' | some '\r' =>
    newline
    return draft
  | _ => itemLine draft

def lines : (count : Nat) → Draft → Grammar Draft
  | 0, draft => return draft
  | count + 1, draft => do
    blanks
    if (← ahead).isNone then return draft
    lines count (← line draft)

def read (written : String) : Except Fault Entries :=
  let start := match written.toList with
    | '\uFEFF' :: rest => rest
    | letters => letters
  match lines (start.length + 1) {} start with
  | .error failure => .error failure.fault
  | .ok (draft, _) => .ok draft.root

end AccessCanvas.Toml

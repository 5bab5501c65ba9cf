import AccessCanvas.Artifact.Node
import AccessCanvas.Query.Operator
import AccessCanvas.Query.Statement

/-!
Queries: statements that must all hold, written as clauses with semicolons between them.

Reading a query never fails. The text is folded and its white space squeezed; then every clause of
at least three characters is a statement. A clause without an operator between two texts asks for
artifacts by name. The attribute is folded before it is compared. Nothing satisfies a statement about
an empty attribute, or one with an unsupported part.
-/

namespace AccessCanvas

abbrev Query := List Statement

def Statement.ofClause (clause : List Char) : Statement :=
  match Operator.find? clause with
  | none => bare (.ofList clause)
  | some found =>
    if found.before = [] ∨ found.after = [] then bare (.ofList clause)
    else make (.ofText (.ofList found.before)) (.ofText (.ofList found.operator.spelling))
      (.ofList (Text.trim found.after))

namespace Query

def separator : Char := ';'

def minClauseLength : Nat := 3

/-- The text with one space for every stretch of white space, none at its ends, and folded. -/
def normalize (raw : List Char) : List Char :=
  Text.fold (Text.squeeze raw)

def clauses (text : List Char) : List (List Char) :=
  ((Text.pieces (· == separator) text).map Text.trim).filter (minClauseLength ≤ ·.length)

def parse (raw : String) : Query :=
  (clauses (normalize raw.toList)).map Statement.ofClause

def ofTenant (raw : String) : Query :=
  [.make (.known .tenant) .equals (Text.trimmed raw)]

def render (query : Query) : String :=
  "; ".intercalate (query.map Statement.render)

end Query

def Condition.holds (condition : Condition) (value pattern : List Char) : Bool :=
  match condition with
  | .equals => value == pattern
  | .notEquals => value != pattern
  | .has => Text.occursIn pattern value
  | .startsWith => pattern.isPrefixOf value
  | .endsWith => pattern.isSuffixOf value
  | .unsupported _ => false

def Statement.accepts (statement : Statement) (node : Node) : Bool :=
  match statement.selector with
  | .known key =>
    node.read key != "" &&
      statement.condition.holds (Text.fold (node.read key).toList) statement.pattern.toList
  | .unsupported _ => false

def Query.accepts (query : Query) (node : Node) : Bool :=
  query.all (·.accepts node)

end AccessCanvas

import AccessCanvas.Artifact.Kind
import AccessCanvas.Text.Strings

/-!
One statement of a query: what it looks at, which is an attribute or something written that is none,
how it compares that, and with which pattern. The pattern is folded when the statement is made.
-/

namespace AccessCanvas

inductive Selector where
  | known (key : Attribute)
  | unsupported (text : String)
deriving DecidableEq, Repr

namespace Selector

def text : Selector → String
  | .known .name => "name"
  | .known .tenant => "tenant"
  | .unsupported written => written

def ofText (written : String) : Selector :=
  let name := Text.folded (Text.trimmed written)
  if name = "name" then .known .name
  else if name = "tenant" then .known .tenant
  else .unsupported name

end Selector

inductive Condition where
  | equals
  | notEquals
  | has
  | startsWith
  | endsWith
  | unsupported (text : String)
deriving DecidableEq, Repr

namespace Condition

def text : Condition → String
  | .equals => "="
  | .notEquals => "!="
  | .has => "has"
  | .startsWith => "startswith"
  | .endsWith => "endswith"
  | .unsupported written => written

def isWorded : Condition → Bool
  | .has | .startsWith | .endsWith => true
  | .equals | .notEquals | .unsupported _ => false

def ofText (written : String) : Condition :=
  let name := Text.folded (Text.trimmed written)
  if name ∈ ["=", "==", "===", "equals"] then .equals
  else if name ∈ ["!=", "notequals"] then .notEquals
  else if name = "has" then .has
  else if name = "startswith" then .startsWith
  else if name = "endswith" then .endsWith
  else .unsupported name

end Condition

structure Statement where
  selector : Selector
  condition : Condition
  pattern : String
  folded : Text.folded pattern = pattern

namespace Statement

theorem ext {left right : Statement} (selector : left.selector = right.selector)
    (condition : left.condition = right.condition) (pattern : left.pattern = right.pattern) :
    left = right := by
  cases left
  cases right
  simp_all

theorem ext_iff {left right : Statement} :
    left = right ↔ left.selector = right.selector ∧ left.condition = right.condition ∧
      left.pattern = right.pattern :=
  ⟨fun same => by subst same; exact ⟨rfl, rfl, rfl⟩, fun same => ext same.1 same.2.1 same.2.2⟩

instance : DecidableEq Statement := fun _ _ => decidable_of_iff _ ext_iff.symm

def make (selector : Selector) (condition : Condition) (pattern : String) : Statement :=
  ⟨selector, condition, Text.folded pattern, Text.folded_folded pattern⟩

def bare (pattern : String) : Statement :=
  make (.known .name) .equals pattern

def withPattern (statement : Statement) (pattern : String) : Statement :=
  make statement.selector statement.condition pattern

/-- What stands between the selector and the condition. A sign follows the selector at once, unless
the selector's last character would make another sign of it. -/
def gap (selector : Selector) : Condition → String
  | .equals | .notEquals => if selector.text.toList.getLast? = some '!' then " " else ""
  | .has | .startsWith | .endsWith | .unsupported _ => " "

def render (statement : Statement) : String :=
  statement.selector.text ++ gap statement.selector statement.condition ++
    statement.condition.text ++ " " ++ statement.pattern

end Statement

end AccessCanvas

import Std.Data.HashSet
import AccessCanvas.Artifact.Kind
import AccessCanvas.Text.Strings

/-!
Artifacts on the canvas. An artifact made from its parts has a name and a tenant that are not
vacant and an id derived from kind, tenant and name; one read from a document is taken as it is.
-/

namespace AccessCanvas

/-- The id of an artifact, compared as a text and ordered by its characters. -/
abbrev ArtifactId := String

namespace ArtifactId

def derive (kindLabel tenant name : String) : ArtifactId :=
  kindLabel ++ "/" ++ tenant ++ "/" ++ name

def sorted (ids : List ArtifactId) : List ArtifactId :=
  ids.mergeSort fun left right => !decide (right < left)

def distinctCount (ids : List ArtifactId) : Nat :=
  (Std.HashSet.ofList ids).size

def lastPosition? (ids : List ArtifactId) (id : ArtifactId) : Option Nat :=
  (ids.reverse.idxOf? id).map fun later => ids.length - 1 - later

end ArtifactId

structure Node where
  id : ArtifactId
  name : String
  tenant : String
  kind : Kind
deriving DecidableEq, Repr

structure VacantAttribute where
  which : Attribute
deriving DecidableEq, Repr

def VacantAttribute.message (vacant : VacantAttribute) : String :=
  s!"artifact {vacant.which.label} must not be empty"

namespace Node

def ofParts (name tenant : String) (kind : Kind) : Node :=
  ⟨ArtifactId.derive kind.label tenant name, name, tenant, kind⟩

/-- The artifact with these parts. A vacant name is reported before a vacant tenant. -/
def make (name tenant : String) (kind : Kind) : Except VacantAttribute Node :=
  if Text.isVacant name then .error ⟨.name⟩
  else if Text.isVacant tenant then .error ⟨.tenant⟩
  else .ok (ofParts name tenant kind)

def withId (node : Node) (id : ArtifactId) : Node :=
  { node with id }

def read (node : Node) : Attribute → String
  | .name => node.name
  | .tenant => node.tenant

def description (node : Node) : List (String × String) :=
  match node.kind with
  | .auth principal =>
    [("AuthType", principal.type.label), ("AuthVariant", principal.dependency.word),
      ("IsJit", if principal.justInTime then "true" else "false"),
      (Attribute.name.label, node.name), (Attribute.tenant.label, node.tenant)]
  | .resource resource =>
    [(Attribute.name.label, node.name), ("ResourceType", resource.environment.label),
      ("ResourceVariant", resource.purpose.word), (Attribute.tenant.label, node.tenant)]

end Node

end AccessCanvas

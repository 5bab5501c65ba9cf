import AccessCanvas.Artifact.Node

/-!
Relationships between artifacts, and whether they are followed only from source to target or both
ways. An end may name an id that no artifact on the canvas has.
-/

namespace AccessCanvas

inductive Access where
  | standard
  | justInTime
deriving DecidableEq, Repr

namespace Access

def word : Access → String
  | .standard => "Standard"
  | .justInTime => "JustInTime"

def label : Access → String
  | .standard => "has access"
  | .justInTime => "has JIT access"

def all : List Access :=
  [.standard, .justInTime]

end Access

/-- The source grants access to the target, or contains it. -/
structure Edge where
  source : ArtifactId
  target : ArtifactId
  access : Access := .standard
deriving DecidableEq, Repr

namespace Edge

def connect (source target : Node) : Edge :=
  ⟨source.id, target.id, if source.kind.justInTime then .justInTime else .standard⟩

def id (edge : Edge) : String :=
  edge.source ++ "-" ++ edge.target

def label (edge : Edge) : String :=
  edge.access.label

end Edge

inductive Orientation where
  | directed
  | undirected
deriving DecidableEq, Repr

namespace Orientation

def word : Orientation → String
  | .directed => "directed"
  | .undirected => "undirected"

def all : List Orientation :=
  [.directed, .undirected]

def ofDirected (directed : Bool) : Orientation :=
  if directed then .directed else .undirected

def isDirected : Orientation → Bool
  | .directed => true
  | .undirected => false

end Orientation

end AccessCanvas

import AccessCanvas.Canvas.Document
import AccessCanvas.Policy

/-! A canvas being worked on, together with the settings of its searches. -/

namespace AccessCanvas

structure Workspace where
  canvas : Canvas := {}
  settings : Settings := {}
deriving DecidableEq, Repr

namespace Workspace

def explorer (workspace : Workspace) : Explorer :=
  { orientation := workspace.settings.search.orientation }

def policy (workspace : Workspace) : Policy :=
  .ofSettings workspace.settings.search

def index (workspace : Workspace) : Adjacency :=
  workspace.explorer.index workspace.canvas

def seeds (workspace : Workspace) (raw : String) : List Node :=
  (Query.parse raw).seeds (.ofList workspace.canvas.nodes)

def addNode (workspace : Workspace) (node : Node) : Workspace :=
  { workspace with canvas := workspace.canvas.addNode node }

def addEdge (workspace : Workspace) (edge : Edge) : Workspace :=
  { workspace with canvas := workspace.canvas.addEdge edge }

def connect (workspace : Workspace) (source target : ArtifactId) : Option (Edge × Workspace) :=
  match workspace.canvas.node? source, workspace.canvas.node? target with
  | some first, some second =>
    some (.connect first second, workspace.addEdge (.connect first second))
  | _, _ => none

def removeNodes (workspace : Workspace) (id : ArtifactId) : Workspace :=
  { workspace with canvas := workspace.canvas.removeNodes id }

def removeEdges (workspace : Workspace) (id : String) : Workspace :=
  { workspace with canvas := workspace.canvas.removeEdges id }

def reverseNodes (workspace : Workspace) : Workspace :=
  { workspace with canvas := workspace.canvas.reverseNodes }

def open? (workspace : Workspace) (written : String) : Except Json.Fault Workspace :=
  (Canvas.ofDocument written).map fun canvas => { workspace with canvas }

def reloads (workspace : Workspace) : Bool :=
  match Canvas.ofDocument workspace.canvas.document with
  | .error _ => false
  | .ok canvas => canvas == workspace.canvas

def withSettings (workspace : Workspace) (settings : Settings) : Workspace :=
  { workspace with settings }

end Workspace

end AccessCanvas

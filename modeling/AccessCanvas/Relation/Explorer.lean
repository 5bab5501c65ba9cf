import AccessCanvas.Canvas.Basic
import AccessCanvas.Query.Basic
import AccessCanvas.Relation.Walk

/-!
Answering a query on a canvas: the artifacts that satisfy it, and everything related to them.
-/

namespace AccessCanvas

/-- Everything related to the entries that are accepted; nothing when none is. -/
def Network.answer {id : α → ArtifactId} (index : Network id) (accepts : α → Bool) : List α :=
  match index.lookup.toList.filter accepts with
  | [] => []
  | seeds => index.reachableFrom seeds

structure Answer where
  nodes : List Node := []
  /-- The ids of those that satisfy the query themselves. -/
  seeds : List ArtifactId := []
deriving DecidableEq, Repr

namespace Answer

def ids (answer : Answer) : List ArtifactId :=
  answer.nodes.map Node.id

def contains (answer : Answer) (id : ArtifactId) : Bool :=
  answer.nodes.any (·.id == id)

end Answer

def Query.seeds (query : Query) (lookup : Lookup Node.id) : List Node :=
  lookup.toList.filter query.accepts

def Query.answer (query : Query) (index : Adjacency) : Answer :=
  ⟨index.answer query.accepts, (query.seeds index.lookup).map Node.id⟩

structure Explorer where
  parse : String → Query := Query.parse
  orientation : Orientation := .undirected

/-- An artifact with its position on a canvas, which tells it apart from others that are equal. -/
abbrev Placed : Type :=
  Node × Nat

def Placed.id (entry : Placed) : ArtifactId :=
  entry.1.id

namespace Explorer

def network {id : α → ArtifactId} (explorer : Explorer) (entries : List α) (edges : List Edge) :
    Network id :=
  .build (.ofList entries) edges explorer.orientation

def index (explorer : Explorer) (canvas : Canvas) : Adjacency :=
  explorer.network canvas.nodes canvas.edges

def answer (explorer : Explorer) (canvas : Canvas) (raw : String) : Answer :=
  (explorer.parse raw).answer (explorer.index canvas)

def search (explorer : Explorer) (canvas : Canvas) (raw : String) : List ArtifactId :=
  (explorer.answer canvas raw).ids

def places (explorer : Explorer) (canvas : Canvas) (raw : String) : List Placed :=
  let index : Network Placed.id := explorer.network canvas.nodes.zipIdx canvas.edges
  index.answer ((explorer.parse raw).accepts ·.1)

end Explorer

end AccessCanvas

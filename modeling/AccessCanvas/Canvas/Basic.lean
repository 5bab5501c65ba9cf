import Std.Data.HashSet
import AccessCanvas.Canvas.Edge

/-! The canvas: artifacts in drawing order and edges in the order they were created. -/

namespace AccessCanvas

structure Canvas where
  nodes : List Node := []
  edges : List Edge := []
deriving DecidableEq, Repr

namespace Canvas

def node? (canvas : Canvas) (id : ArtifactId) : Option Node :=
  canvas.nodes.find? (·.id == id)

/-- The edges with an end that no artifact of the canvas has as its id. -/
def dangling (canvas : Canvas) : List Edge :=
  let ids := Std.HashSet.ofList (canvas.nodes.map Node.id)
  canvas.edges.filter fun edge => !(ids.contains edge.source && ids.contains edge.target)

theorem mem_dangling {canvas : Canvas} {edge : Edge} :
    edge ∈ canvas.dangling ↔ edge ∈ canvas.edges ∧
      ¬(edge.source ∈ canvas.nodes.map Node.id ∧ edge.target ∈ canvas.nodes.map Node.id) := by
  rw [dangling, List.mem_filter]
  simp only [Std.HashSet.contains_ofList, Bool.not_eq_true', Bool.and_eq_false_iff,
    List.contains_eq_mem, decide_eq_false_iff_not, Classical.not_and_iff_not_or_not]

def addNode (canvas : Canvas) (node : Node) : Canvas :=
  { canvas with nodes := canvas.nodes ++ [node] }

def addEdge (canvas : Canvas) (edge : Edge) : Canvas :=
  { canvas with edges := canvas.edges ++ [edge] }

def removeNodes (canvas : Canvas) (id : ArtifactId) : Canvas :=
  { canvas with nodes := canvas.nodes.filter (·.id != id) }

def removeEdges (canvas : Canvas) (id : String) : Canvas :=
  { canvas with edges := canvas.edges.filter (·.id != id) }

def reverseNodes (canvas : Canvas) : Canvas :=
  { canvas with nodes := canvas.nodes.reverse }

end Canvas

end AccessCanvas

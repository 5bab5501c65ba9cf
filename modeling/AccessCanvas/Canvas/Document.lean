import AccessCanvas.Artifact.Document
import AccessCanvas.Canvas.Basic

/-! Canvases and edges in documents. A canvas may leave out its artifacts or its edges. -/

namespace AccessCanvas

open Json (Value Fault)

namespace Edge

structure Draft where
  source : Option ArtifactId := none
  target : Option ArtifactId := none
  access : Option Access := none

def form : Json.Form Draft (Json.Reader Draft) Edge where
  title := "struct RelationshipEdge"
  blank := {}
  members :=
    [⟨"source", (·.source.isSome), fun sofar =>
        Json.text.map fun source => { sofar with source := some source }⟩,
      ⟨"target", (·.target.isSome), fun sofar =>
        Json.text.map fun target => { sofar with target := some target }⟩,
      ⟨"access", (·.access.isSome), fun sofar =>
        (Json.choice (Text.byWord Access.word Access.all)).map
          fun access => { sofar with access := some access }⟩]
  complete absent draft :=
    match Json.demanded absent 0 "source" draft.source with
    | .error fault => .error fault
    | .ok source =>
      (Json.demanded absent 1 "target" draft.target).map fun target =>
        ⟨source, target, draft.access.getD .standard⟩

def encode (edge : Edge) : Value :=
  .object [("source", .text edge.source), ("target", .text edge.target),
    ("access", .text edge.access.word)]

def ofDocument (written : String) : Except Fault Edge :=
  Json.document form.reader written

end Edge

namespace Canvas

structure Draft where
  nodes : Option (List Node) := none
  edges : Option (List Edge) := none

def form : Json.Form Draft (Json.Reader Draft) Canvas where
  title := "struct Canvas"
  blank := {}
  members :=
    [⟨"nodes", (·.nodes.isSome), fun sofar =>
        (Json.list (Node.form 2).reader).map fun nodes => { sofar with nodes := some nodes }⟩,
      ⟨"edges", (·.edges.isSome), fun sofar =>
        (Json.list Edge.form.reader).map fun edges => { sofar with edges := some edges }⟩]
  complete _ draft := .ok ⟨draft.nodes.getD [], draft.edges.getD []⟩

def encode (canvas : Canvas) : Value :=
  .object [("nodes", .list (canvas.nodes.map Node.encode)),
    ("edges", .list (canvas.edges.map Edge.encode))]

def document (canvas : Canvas) : String :=
  canvas.encode.pretty

def ofDocument (written : String) : Except Fault Canvas :=
  Json.document form.reader written

def faultHeading : String := "invalid canvas json: "

def faultMessage (fault : Fault) : String :=
  faultHeading ++ fault.message

end Canvas

end AccessCanvas

import AccessCanvas.Proofs.Connection
import AccessCanvas.Proofs.Relation.Image

/-!
What a query sees of a canvas. Main statement: canvases whose artifacts have the same ids, names and
tenants, and whose edges have the same ends, are indexed, answered and shown alike, whatever kinds
of artifacts and of access they hold.
-/

namespace AccessCanvas

structure Appearance where
  id : ArtifactId
  name : String
  tenant : String
deriving DecidableEq, Repr

def Node.appearance (node : Node) : Appearance :=
  ⟨node.id, node.name, node.tenant⟩

def Appearance.node (appearance : Appearance) : Node :=
  ⟨appearance.id, appearance.name, appearance.tenant, .auth { type := .user }⟩

theorem Statement.accepts_appearance (statement : Statement) (node : Node) :
    statement.accepts node.appearance.node = statement.accepts node := by
  rw [accepts, accepts]
  cases statement.selector with
  | known key => cases key <;> rfl
  | unsupported text => rfl

theorem Query.accepts_appearance (query : Query) (node : Node) :
    query.accepts node.appearance.node = query.accepts node := by
  rw [accepts, accepts]
  simp only [Statement.accepts_appearance]

def Edge.ofEnds (ends : ArtifactId × ArtifactId) : Edge :=
  { source := ends.1, target := ends.2 }

theorem Network.build_ofEnds {id : α → ArtifactId} (lookup : Lookup id) (edges : List Edge)
    (orientation : Orientation) :
    build lookup ((edges.map Edge.ends).map Edge.ofEnds) orientation =
      build lookup edges orientation := by
  simp only [build, List.map_map, List.flatMap_map, List.countP_map]
  rfl

/-- A query sees the same of both canvases, place by place. -/
structure Canvas.LooksLike (left right : Canvas) : Prop where
  nodes : left.nodes.map Node.appearance = right.nodes.map Node.appearance
  edges : left.edges.map Edge.ends = right.edges.map Edge.ends

namespace Explorer

def outline (explorer : Explorer) (canvas : Canvas) : Network Appearance.id :=
  explorer.network (canvas.nodes.map Node.appearance) canvas.edges

def placedOutline (explorer : Explorer) (canvas : Canvas) :
    Network fun entry : Appearance × Nat => entry.1.id :=
  explorer.network (canvas.nodes.map Node.appearance).zipIdx canvas.edges

variable (explorer : Explorer) (canvas : Canvas)

theorem isImage_outline :
    (explorer.outline canvas).IsImage (explorer.index canvas) Node.appearance :=
  Network.isImage_build (fun _ => rfl) canvas.nodes canvas.edges explorer.orientation

theorem isImage_placedOutline :
    (explorer.placedOutline canvas).IsImage
      (explorer.network canvas.nodes.zipIdx canvas.edges : Network Placed.id)
      (Prod.map Node.appearance id) := by
  rw [placedOutline, List.zipIdx_map]
  exact Network.isImage_build (fun _ => rfl) canvas.nodes.zipIdx canvas.edges explorer.orientation

theorem nodes_answer_outline (query : Query) :
    (query.answer (explorer.index canvas)).nodes.map Node.appearance =
      (explorer.outline canvas).answer (query.accepts ·.node) :=
  ((explorer.isImage_outline canvas).answer_map query.accepts_appearance).symm

theorem ids_answer_outline (query : Query) :
    (query.answer (explorer.index canvas)).ids =
      ((explorer.outline canvas).answer (query.accepts ·.node)).map Appearance.id := by
  rw [← nodes_answer_outline, List.map_map]
  rfl

theorem seeds_answer_outline (query : Query) :
    (query.answer (explorer.index canvas)).seeds =
      ((explorer.outline canvas).lookup.toList.filter (query.accepts ·.node)).map Appearance.id := by
  rw [(explorer.isImage_outline canvas).seeds_map query.accepts_appearance, List.map_map]
  rfl

theorem entries_outline :
    (explorer.index canvas).entries.map (fun entry => (entry.1, entry.2.map Node.appearance)) =
      (explorer.outline canvas).entries :=
  (explorer.isImage_outline canvas).entries_map.symm

theorem positions_places_outline (raw : String) :
    (explorer.places canvas raw).map (·.2) =
      ((explorer.placedOutline canvas).answer ((explorer.parse raw).accepts ·.1.node)).map (·.2) := by
  have same : ∀ entry : Placed, (explorer.parse raw).accepts (Prod.map Node.appearance id entry).1.node =
      (explorer.parse raw).accepts entry.1 :=
    fun entry => (explorer.parse raw).accepts_appearance entry.1
  rw [(explorer.isImage_placedOutline canvas).answer_map same, List.map_map]
  rfl

end Explorer

theorem Policy.positions_shown (policy : Policy) (canvas : Canvas) (raw : String) :
    (policy.shown canvas raw).map (·.2) =
      if policy.answers raw then
        (List.range' 0 canvas.nodes.length).filter
          (Std.HashSet.ofList ((policy.explorer.places canvas raw).map (·.2))).contains
      else List.range' 0 canvas.nodes.length := by
  cases long : policy.answers raw with
  | false => rw [shown_of_short long, List.zipIdx_map_snd, if_neg (by simp)]
  | true =>
      rw [shown_of_long long, if_pos rfl, ← List.zipIdx_map_snd 0 canvas.nodes, List.filter_map]
      rfl

theorem Policy.map_filter (part : Node → α) (policy : Policy) (canvas : Canvas) (raw : String) :
    (policy.filter canvas raw).map part =
      ((policy.shown canvas raw).map (·.2)).filterMap ((canvas.nodes.map part)[·]?) := by
  rw [filter_eq_filterMap, List.map_filterMap]
  simp only [List.getElem?_map]

namespace Canvas.LooksLike

variable {left right : Canvas} (alike : left.LooksLike right)
include alike

theorem length_eq : left.nodes.length = right.nodes.length := by
  simpa using congrArg List.length alike.nodes

theorem network_eq {id : α → ArtifactId} (explorer : Explorer) (entries : List α) :
    (explorer.network entries left.edges : Network id) = explorer.network entries right.edges := by
  rw [Explorer.network, ← Network.build_ofEnds, alike.edges, Network.build_ofEnds]
  rfl

theorem outline_eq (explorer : Explorer) : explorer.outline left = explorer.outline right := by
  rw [Explorer.outline, alike.nodes, alike.network_eq]
  rfl

theorem placedOutline_eq (explorer : Explorer) :
    explorer.placedOutline left = explorer.placedOutline right := by
  rw [Explorer.placedOutline, alike.nodes, alike.network_eq]
  rfl

/-- Kinds of artifacts and of access have no part in an answer: canvases on which a query sees the
same have the same index, the same answers in the same order, and show the same places. -/
theorem answered_alike :
    (∀ (explorer : Explorer) (query : Query),
      let one := explorer.index left
      let other := explorer.index right
      (query.answer one).ids = (query.answer other).ids ∧
        (query.answer one).seeds = (query.answer other).seeds ∧
        one.entries.map (fun entry => (entry.1, entry.2.map Node.appearance)) =
          other.entries.map (fun entry => (entry.1, entry.2.map Node.appearance)) ∧
        one.edgeCount = other.edgeCount ∧ one.droppedEdges = other.droppedEdges) ∧
    (∀ (explorer : Explorer) (raw : String),
      explorer.search left raw = explorer.search right raw ∧
        (explorer.answer left raw).seeds = (explorer.answer right raw).seeds) ∧
    ∀ (policy : Policy) (raw : String),
      (policy.shown left raw).map (·.2) = (policy.shown right raw).map (·.2) ∧
        (policy.filter left raw).map Node.appearance =
          (policy.filter right raw).map Node.appearance := by
  have ids : ∀ (explorer : Explorer) (query : Query),
      (query.answer (explorer.index left)).ids = (query.answer (explorer.index right)).ids := by
    intro explorer query
    rw [explorer.ids_answer_outline, explorer.ids_answer_outline, alike.outline_eq]
  have seeds : ∀ (explorer : Explorer) (query : Query),
      (query.answer (explorer.index left)).seeds = (query.answer (explorer.index right)).seeds := by
    intro explorer query
    rw [explorer.seeds_answer_outline, explorer.seeds_answer_outline, alike.outline_eq]
  have positions : ∀ (policy : Policy) (raw : String),
      (policy.shown left raw).map (·.2) = (policy.shown right raw).map (·.2) := by
    intro policy raw
    rw [Policy.positions_shown, Policy.positions_shown, alike.length_eq,
      policy.explorer.positions_places_outline, policy.explorer.positions_places_outline,
      alike.placedOutline_eq]
  refine ⟨fun explorer query => ⟨ids explorer query, seeds explorer query, ?_, ?_, ?_⟩,
    fun explorer raw => ⟨ids explorer _, seeds explorer _⟩,
    fun policy raw => ⟨positions policy raw, ?_⟩⟩
  · rw [explorer.entries_outline, explorer.entries_outline, alike.outline_eq]
  · rw [← (explorer.isImage_outline left).edgeCount, alike.outline_eq,
      (explorer.isImage_outline right).edgeCount]
  · rw [← (explorer.isImage_outline left).droppedEdges, alike.outline_eq,
      (explorer.isImage_outline right).droppedEdges]
  · rw [Policy.map_filter, Policy.map_filter, positions policy raw, alike.nodes]

end Canvas.LooksLike

namespace Sample

def disguised (canvas : Canvas) : Canvas where
  nodes := canvas.nodes.map fun node => { node with kind := Role.vault.kind }
  edges := canvas.edges.map fun edge => { edge with access := .justInTime }

end Sample

open Sample in
theorem Canvas.LooksLike.answered_alike_disguised :
    takenOver.LooksLike (disguised takenOver) ∧ takenOver ≠ disguised takenOver ∧
      Explorer.search {} takenOver "name=a" = Explorer.search {} (disguised takenOver) "name=a" ∧
      (Policy.shown {} takenOver "name=a").map (·.2) =
        (Policy.shown {} (disguised takenOver) "name=a").map (·.2) := by
  have alike : takenOver.LooksLike (disguised takenOver) := ⟨by decide, by decide⟩
  obtain ⟨-, answers, shown⟩ := alike.answered_alike
  exact ⟨alike, by decide, (answers {} "name=a").1, (shown {} "name=a").1⟩

end AccessCanvas

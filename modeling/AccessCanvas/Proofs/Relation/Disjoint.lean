import AccessCanvas.Proofs.Relation.Discovery
import AccessCanvas.Proofs.Relation.Explorer
import AccessCanvas.Sample

/-!
Canvases with no id in common that no edge leads between. Main statement: a search of both together
finds what it finds on the first and then what it finds on the second, in whatever way their edges
are mixed.
-/

namespace AccessCanvas

/-- A list made of two others, each in its own order. -/
inductive Interleaved : List α → List α → List α → Prop
  | nil : Interleaved [] [] []
  | left {item : α} {left right whole : List α} : Interleaved left right whole →
      Interleaved (item :: left) right (item :: whole)
  | right {item : α} {left right whole : List α} : Interleaved left right whole →
      Interleaved left (item :: right) (item :: whole)

namespace Interleaved

variable {left right whole : List α}

theorem symm (mixed : Interleaved left right whole) : Interleaved right left whole := by
  induction mixed with
  | nil => exact .nil
  | left _ ih => exact .right ih
  | right _ ih => exact .left ih

theorem flatMap_eq (mixed : Interleaved left right whole) {parts : α → List β}
    (silent : ∀ item ∈ right, parts item = []) : whole.flatMap parts = left.flatMap parts := by
  induction mixed with
  | nil => rfl
  | left _ ih => rw [List.flatMap_cons, List.flatMap_cons, ih silent]
  | right _ ih =>
      rw [List.flatMap_cons, silent _ List.mem_cons_self, List.nil_append,
        ih fun item member => silent item (List.mem_cons_of_mem _ member)]

end Interleaved

section Neighbours

variable {id : α → ArtifactId} {orientation : Orientation}

theorem Edge.hops_congr {lookup other : Lookup id} {edge : Edge}
    (source : lookup.get? edge.source = other.get? edge.source)
    (target : lookup.get? edge.target = other.get? edge.target) :
    edge.hops lookup orientation = edge.hops other orientation := by
  rw [hops, hops, source, target]

theorem Edge.filter_hops_eq_nil {lookup : Lookup id} {edge : Edge} {key : ArtifactId}
    (source : edge.source ≠ key) (target : edge.target ≠ key) :
    (edge.hops lookup orientation).filter (·.origin == key) = [] := by
  rw [List.filter_eq_nil_iff]
  intro hop member same
  rcases (Edge.mem_hops.mp member).2.1 with ⟨starts, -⟩ | ⟨-, starts, -⟩
  · exact source (starts.trans (eq_of_beq same))
  · exact target (starts.trans (eq_of_beq same))

namespace Network

theorem neighbours_build (lookup : Lookup id) (edges : List Edge) (key : ArtifactId) :
    (build lookup edges orientation).neighbours key = edges.flatMap fun edge =>
      ((edge.hops lookup orientation).filter (·.origin == key)).map Hop.neighbour := by
  rw [neighbours_eq, build, List.filter_flatMap, List.map_flatMap]

theorem mem_ids_of_mem_neighbours {entries : List α} {edges : List Edge} {key : ArtifactId}
    {neighbour : α}
    (adjacent : neighbour ∈ (build (.ofList entries : Lookup id) edges orientation).neighbours key) :
    id neighbour ∈ entries.map id :=
  Lookup.mem_ids_of_get? (mem_neighbours_build.mp adjacent).2

theorem isPart_of_interleaved {entries : List α} {lookup : Lookup id} {mine others edges : List Edge}
    (mixed : Interleaved mine others edges)
    (agree : ∀ edge ∈ mine,
      lookup.get? edge.source = (Lookup.ofList entries : Lookup id).get? edge.source ∧
        lookup.get? edge.target = (Lookup.ofList entries : Lookup id).get? edge.target)
    (unnamed : ∀ edge ∈ others, edge.source ∉ entries.map id ∧ edge.target ∉ entries.map id) :
    IsPart (build (.ofList entries : Lookup id) mine orientation) (build lookup edges orientation)
      (· ∈ entries.map id) where
  neighbours key inside := by
    rw [neighbours_build, neighbours_build, mixed.flatMap_eq]
    · refine List.flatMap_congr fun edge member => ?_
      rw [Edge.hops_congr (agree edge member).1 (agree edge member).2]
    · intro edge member
      obtain ⟨source, target⟩ := unnamed edge member
      rw [Edge.filter_hops_eq_nil (ne_of_mem_of_not_mem inside source).symm
        (ne_of_mem_of_not_mem inside target).symm, List.map_nil]
  closed _ _ _ adjacent := mem_ids_of_mem_neighbours adjacent

end Network

end Neighbours

namespace Canvas

/-- No id in common, and no edge of the one names an id of the other. -/
structure Apart (left right : Canvas) : Prop where
  ids : ∀ key ∈ left.nodes.map Node.id, key ∉ right.nodes.map Node.id
  leftEdges : ∀ edge ∈ left.edges,
    edge.source ∉ right.nodes.map Node.id ∧ edge.target ∉ right.nodes.map Node.id
  rightEdges : ∀ edge ∈ right.edges,
    edge.source ∉ left.nodes.map Node.id ∧ edge.target ∉ left.nodes.map Node.id

namespace Apart

variable {left right : Canvas} {edges : List Edge} {explorer : Explorer}
  (apart : left.Apart right) (mixed : Interleaved left.edges right.edges edges)
include apart mixed

theorem isPart_left : (explorer.index left).IsPart
    (explorer.index ⟨left.nodes ++ right.nodes, edges⟩) (· ∈ left.nodes.map Node.id) := by
  refine Network.isPart_of_interleaved mixed (fun edge member => ?_) apart.rightEdges
  obtain ⟨source, target⟩ := apart.leftEdges edge member
  exact ⟨Lookup.get?_ofList_append_left source, Lookup.get?_ofList_append_left target⟩

theorem isPart_right : (explorer.index right).IsPart
    (explorer.index ⟨left.nodes ++ right.nodes, edges⟩) (· ∈ right.nodes.map Node.id) := by
  refine Network.isPart_of_interleaved mixed.symm (fun edge member => ?_) apart.leftEdges
  obtain ⟨source, target⟩ := apart.rightEdges edge member
  exact ⟨Lookup.get?_ofList_append_right source, Lookup.get?_ofList_append_right target⟩

end Apart

end Canvas

namespace Explorer

theorem mem_ids_of_mem_seeds {explorer : Explorer} {canvas : Canvas} {accepts : Node → Bool}
    {seed : Node} (member : seed ∈ (explorer.index canvas).lookup.toList.filter accepts) :
    seed.id ∈ canvas.nodes.map Node.id :=
  Lookup.mem_ids_of_get? (Lookup.mem_toList.mp (List.mem_filter.mp member).1)

/-- Canvases with nothing in common are searched each on its own, however their edges are mixed. -/
theorem search_append (explorer : Explorer) (left right : Canvas) (edges : List Edge) (raw : String)
    (apart : left.Apart right) (mixed : Interleaved left.edges right.edges edges) :
    explorer.search ⟨left.nodes ++ right.nodes, edges⟩ raw =
      explorer.search left raw ++ explorer.search right raw := by
  have seeds : (explorer.index ⟨left.nodes ++ right.nodes, edges⟩).lookup.toList =
      (explorer.index left).lookup.toList ++ (explorer.index right).lookup.toList :=
    Lookup.toList_ofList_append apart.ids
  rw [search_eq, search_eq, search_eq, ← List.map_append, Network.answer_eq, Network.answer_eq,
    Network.answer_eq, seeds, List.filter_append,
    Network.reachableFrom_append (apart.isPart_left mixed) (apart.isPart_right mixed) apart.ids
      (fun _ => mem_ids_of_mem_seeds) fun _ => mem_ids_of_mem_seeds]

end Explorer

namespace Sample

def shadowedPair : Canvas where
  nodes := ["a", "b", "a"].map namedNode
  edges := [⟨"a", "b", .standard⟩, ⟨"b", "x", .standard⟩]

def loop : Canvas where
  nodes := ["c"].map namedNode
  edges := [⟨"x", "c", .standard⟩, ⟨"c", "c", .justInTime⟩]

def mixedEdges : List Edge :=
  [⟨"x", "c", .standard⟩, ⟨"a", "b", .standard⟩, ⟨"c", "c", .justInTime⟩, ⟨"b", "x", .standard⟩]

end Sample

open Sample in
theorem Explorer.search_append_loop :
    shadowedPair.Apart loop ∧ Interleaved shadowedPair.edges loop.edges mixedEdges ∧
      search {} ⟨shadowedPair.nodes ++ loop.nodes, mixedEdges⟩ "tenant=contoso" =
        search {} shadowedPair "tenant=contoso" ++ search {} loop "tenant=contoso" :=
  have apart : shadowedPair.Apart loop := ⟨by decide, by decide, by decide⟩
  have mixed : Interleaved shadowedPair.edges loop.edges mixedEdges :=
    .right (.left (.right (.left .nil)))
  ⟨apart, mixed, search_append {} shadowedPair loop mixedEdges "tenant=contoso" apart mixed⟩

end AccessCanvas

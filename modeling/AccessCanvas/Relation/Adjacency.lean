import AccessCanvas.Canvas.Edge
import AccessCanvas.Relation.Lookup

/-!
The neighbours of every entry. An edge gives a hop from its source to its target, and one back
when edges are followed both ways; an edge with an end that is not known gives none. Main
statement: the neighbours of an id are the ends of its hops, in the order of the edges.
-/

namespace AccessCanvas

structure Hop (α : Type) where
  origin : ArtifactId
  neighbour : α
deriving DecidableEq, Repr

section Edge

variable {id : α → ArtifactId}

def Edge.hops (lookup : Lookup id) (orientation : Orientation) (edge : Edge) : List (Hop α) :=
  match lookup.get? edge.source, lookup.get? edge.target with
  | some source, some target =>
    match orientation with
    | .directed => [⟨edge.source, target⟩]
    | .undirected => [⟨edge.source, target⟩, ⟨edge.target, source⟩]
  | _, _ => []

def Edge.isAttached (lookup : Lookup id) (edge : Edge) : Bool :=
  lookup.contains edge.source && lookup.contains edge.target

theorem Edge.contains_origin_of_mem_hops {lookup : Lookup id} {orientation : Orientation}
    {edge : Edge} {hop : Hop α} (member : hop ∈ edge.hops lookup orientation) :
    lookup.contains hop.origin = true := by
  rw [Edge.hops] at member
  split at member
  · next source target starts ends =>
    have known : lookup.contains edge.source = true ∧ lookup.contains edge.target = true := by
      simp only [Lookup.get?, Lookup.contains] at starts ends ⊢
      simp [Std.HashMap.contains_eq_isSome_getElem?, starts, ends]
    cases orientation <;> simp only [List.mem_cons, List.not_mem_nil, or_false] at member
    · rw [member]
      exact known.1
    · rcases member with rfl | rfl
      · exact known.1
      · exact known.2
  · cases member

end Edge

/-- An entry for every id, with the neighbours of the hops that start there, in their order. -/
def Hop.grouped (ids : List ArtifactId) (hops : List (Hop α)) :
    Std.HashMap ArtifactId (List α) :=
  hops.foldr (fun hop table => table.modify hop.origin (hop.neighbour :: ·))
    (.ofList (ids.map (·, [])))

namespace Hop

theorem mem_grouped {ids : List ArtifactId} {hops : List (Hop α)} {key : ArtifactId} :
    key ∈ grouped ids hops ↔ key ∈ ids := by
  induction hops with
  | nil => simp [grouped, Std.HashMap.mem_ofList, Function.comp_def]
  | cons hop later step => rw [grouped, List.foldr_cons, Std.HashMap.mem_modify, ← grouped, step]

theorem getD_grouped_nil {ids : List ArtifactId} (nodup : ids.Nodup) (key : ArtifactId) :
    (grouped ids ([] : List (Hop α))).getD key [] = [] := by
  rw [grouped, List.foldr_nil]
  by_cases listed : key ∈ ids
  · refine Std.HashMap.getD_ofList_of_mem (beq_self_eq_true key) ?_ (List.mem_map_of_mem listed)
    rw [List.pairwise_map]
    exact nodup.imp beq_eq_false_iff_ne.mpr
  · refine Std.HashMap.getD_ofList_of_contains_eq_false ?_
    simpa [Function.comp_def] using listed

theorem getD_grouped {ids : List ArtifactId} {hops : List (Hop α)} (nodup : ids.Nodup)
    (known : ∀ hop ∈ hops, hop.origin ∈ ids) (key : ArtifactId) :
    (grouped ids hops).getD key [] = (hops.filter (·.origin == key)).map neighbour := by
  induction hops with
  | nil => exact getD_grouped_nil nodup key
  | cons hop later step =>
    obtain ⟨first, rest⟩ := List.forall_mem_cons.mp known
    have before := step rest
    rw [Std.HashMap.getD_eq_getD_getElem?] at before ⊢
    rw [grouped, List.foldr_cons, Std.HashMap.getElem?_modify, ← grouped]
    by_cases same : hop.origin = key
    · subst same
      have entered : hop.origin ∈ grouped ids later := mem_grouped.mpr first
      rw [Std.HashMap.getElem?_eq_some_getElem entered] at before ⊢
      rw [Option.getD_some] at before
      simp [before]
    · have differs : (hop.origin == key) = false := by simp [same]
      simp [differs, before]

end Hop

structure Network (id : α → ArtifactId) where
  lookup : Lookup id
  orientation : Orientation
  hops : List (Hop α)
  /-- The ids with an entry, in the order of the lookup. -/
  ids : Array ArtifactId
  byOrigin : Std.HashMap ArtifactId (List α)
  edgeCount : Nat
  droppedEdges : Nat
  mem_ids : ∀ key : ArtifactId, key ∈ ids ↔ key ∈ byOrigin
  getD_byOrigin : ∀ key,
    byOrigin.getD key [] = (hops.filter (·.origin == key)).map Hop.neighbour

abbrev Adjacency : Type :=
  Network Node.id

namespace Network

variable {id : α → ArtifactId}

def build (lookup : Lookup id) (edges : List Edge) (orientation : Orientation) : Network id :=
  let hops := edges.flatMap (·.hops lookup orientation)
  { lookup
    orientation
    hops
    ids := lookup.ids
    byOrigin := Hop.grouped lookup.ids.toList hops
    edgeCount := edges.countP (·.isAttached lookup)
    droppedEdges := edges.countP (!·.isAttached lookup)
    mem_ids := fun key => by rw [Hop.mem_grouped, Array.mem_toList_iff]
    getD_byOrigin := Hop.getD_grouped lookup.nodup fun hop member => by
      obtain ⟨edge, -, among⟩ := List.mem_flatMap.mp member
      rw [Array.mem_toList_iff, lookup.mem_ids, Std.HashMap.mem_iff_contains]
      exact Edge.contains_origin_of_mem_hops among }

theorem hops_build (lookup : Lookup id) (edges : List Edge) (orientation : Orientation) :
    (build lookup edges orientation).hops = edges.flatMap (·.hops lookup orientation) := rfl

def neighbours (index : Network id) (key : ArtifactId) : List α :=
  index.byOrigin.getD key []

def entries (index : Network id) : List (ArtifactId × List α) :=
  index.ids.toList.map fun key => (key, index.neighbours key)

def contains (index : Network id) (key : ArtifactId) : Bool :=
  index.byOrigin.contains key

def size (index : Network id) : Nat :=
  index.ids.size

def isEmpty (index : Network id) : Bool :=
  index.ids.isEmpty

theorem neighbours_eq (index : Network id) (key : ArtifactId) :
    index.neighbours key = (index.hops.filter (·.origin == key)).map Hop.neighbour :=
  index.getD_byOrigin key

end Network

end AccessCanvas

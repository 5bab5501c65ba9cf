import AccessCanvas.Proofs.Relation.Discovery
import AccessCanvas.Proofs.Relation.Explorer

/-!
Changes of the entries that keep their ids. Main statement: looking up, walking and answering go
along with such a change, so a query sees of an entry its id and whether it is accepted, and no more.
-/

namespace AccessCanvas

variable {id : α → ArtifactId} {label : β → ArtifactId} {change : α → β}

namespace Lookup

variable (names : ∀ entry, label (change entry) = id entry)
include names

theorem map_ids (entries : List α) : (entries.map change).map label = entries.map id := by
  rw [List.map_map]
  exact List.map_congr_left fun entry _ => names entry

theorem get?_ofList_map (entries : List α) (key : ArtifactId) :
    (ofList (entries.map change) : Lookup label).get? key =
      ((ofList entries : Lookup id).get? key).map change := by
  have asks : (fun entry => label entry == key) ∘ change = fun entry => id entry == key := by
    funext entry
    rw [Function.comp_apply, names]
  rw [get?_ofList, get?_ofList, ← List.map_reverse, List.find?_map, asks]

theorem contains_ofList_map (entries : List α) (key : ArtifactId) :
    (ofList (entries.map change) : Lookup label).contains key =
      (ofList entries : Lookup id).contains key := by
  rw [Bool.eq_iff_iff, contains_ofList, contains_ofList, map_ids names]

theorem toList_ofList_map (entries : List α) :
    (ofList (entries.map change) : Lookup label).toList =
      (ofList entries : Lookup id).toList.map change := by
  rw [toList, toList, toList_ids_ofList, toList_ids_ofList, map_ids names, List.map_filterMap]
  exact List.filterMap_congr fun key _ => get?_ofList_map names entries key

end Lookup

def Hop.map (change : α → β) (hop : Hop α) : Hop β :=
  ⟨hop.origin, change hop.neighbour⟩

theorem Edge.hops_ofList_map (names : ∀ entry, label (change entry) = id entry) (entries : List α)
    (orientation : Orientation) (edge : Edge) :
    edge.hops (.ofList (entries.map change) : Lookup label) orientation =
      (edge.hops (.ofList entries : Lookup id) orientation).map (Hop.map change) := by
  rw [hops, hops, Lookup.get?_ofList_map names, Lookup.get?_ofList_map names]
  cases (Lookup.ofList entries : Lookup id).get? edge.source with
  | none => rfl
  | some source =>
      cases (Lookup.ofList entries : Lookup id).get? edge.target with
      | none => rfl
      | some target => cases orientation <;> rfl

namespace Network

/-- The entries of the image are those of the index changed, with the same ids and relations. -/
structure IsImage (image : Network label) (index : Network id) (change : α → β) : Prop where
  names : ∀ entry, label (change entry) = id entry
  toList : image.lookup.toList = index.lookup.toList.map change
  ids : image.ids.toList = index.ids.toList
  neighbours : ∀ key, image.neighbours key = (index.neighbours key).map change
  edgeCount : image.edgeCount = index.edgeCount
  droppedEdges : image.droppedEdges = index.droppedEdges

theorem isImage_build (names : ∀ entry, label (change entry) = id entry) (entries : List α)
    (edges : List Edge) (orientation : Orientation) :
    IsImage (build (.ofList (entries.map change) : Lookup label) edges orientation)
      (build (.ofList entries : Lookup id) edges orientation) change where
  names := names
  toList := Lookup.toList_ofList_map names entries
  ids := by
    have listed : (Lookup.ofList (entries.map change) : Lookup label).ids.toList =
        (Lookup.ofList entries : Lookup id).ids.toList := by
      rw [Lookup.toList_ids_ofList, Lookup.toList_ids_ofList, List.map_map,
        show label ∘ change = id from funext names]
    exact listed
  neighbours key := by
    have hops : edges.flatMap (·.hops (.ofList (entries.map change) : Lookup label) orientation) =
        (edges.flatMap (·.hops (.ofList entries : Lookup id) orientation)).map (Hop.map change) := by
      rw [List.map_flatMap]
      exact List.flatMap_congr fun edge _ => edge.hops_ofList_map names entries orientation
    rw [neighbours_eq, neighbours_eq, hops_build, hops_build, hops, List.filter_map, List.map_map,
      List.map_map]
    rfl
  edgeCount := by
    simp only [build, Edge.isAttached, Lookup.contains_ofList_map names]
  droppedEdges := by
    simp only [build, Edge.isAttached, Lookup.contains_ofList_map names]

end Network

namespace Walk

def map (change : α → β) (walk : Walk α) : Walk β :=
  ⟨walk.visited.map change, walk.seen, walk.stack.map change⟩

variable {image : Network label} {index : Network id} (along : image.IsImage index change)
include along

theorem visit_map (visited : Array α) (seen : Std.HashSet ArtifactId) (entry : α) (rest : List α) :
    visit image (visited.map change) seen (change entry) (rest.map change) =
      (visit index visited seen entry rest).map change := by
  have name : label (change entry) = id entry := along.names entry
  cases known : seen.contains (id entry) with
  | true =>
      rw [visit_of_seen known, visit_of_seen (by rw [name, known])]
      rfl
  | false =>
      have fresh : (fun neighbour => !(seen.insert (id entry)).contains (label neighbour)) ∘ change =
          fun neighbour => !(seen.insert (id entry)).contains (id neighbour) := by
        funext neighbour
        rw [Function.comp_apply, along.names]
      rw [visit_of_unseen known, visit_of_unseen (by rw [name, known]), name, along.neighbours,
        List.filter_map, fresh, map, Array.map_push, List.map_append]

theorem run_map (walk : Walk α) : run image (walk.map change) = (run index walk).map change := by
  induction walk using run.induct index with
  | case1 visited seen => rw [map, List.map_nil, run_nil, run_nil, map, List.map_nil]
  | case2 visited seen entry rest ih =>
      rw [run_cons, ← ih, ← visit_map along, map, List.map_cons, run_cons]

end Walk

namespace Network.IsImage

variable {image : Network label} {index : Network id} (along : image.IsImage index change)
include along

theorem reachableFrom_map (seeds : List α) :
    image.reachableFrom (seeds.map change) = (index.reachableFrom seeds).map change := by
  have walked : Walk.run image ⟨#[], ∅, seeds.map change⟩ =
      (Walk.run index ⟨#[], ∅, seeds⟩).map change := by
    simpa [Walk.map] using Walk.run_map along ⟨#[], ∅, seeds⟩
  rw [reachableFrom, reachableFrom, walked, Walk.map, Array.toList_map]

theorem seeds_map {accepts : β → Bool} {accepted : α → Bool}
    (same : ∀ entry, accepts (change entry) = accepted entry) :
    image.lookup.toList.filter accepts = (index.lookup.toList.filter accepted).map change := by
  rw [along.toList, List.filter_map, show accepts ∘ change = accepted from funext same]

theorem answer_map {accepts : β → Bool} {accepted : α → Bool}
    (same : ∀ entry, accepts (change entry) = accepted entry) :
    image.answer accepts = (index.answer accepted).map change := by
  rw [answer_eq, answer_eq, along.seeds_map same, along.reachableFrom_map]

theorem entries_map : image.entries =
    index.entries.map fun entry => (entry.1, entry.2.map change) := by
  rw [entries, entries, along.ids, List.map_map]
  exact List.map_congr_left fun key _ => Prod.ext rfl (along.neighbours key)

end Network.IsImage

end AccessCanvas

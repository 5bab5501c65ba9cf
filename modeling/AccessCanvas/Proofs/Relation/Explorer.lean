import AccessCanvas.Proofs.Relation.Reachability
import AccessCanvas.Relation.Explorer

/-!
What a search answers. Main statements: the ids answered are those at the ends of the paths that
start at an artifact which satisfies the query and which no later one shadows; the artifacts
answered are the ones with these ids that are not shadowed either.
-/

namespace AccessCanvas

open Relation (ReflTransGen)

/-- A path leads to the id from an entry that is accepted and not shadowed. -/
def Reaches (id : α → ArtifactId) (accepts : α → Bool) (entries : List α) (edges : List Edge)
    (orientation : Orientation) (key : ArtifactId) : Prop :=
  ∃ position seed, IsLast id entries position seed ∧ accepts seed = true ∧
    ReflTransGen (Leads (entries.map id) edges orientation) (id seed) key

namespace Network

variable {id : α → ArtifactId}

theorem answer_eq (index : Network id) (accepts : α → Bool) :
    index.answer accepts = index.reachableFrom (index.lookup.toList.filter accepts) := by
  rw [answer]
  split
  · next none =>
    rw [none, reachableFrom, Walk.run]
  · rfl

theorem nodup_answer (index : Network id) (accepts : α → Bool) :
    ((index.answer accepts).map id).Nodup := by
  rw [answer_eq]
  exact index.nodup_reachableFrom _

section Build

variable {accepts : α → Bool} {entries : List α} {edges : List Edge} {orientation : Orientation}

theorem mem_seeds_iff {entry : α} :
    entry ∈ (Lookup.ofList entries : Lookup id).toList.filter accepts ↔
      (∃ position, IsLast id entries position entry) ∧ accepts entry = true := by
  rw [List.mem_filter, Lookup.mem_toList, Lookup.get?_ofList_eq_some_iff, and_iff_right rfl]

theorem mem_ids_answer_iff {key : ArtifactId} :
    key ∈ ((build (.ofList entries : Lookup id) edges orientation).answer accepts).map id ↔
      Reaches id accepts entries edges orientation key := by
  rw [answer_eq, mem_reachableFrom_build_iff]
  constructor
  · rintro ⟨seed, member, path⟩
    obtain ⟨⟨position, last⟩, accepted⟩ := mem_seeds_iff.mp member
    exact ⟨position, seed, last, accepted, path⟩
  · rintro ⟨position, seed, last, accepted, path⟩
    exact ⟨seed, mem_seeds_iff.mpr ⟨⟨position, last⟩, accepted⟩, path⟩

theorem isLast_of_mem_answer {entry : α}
    (found : entry ∈ (build (.ofList entries : Lookup id) edges orientation).answer accepts) :
    ∃ position, IsLast id entries position entry := by
  rw [answer_eq] at found
  rcases get?_of_mem_reachableFrom_build found with seed | known
  · exact (mem_seeds_iff.mp seed).1
  · exact (Lookup.get?_ofList_eq_some_iff.mp known).2

theorem mem_answer_iff {entry : α} :
    entry ∈ (build (.ofList entries : Lookup id) edges orientation).answer accepts ↔
      (∃ position, IsLast id entries position entry) ∧
        Reaches id accepts entries edges orientation (id entry) := by
  constructor
  · intro found
    exact ⟨isLast_of_mem_answer found, mem_ids_answer_iff.mp (List.mem_map_of_mem found)⟩
  · rintro ⟨⟨position, last⟩, reaches⟩
    obtain ⟨found, member, same⟩ := List.mem_map.mp (mem_ids_answer_iff.mpr reaches)
    obtain ⟨place, here⟩ := isLast_of_mem_answer member
    rw [← (here.unique last same).2]
    exact member

end Build

end Network

theorem ids_placed (nodes : List Node) : nodes.zipIdx.map Placed.id = nodes.map Node.id := by
  conv_rhs => rw [← List.zipIdx_map_fst 0 nodes, List.map_map]
  rfl

theorem isLast_placed_iff {nodes : List Node} {position : Nat} {entry : Placed} :
    IsLast Placed.id nodes.zipIdx position entry ↔
      position = entry.2 ∧ IsLast Node.id nodes position entry.1 := by
  obtain ⟨node, place⟩ := entry
  have later : (nodes.zipIdx.drop (position + 1)).map Placed.id =
      (nodes.drop (position + 1)).map Node.id := by
    rw [List.map_drop, List.map_drop, ids_placed]
  have here : nodes.zipIdx[position]? = some (node, place) ↔
      position = place ∧ nodes[position]? = some node := by
    rw [List.getElem?_zipIdx, Nat.zero_add]
    cases nodes[position]? <;> simp [and_comm]
  rw [IsLast, IsLast, later, here, and_assoc]
  rfl

def Query.Reaches (query : Query) (canvas : Canvas) (orientation : Orientation) (id : ArtifactId) :
    Prop :=
  ∃ position seed, IsLast Node.id canvas.nodes position seed ∧
    (∀ statement ∈ query, statement.accepts seed = true) ∧
    ReflTransGen (Leads (canvas.nodes.map Node.id) canvas.edges orientation) seed.id id

namespace Query

variable {query : Query} {canvas : Canvas} {orientation : Orientation} {id : ArtifactId}

theorem accepts_iff {node : Node} :
    query.accepts node = true ↔ ∀ statement ∈ query, statement.accepts node = true :=
  List.all_eq_true

theorem reaches_iff : query.Reaches canvas orientation id ↔
    AccessCanvas.Reaches Node.id query.accepts canvas.nodes canvas.edges orientation id := by
  simp only [Reaches, AccessCanvas.Reaches, accepts_iff]

theorem reaches_placed_iff : query.Reaches canvas orientation id ↔
    AccessCanvas.Reaches Placed.id (query.accepts ·.1) canvas.nodes.zipIdx canvas.edges
      orientation id := by
  simp only [reaches_iff, AccessCanvas.Reaches, isLast_placed_iff, ids_placed]
  constructor
  · rintro ⟨position, seed, last, accepted, path⟩
    exact ⟨position, (seed, position), ⟨rfl, last⟩, accepted, path⟩
  · rintro ⟨position, seed, ⟨-, last⟩, accepted, path⟩
    exact ⟨position, seed.1, last, accepted, path⟩

theorem Reaches.mono {wide : Query}
    (implies : ∀ node, query.accepts node = true → wide.accepts node = true)
    (reaches : query.Reaches canvas orientation id) : wide.Reaches canvas orientation id := by
  obtain ⟨position, seed, last, accepted, path⟩ := reaches
  exact ⟨position, seed, last, accepts_iff.mp (implies seed (accepts_iff.mpr accepted)), path⟩

/-- What is reached is also reached on a canvas that leaves out artifacts, as long as those that are
reached and not shadowed stay: every artifact of a path is reached itself. -/
theorem Reaches.of_kept {kept : List Node}
    (stays : ∀ position node, IsLast Node.id canvas.nodes position node →
      query.Reaches canvas orientation node.id → ∃ place, IsLast Node.id kept place node)
    (reaches : query.Reaches canvas orientation id) :
    query.Reaches { canvas with nodes := kept } orientation id := by
  obtain ⟨position, seed, last, accepted, path⟩ := reaches
  have along : ∀ key, ReflTransGen (Leads (canvas.nodes.map Node.id) canvas.edges orientation)
      seed.id key → query.Reaches canvas orientation key :=
    fun key path => ⟨position, seed, last, accepted, path⟩
  have known : ∀ key ∈ canvas.nodes.map Node.id, query.Reaches canvas orientation key →
      key ∈ kept.map Node.id := by
    intro key member reached
    obtain ⟨place, node, unshadowed, rfl⟩ := Lookup.exists_isLast member
    obtain ⟨there, same⟩ := stays place node unshadowed reached
    exact List.mem_map_of_mem (List.mem_of_getElem? same.1)
  obtain ⟨place, there⟩ := stays position seed last (along seed.id .refl)
  refine ⟨place, seed, there, accepted, ?_⟩
  induction path with
  | refl => exact .refl
  | tail before step ih =>
      have reached := along _ before
      have next := along _ (before.tail step)
      obtain ⟨edge, member, ⟨source, target⟩, leads⟩ := step
      refine ih.tail ⟨edge, member, ?_, leads⟩
      rcases leads with ⟨rfl, rfl⟩ | ⟨-, rfl, rfl⟩
      · exact ⟨known _ source reached, known _ target next⟩
      · exact ⟨known _ source next, known _ target reached⟩

end Query

namespace Explorer

variable {explorer : Explorer} {canvas : Canvas} {raw : String}

theorem search_eq (explorer : Explorer) (canvas : Canvas) (raw : String) :
    explorer.search canvas raw =
      ((explorer.index canvas).answer (explorer.parse raw).accepts).map Node.id := rfl

theorem nodup_search : (explorer.search canvas raw).Nodup :=
  Network.nodup_answer (explorer.index canvas) (explorer.parse raw).accepts

theorem mem_search_iff {id : ArtifactId} :
    id ∈ explorer.search canvas raw ↔
      (explorer.parse raw).Reaches canvas explorer.orientation id := by
  rw [Query.reaches_iff]
  exact Network.mem_ids_answer_iff

theorem mem_ids_places_iff {id : ArtifactId} :
    id ∈ (explorer.places canvas raw).map Placed.id ↔
      (explorer.parse raw).Reaches canvas explorer.orientation id := by
  rw [Query.reaches_placed_iff]
  exact Network.mem_ids_answer_iff

theorem mem_places_iff {entry : Placed} :
    entry ∈ explorer.places canvas raw ↔ IsLast Node.id canvas.nodes entry.2 entry.1 ∧
      (explorer.parse raw).Reaches canvas explorer.orientation entry.1.id := by
  rw [Query.reaches_placed_iff, places, network, Network.mem_answer_iff]
  simp only [isLast_placed_iff, exists_eq_left, Placed.id]

end Explorer

end AccessCanvas

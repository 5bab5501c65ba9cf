import AccessCanvas.Proofs.Relation.Lookup
import AccessCanvas.Relation.Adjacency

/-!
Where the edges of a network lead. Main statement: a network made from entries and edges leads from
one id to another when an edge between two of the entries does.
-/

namespace AccessCanvas

def Edge.Leads (edge : Edge) (orientation : Orientation) (origin target : ArtifactId) : Prop :=
  (edge.source = origin ∧ edge.target = target) ∨
    (orientation = .undirected ∧ edge.target = origin ∧ edge.source = target)

/-- An edge between two of the ids leads from the origin to the target. -/
def Leads (ids : List ArtifactId) (edges : List Edge) (orientation : Orientation)
    (origin target : ArtifactId) : Prop :=
  ∃ edge ∈ edges, (edge.source ∈ ids ∧ edge.target ∈ ids) ∧ edge.Leads orientation origin target

theorem Leads.mem_ids {ids : List ArtifactId} {edges : List Edge} {orientation : Orientation}
    {origin target : ArtifactId} (leads : Leads ids edges orientation origin target) :
    target ∈ ids := by
  obtain ⟨edge, -, ⟨source, destination⟩, ⟨-, rfl⟩ | ⟨-, -, rfl⟩⟩ := leads
  · exact destination
  · exact source

variable {id : α → ArtifactId}

theorem Hop.eq_iff {lookup : Lookup id} {key : ArtifactId} {entry : α}
    (found : lookup.get? key = some entry) (hop : Hop α) (origin : ArtifactId) :
    hop = ⟨origin, entry⟩ ↔ (origin = hop.origin ∧ key = id hop.neighbour) ∧
      lookup.get? (id hop.neighbour) = some hop.neighbour := by
  have named := lookup.named key entry found
  constructor
  · rintro rfl
    exact ⟨⟨rfl, named.symm⟩, named ▸ found⟩
  · rintro ⟨⟨rfl, rfl⟩, same⟩
    rw [found, Option.some.injEq] at same
    rw [same]

theorem Edge.isAttached_ofList_iff {entries : List α} {edge : Edge} :
    edge.isAttached (.ofList entries : Lookup id) = true ↔
      edge.source ∈ entries.map id ∧ edge.target ∈ entries.map id := by
  rw [isAttached, Bool.and_eq_true, Lookup.contains_ofList, Lookup.contains_ofList]

theorem Edge.mem_hops {lookup : Lookup id} {orientation : Orientation} {edge : Edge} {hop : Hop α} :
    hop ∈ edge.hops lookup orientation ↔
      edge.isAttached lookup = true ∧ edge.Leads orientation hop.origin (id hop.neighbour) ∧
        lookup.get? (id hop.neighbour) = some hop.neighbour := by
  rw [isAttached, Bool.and_eq_true, hops, Leads]
  rcases source : lookup.get? edge.source with _ | first
  · simp [Lookup.get?_eq_none_iff.mp source]
  rcases target : lookup.get? edge.target with _ | last
  · simp [Lookup.get?_eq_none_iff.mp target]
  have attached : lookup.contains edge.source = true ∧ lookup.contains edge.target = true :=
    ⟨Lookup.contains_iff_get?.mpr ⟨first, source⟩, Lookup.contains_iff_get?.mpr ⟨last, target⟩⟩
  have ahead := Hop.eq_iff target hop edge.source
  have back := Hop.eq_iff source hop edge.target
  cases orientation with
  | directed => simp [attached, ahead]
  | undirected =>
      simp only [List.mem_cons, List.not_mem_nil, or_false, ahead, back, attached, true_and]
      exact or_and_right.symm

namespace Network

def Leads (index : Network id) (origin target : ArtifactId) : Prop :=
  ∃ neighbour ∈ index.neighbours origin, id neighbour = target

theorem mem_neighbours_build {lookup : Lookup id} {edges : List Edge} {orientation : Orientation}
    {origin : ArtifactId} {entry : α} :
    entry ∈ (build lookup edges orientation).neighbours origin ↔
      (∃ edge ∈ edges, edge.isAttached lookup = true ∧ edge.Leads orientation origin (id entry)) ∧
        lookup.get? (id entry) = some entry := by
  rw [neighbours_eq, List.mem_map]
  simp only [build, List.mem_filter, List.mem_flatMap, beq_iff_eq]
  constructor
  · rintro ⟨hop, ⟨⟨edge, member, hops⟩, rfl⟩, rfl⟩
    obtain ⟨attached, leads, found⟩ := Edge.mem_hops.mp hops
    exact ⟨⟨edge, member, attached, leads⟩, found⟩
  · rintro ⟨⟨edge, member, attached, leads⟩, found⟩
    exact ⟨⟨origin, entry⟩, ⟨⟨edge, member, Edge.mem_hops.mpr ⟨attached, leads, found⟩⟩, rfl⟩, rfl⟩

theorem leads_build_iff (entries : List α) (edges : List Edge) (orientation : Orientation)
    (origin target : ArtifactId) :
    (build (.ofList entries : Lookup id) edges orientation).Leads origin target ↔
      AccessCanvas.Leads (entries.map id) edges orientation origin target := by
  constructor
  · rintro ⟨neighbour, adjacent, rfl⟩
    obtain ⟨⟨edge, member, attached, leads⟩, -⟩ := mem_neighbours_build.mp adjacent
    exact ⟨edge, member, Edge.isAttached_ofList_iff.mp attached, leads⟩
  · rintro ⟨edge, member, attached, leads⟩
    have known : target ∈ entries.map id :=
      AccessCanvas.Leads.mem_ids ⟨edge, member, attached, leads⟩
    obtain ⟨neighbour, found⟩ := Lookup.contains_iff_get?.mp (Lookup.contains_ofList.mpr known)
    have named := Lookup.named _ target neighbour found
    subst named
    exact ⟨neighbour, mem_neighbours_build.mpr
      ⟨⟨edge, member, Edge.isAttached_ofList_iff.mpr attached, leads⟩, found⟩, rfl⟩

end Network

end AccessCanvas

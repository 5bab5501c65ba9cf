import Mathlib.Data.List.Nodup
import AccessCanvas.Proofs.Relation.Explorer
import AccessCanvas.Sample

/-!
Components of a canvas whose edges are followed both ways. Main statement: a search answers both
ends of an edge or neither; what is reached from one artifact is what is reached from any other one
of it, and has nothing in common with what is reached from the rest.
-/

namespace AccessCanvas

open Relation (ReflTransGen)

section Undirected

variable {ids : List ArtifactId} {edges : List Edge} {origin target : ArtifactId}

theorem Edge.Leads.symm {edge : Edge} (leads : edge.Leads .undirected origin target) :
    edge.Leads .undirected target origin := by
  rcases leads with ⟨source, destination⟩ | ⟨both, destination, source⟩
  · exact Or.inr ⟨rfl, destination, source⟩
  · exact Or.inl ⟨source, destination⟩

theorem Leads.symm (leads : Leads ids edges .undirected origin target) :
    Leads ids edges .undirected target origin := by
  obtain ⟨edge, member, attached, leads⟩ := leads
  exact ⟨edge, member, attached, leads.symm⟩

instance : Std.Symm (Leads ids edges .undirected) :=
  ⟨fun _ _ => Leads.symm⟩

theorem path_symm (path : ReflTransGen (Leads ids edges .undirected) origin target) :
    ReflTransGen (Leads ids edges .undirected) target origin :=
  ReflTransGen.stdSymm.symm origin target path

end Undirected

namespace Network

variable {id : α → ArtifactId}

def closure (index : Network id) (key : ArtifactId) : List ArtifactId :=
  (index.reachableFrom (index.lookup.get? key).toList).map id

theorem nodup_closure (index : Network id) (key : ArtifactId) : (index.closure key).Nodup :=
  index.nodup_reachableFrom _

section Build

variable {entries : List α} {edges : List Edge} {orientation : Orientation}

theorem mem_closure_iff {key other : ArtifactId} (known : key ∈ entries.map id) :
    other ∈ (build (.ofList entries : Lookup id) edges orientation).closure key ↔
      ReflTransGen (AccessCanvas.Leads (entries.map id) edges orientation) key other := by
  obtain ⟨entry, found⟩ := Lookup.contains_iff_get?.mp (Lookup.contains_ofList.mpr known)
  have named : id entry = key := Lookup.named _ key entry found
  have start : (build (.ofList entries : Lookup id) edges orientation).lookup.get? key = some entry :=
    found
  rw [closure, start, mem_reachableFrom_build_iff, ← named]
  simp

theorem closure_perm_of_mem {one other : ArtifactId} (first : one ∈ entries.map id)
    (second : other ∈ entries.map id)
    (reached : other ∈ (build (.ofList entries : Lookup id) edges .undirected).closure one) :
    ((build (.ofList entries : Lookup id) edges .undirected).closure one).Perm
      ((build (.ofList entries : Lookup id) edges .undirected).closure other) := by
  rw [mem_closure_iff first] at reached
  rw [List.perm_ext_iff_of_nodup (nodup_closure _ one) (nodup_closure _ other)]
  intro key
  rw [mem_closure_iff first, mem_closure_iff second]
  exact ⟨(path_symm reached).trans, reached.trans⟩

theorem closure_disjoint_of_not_mem {one other : ArtifactId} (first : one ∈ entries.map id)
    (second : other ∈ entries.map id)
    (unreached : other ∉ (build (.ofList entries : Lookup id) edges .undirected).closure one) :
    ((build (.ofList entries : Lookup id) edges .undirected).closure one).Disjoint
      ((build (.ofList entries : Lookup id) edges .undirected).closure other) := by
  intro key here there
  rw [mem_closure_iff first] at here unreached
  rw [mem_closure_iff second] at there
  exact unreached (here.trans (path_symm there))

end Build

end Network

namespace Query.Reaches

variable {query : Query} {canvas : Canvas} {orientation : Orientation} {origin target : ArtifactId}

theorem trans (reaches : query.Reaches canvas orientation origin)
    (path : ReflTransGen (Leads (canvas.nodes.map Node.id) canvas.edges orientation) origin target) :
    query.Reaches canvas orientation target := by
  obtain ⟨position, seed, last, accepted, before⟩ := reaches
  exact ⟨position, seed, last, accepted, before.trans path⟩

theorem mem_ids (reaches : query.Reaches canvas orientation target) :
    target ∈ canvas.nodes.map Node.id := by
  obtain ⟨position, seed, last, -, path⟩ := reaches
  cases path with
  | refl => exact List.mem_map_of_mem (List.mem_of_getElem? last.1)
  | tail _ step => exact step.mem_ids

end Query.Reaches

namespace Explorer

variable {explorer : Explorer} {canvas : Canvas} {raw : String}

theorem mem_search_of_path {origin target : ArtifactId}
    (path : ReflTransGen (Leads (canvas.nodes.map Node.id) canvas.edges explorer.orientation)
      origin target) (found : origin ∈ explorer.search canvas raw) :
    target ∈ explorer.search canvas raw :=
  mem_search_iff.mpr ((mem_search_iff.mp found).trans path)

/-- A search that follows edges both ways answers both ends of an edge between artifacts or neither,
and with an id all that is reached from it. Artifacts reach the same, or nothing in common. -/
theorem search_components (explorer : Explorer) (canvas : Canvas) :
    let undirected : Explorer := { explorer with orientation := .undirected }
    let ids := canvas.nodes.map Node.id
    let closure := (undirected.index canvas).closure
    (∀ raw, ∀ edge ∈ canvas.edges, edge.source ∈ ids → edge.target ∈ ids →
      (edge.source ∈ undirected.search canvas raw ↔ edge.target ∈ undirected.search canvas raw)) ∧
    (∀ raw, ∀ id ∈ undirected.search canvas raw, id ∈ closure id ∧
      closure id ⊆ undirected.search canvas raw) ∧
    ∀ one ∈ ids, ∀ other ∈ ids, if other ∈ closure one then (closure one).Perm (closure other)
      else (closure one).Disjoint (closure other) := by
  intro undirected ids closure
  refine ⟨fun raw edge member source target => ?_, fun raw id found => ?_,
    fun one first other second => ?_⟩
  · have ahead : Leads ids canvas.edges .undirected edge.source edge.target :=
      ⟨edge, member, ⟨source, target⟩, Or.inl ⟨rfl, rfl⟩⟩
    exact ⟨mem_search_of_path (.single ahead), mem_search_of_path (.single ahead.symm)⟩
  · have known : id ∈ ids := (mem_search_iff.mp found).mem_ids
    refine ⟨(Network.mem_closure_iff known).mpr .refl, fun key reached => ?_⟩
    exact mem_search_of_path ((Network.mem_closure_iff known).mp reached) found
  · split
    · next reached => exact Network.closure_perm_of_mem first second reached
    · next unreached => exact Network.closure_disjoint_of_not_mem first second unreached

end Explorer

open Sample in
/-- A chain is one component, and the artifact beside it another one. -/
theorem Explorer.search_components_chain :
    let undirected : Explorer := { ({} : Explorer) with orientation := .undirected }
    let search := undirected.search chainWithIsland
    let closure := (undirected.index chainWithIsland).closure
    "c" ∈ search "name=c" ∧ ("b" ∈ search "name=c" ↔ "c" ∈ search "name=c") ∧
      closure "c" ⊆ search "name=c" ∧ "c" ∈ closure "a" ∧ (closure "a").Perm (closure "c") ∧
      "d" ∉ closure "a" ∧ (closure "a").Disjoint (closure "d") := by
  intro undirected search closure
  have found : "c" ∈ search "name=c" :=
    mem_search_iff.mpr ⟨2, namedNode "c", ⟨rfl, by decide⟩, by decide +kernel, .refl⟩
  have inside : ∀ key, ReflTransGen (Leads (chainWithIsland.nodes.map Node.id) chainWithIsland.edges
      .undirected) "a" key → key ∈ ["a", "b", "c"] := by
    intro key path
    induction path with
    | refl => simp
    | tail _ step ih =>
        obtain ⟨edge, member, -, leads⟩ := step
        simp only [chainWithIsland, List.mem_cons, List.not_mem_nil, or_false] at member
        rcases member with rfl | rfl <;> rcases leads with ⟨-, rfl⟩ | ⟨-, -, rfl⟩ <;> simp
  have first : Leads (chainWithIsland.nodes.map Node.id) chainWithIsland.edges .undirected "a" "b" :=
    ⟨⟨"a", "b", .standard⟩, by decide, by decide, Or.inl ⟨rfl, rfl⟩⟩
  have second : Leads (chainWithIsland.nodes.map Node.id) chainWithIsland.edges .undirected "b" "c" :=
    ⟨⟨"b", "c", .standard⟩, by decide, by decide, Or.inl ⟨rfl, rfl⟩⟩
  have reached : "c" ∈ closure "a" :=
    (Network.mem_closure_iff (by decide)).mpr (.tail (.single first) second)
  have apart : "d" ∉ closure "a" := fun member =>
    absurd (inside "d" ((Network.mem_closure_iff (by decide)).mp member)) (by decide)
  obtain ⟨ends, whole, parts⟩ := search_components {} chainWithIsland
  have chain := parts "a" (by decide) "c" (by decide)
  have island := parts "a" (by decide) "d" (by decide)
  rw [if_pos reached] at chain
  rw [if_neg apart] at island
  exact ⟨found, ends "name=c" ⟨"b", "c", .standard⟩ (by decide) (by decide) (by decide),
    (whole "name=c" "c" found).2, reached, chain, apart, island⟩

end AccessCanvas

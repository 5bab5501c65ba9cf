import Mathlib.Algebra.BigOperators.Group.Finset.Basic
import Mathlib.Algebra.GroupWithZero.Nat
import Mathlib.Data.List.Count
import AccessCanvas.Proofs.Relation.Dangling

/-!
The neighbours of every id in full: which they are, in which order, and how often each is among
them. Main statement: they are given edge by edge; every edge with two known ends counts once for
each way to follow it, and both ways are followed alike.
-/

namespace AccessCanvas

variable {id : α → ArtifactId}

section Edge

variable {lookup : Lookup id} {orientation : Orientation} {edge : Edge}

/-- The neighbours that an id has by an edge. An edge from an id to itself gives one each way. -/
def Edge.neighboursOf (lookup : Lookup id) (orientation : Orientation) (key : ArtifactId)
    (edge : Edge) : List α :=
  (if edge.source = key then (lookup.get? edge.target).toList else []) ++
    if orientation = .undirected ∧ edge.target = key then (lookup.get? edge.source).toList else []

theorem Edge.exists_ends (attached : edge.isAttached lookup = true) :
    ∃ source target, lookup.get? edge.source = some source ∧
      lookup.get? edge.target = some target := by
  rw [isAttached, Bool.and_eq_true, Lookup.contains_iff_get?, Lookup.contains_iff_get?] at attached
  obtain ⟨⟨source, starts⟩, target, ends⟩ := attached
  exact ⟨source, target, starts, ends⟩

theorem Edge.map_filter_hops (attached : edge.isAttached lookup = true) (key : ArtifactId) :
    ((edge.hops lookup orientation).filter (·.origin == key)).map Hop.neighbour =
      edge.neighboursOf lookup orientation key := by
  obtain ⟨source, target, starts, ends⟩ := exists_ends attached
  rw [neighboursOf, hops, starts, ends]
  by_cases first : edge.source = key <;> by_cases last : edge.target = key <;>
    cases orientation <;> simp [first, last]

def Orientation.ways : Orientation → Nat
  | .directed => 1
  | .undirected => 2

theorem Edge.length_hops (attached : edge.isAttached lookup = true) :
    (edge.hops lookup orientation).length = orientation.ways := by
  obtain ⟨source, target, starts, ends⟩ := exists_ends attached
  rw [hops, starts, ends]
  cases orientation <;> rfl

def Hop.ends (id : α → ArtifactId) (hop : Hop α) : ArtifactId × ArtifactId :=
  (hop.origin, id hop.neighbour)

theorem Edge.swap_ends_hops_perm (edge : Edge) :
    (((edge.hops lookup .undirected).map (Hop.ends id)).map Prod.swap).Perm
      ((edge.hops lookup .undirected).map (Hop.ends id)) := by
  cases attached : edge.isAttached lookup with
  | false => simp [hops_eq_nil_iff.mpr attached]
  | true =>
      obtain ⟨source, target, starts, ends⟩ := exists_ends attached
      have first := lookup.named edge.source source starts
      have last := lookup.named edge.target target ends
      simp only [hops, starts, ends, List.map_cons, List.map_nil, Hop.ends, first, last,
        Prod.swap_prod_mk]
      exact .swap _ _ _

end Edge

namespace Network

variable {lookup : Lookup id} {edges : List Edge} {orientation : Orientation}

theorem map_fst_entries (index : Network id) : index.entries.map (·.1) = index.ids.toList := by
  rw [entries, List.map_map]
  exact List.map_id _

theorem neighbours_build_eq (key : ArtifactId) :
    (build lookup edges orientation).neighbours key =
      (edges.filter (·.isAttached lookup)).flatMap (Edge.neighboursOf lookup orientation key) := by
  rw [neighbours_build, (Interleaved.of_filter (·.isAttached lookup) edges).flatMap_eq]
  · refine List.flatMap_congr fun edge member => ?_
    exact Edge.map_filter_hops (List.mem_filter.mp member).2 key
  · intro edge member
    rw [List.mem_filter, Bool.not_eq_true'] at member
    rw [Edge.hops_eq_nil_iff.mpr member.2, List.filter_nil, List.map_nil]

theorem contains_of_mem_hops {hop : Hop α} (member : hop ∈ (build lookup edges orientation).hops) :
    lookup.contains hop.origin = true := by
  obtain ⟨edge, -, among⟩ := List.mem_flatMap.mp member
  exact Edge.contains_origin_of_mem_hops among

theorem contains_build (key : ArtifactId) :
    (build lookup edges orientation).contains key = lookup.contains key := by
  rw [Bool.eq_iff_iff, contains, Lookup.contains, ← Std.HashMap.mem_iff_contains,
    ← Std.HashMap.mem_iff_contains, ← mem_ids, ← lookup.mem_ids]
  rfl

theorem neighbours_of_unknown {key : ArtifactId} (unknown : lookup.contains key = false) :
    (build lookup edges orientation).neighbours key = [] := by
  rw [neighbours_eq, List.map_eq_nil_iff, List.filter_eq_nil_iff]
  intro hop member same
  have known := contains_of_mem_hops member
  rw [eq_of_beq same, unknown] at known
  cases known

theorem edgeCount_add_droppedEdges :
    (build lookup edges orientation).edgeCount + (build lookup edges orientation).droppedEdges =
      edges.length := by
  rw [List.length_eq_countP_add_countP (·.isAttached lookup)]
  simp only [build, Bool.not_eq_true, Bool.decide_eq_false]

theorem length_hops : (build lookup edges orientation).hops.length =
    orientation.ways * (build lookup edges orientation).edgeCount := by
  induction edges with
  | nil => rfl
  | cons edge later ih =>
      simp only [build, List.flatMap_cons, List.length_append] at ih ⊢
      rw [ih]
      cases attached : edge.isAttached lookup with
      | false =>
          rw [Edge.hops_eq_nil_iff.mpr attached, List.countP_cons_of_neg (by simp [attached]),
            List.length_nil, Nat.zero_add]
      | true =>
          rw [Edge.length_hops attached, List.countP_cons_of_pos attached, Nat.mul_succ,
            Nat.add_comm]

theorem length_neighbours (index : Network id) (key : ArtifactId) :
    (index.neighbours key).length = (index.hops.map Hop.origin).count key := by
  rw [neighbours_eq, List.length_map, List.count_eq_countP, List.countP_map,
    List.countP_eq_length_filter]
  rfl

theorem sum_length_entries :
    ((build lookup edges orientation).entries.map (·.2.length)).sum =
      (build lookup edges orientation).hops.length := by
  have known : ∀ key ∈ Multiset.ofList ((build lookup edges orientation).hops.map Hop.origin),
      key ∈ lookup.ids.toList.toFinset := by
    intro key member
    obtain ⟨hop, among, rfl⟩ := List.mem_map.mp (Multiset.mem_coe.mp member)
    rw [List.mem_toFinset, Array.mem_toList_iff, lookup.mem_ids, Std.HashMap.mem_iff_contains]
    exact contains_of_mem_hops among
  have lengths : (build lookup edges orientation).entries.map (·.2.length) =
      lookup.ids.toList.map ((build lookup edges orientation).hops.map Hop.origin).count := by
    rw [entries, List.map_map]
    exact List.map_congr_left fun key _ => length_neighbours _ key
  have total := Multiset.sum_count_eq_card known
  simp only [Multiset.coe_count, Multiset.coe_card, List.length_map] at total
  rw [lengths, ← List.sum_toFinset _ lookup.nodup, total]

theorem count_neighbours (index : Network id) (key other : ArtifactId) :
    ((index.neighbours key).map id).count other = (index.hops.map (Hop.ends id)).count (key, other) := by
  simp only [neighbours_eq, List.map_map, List.count_eq_countP, List.countP_map, List.countP_filter]
  refine List.countP_congr fun hop _ => ?_
  simp [Hop.ends, and_comm]

theorem swap_ends_perm :
    (((build lookup edges .undirected).hops.map (Hop.ends id)).map Prod.swap).Perm
      ((build lookup edges .undirected).hops.map (Hop.ends id)) := by
  rw [build, List.map_flatMap, List.map_flatMap]
  exact List.Perm.flatMap_left edges fun edge _ => edge.swap_ends_hops_perm

theorem count_neighbours_comm (key other : ArtifactId) :
    (((build lookup edges .undirected).neighbours key).map id).count other =
      (((build lookup edges .undirected).neighbours other).map id).count key := by
  rw [count_neighbours, count_neighbours, ← swap_ends_perm.count_eq (key, other)]
  exact List.count_map_of_injective _ Prod.swap Prod.swap_injective (other, key)

/-- What the index of a list of entries holds: the neighbours of every known id, by the edges with
two known ends and in their order, the number of those edges and of the others. -/
theorem build_spec (entries : List α) (edges : List Edge) (orientation : Orientation) :
    let lookup : Lookup id := .ofList entries
    let index := build lookup edges orientation
    let attached := edges.filter (·.isAttached lookup)
    (index.entries.map (·.1) = (entries.map id).eraseDups ∧
      index.entries.map (·.1) = lookup.toList.map id ∧ (index.entries.map (·.1)).Nodup ∧
      index.size = index.entries.length ∧
      (∀ key, index.contains key = true ↔ key ∈ entries.map id) ∧
      ∀ entry ∈ index.entries, entry.2 = index.neighbours entry.1) ∧
    (∀ key ∈ entries.map id,
      index.neighbours key = attached.flatMap (Edge.neighboursOf lookup orientation key)) ∧
    (∀ key ∉ entries.map id, index.neighbours key = []) ∧
    index.edgeCount = attached.length ∧
    index.edgeCount + index.droppedEdges = edges.length ∧
    (index.entries.map (·.2.length)).sum = (match orientation with
      | .directed => index.edgeCount
      | .undirected => 2 * index.edgeCount) ∧
    (orientation = .undirected → ∀ key ∈ entries.map id, ∀ other ∈ entries.map id,
      ((index.neighbours key).map id).count other =
        ((index.neighbours other).map id).count key) := by
  intro lookup index attached
  refine ⟨⟨?_, ?_, ?_, ?_, fun key => ?_, ?_⟩, fun key _ => neighbours_build_eq key, fun key unknown => ?_,
    List.countP_eq_length_filter, edgeCount_add_droppedEdges, ?_, ?_⟩
  · rw [map_fst_entries]
    exact Lookup.toList_ids_ofList entries
  · rw [map_fst_entries, Lookup.map_toList]
    rfl
  · rw [map_fst_entries]
    exact lookup.nodup
  · rw [← List.length_map (·.1), map_fst_entries, Array.length_toList]
    rfl
  · rw [contains_build, Lookup.contains_ofList]
  · intro entry member
    obtain ⟨known, -, rfl⟩ := List.mem_map.mp member
    rfl
  · apply neighbours_of_unknown
    rw [← Bool.not_eq_true, Lookup.contains_ofList]
    exact unknown
  · rw [sum_length_entries, length_hops]
    cases orientation with
    | directed => exact Nat.one_mul _
    | undirected => rfl
  · rintro rfl key - other -
    exact count_neighbours_comm key other

open Sample in
/-- By an edge to itself an artifact is its own neighbour once each way. -/
theorem build_spec_loop :
    (build (.ofList loop.nodes) loop.edges .undirected : Adjacency).neighbours "c" =
      [namedNode "c", namedNode "c"] := by
  obtain ⟨-, known, -⟩ := @build_spec _ Node.id loop.nodes loop.edges .undirected
  have found : (Lookup.ofList loop.nodes : Lookup Node.id).get? "c" = some (namedNode "c") := by
    rw [Lookup.get?_ofList]
    rfl
  have attached : loop.edges.filter (·.isAttached (.ofList loop.nodes : Lookup Node.id)) =
      [⟨"c", "c", .justInTime⟩] := by
    rw [loop, List.filter_cons_of_neg, List.filter_cons_of_pos, List.filter_nil] <;>
      rw [Edge.isAttached_ofList_iff] <;> decide
  rw [known "c" (by decide), attached]
  simp only [List.flatMap_singleton, Edge.neighboursOf, found]
  rfl

end Network

end AccessCanvas

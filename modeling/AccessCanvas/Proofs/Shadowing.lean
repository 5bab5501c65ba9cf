import Mathlib.Data.List.Perm.Basic
import AccessCanvas.Proofs.Policy
import AccessCanvas.Sample

/-!
Artifacts that a later one with the same id shadows. Main statement: without them the same is
searched and the same is shown.
-/

namespace AccessCanvas

/-- The entries that no later one shadows, in their order. -/
def unshadowed (id : α → ArtifactId) : List α → List α
  | [] => []
  | entry :: later =>
    if id entry ∈ later.map id then unshadowed id later else entry :: unshadowed id later

section Entries

variable {id : α → ArtifactId} {entries : List α}

theorem isLast_cons_iff {head entry : α} {later : List α} {position : Nat} :
    IsLast id (head :: later) position entry ↔
      (position = 0 ∧ entry = head ∧ id head ∉ later.map id) ∨
        ∃ place, position = place + 1 ∧ IsLast id later place entry := by
  cases position with
  | zero =>
      simp only [IsLast, List.getElem?_cons_zero, Option.some.injEq, Nat.zero_add,
        List.drop_succ_cons, List.drop_zero, true_and, Nat.right_eq_add, Nat.add_eq_zero_iff,
        Nat.one_ne_zero, and_false, false_and, exists_false, or_false]
      constructor
      · rintro ⟨rfl, fresh⟩
        exact ⟨rfl, fresh⟩
      · rintro ⟨rfl, fresh⟩
        exact ⟨rfl, fresh⟩
  | succ position =>
      simp [IsLast]

theorem mem_unshadowed_iff {entry : α} :
    entry ∈ unshadowed id entries ↔ ∃ position, IsLast id entries position entry := by
  induction entries with
  | nil => simp [unshadowed, IsLast]
  | cons head later ih =>
      have split : (∃ position, IsLast id (head :: later) position entry) ↔
          (entry = head ∧ id head ∉ later.map id) ∨ entry ∈ unshadowed id later := by
        simp only [isLast_cons_iff, ih]
        constructor
        · rintro ⟨position, ⟨-, here⟩ | ⟨place, -, last⟩⟩
          · exact Or.inl here
          · exact Or.inr ⟨place, last⟩
        · rintro (here | ⟨place, last⟩)
          · exact ⟨0, Or.inl ⟨rfl, here⟩⟩
          · exact ⟨place + 1, Or.inr ⟨place, rfl, last⟩⟩
      rw [split, unshadowed]
      by_cases shadowed : id head ∈ later.map id
      · rw [if_pos shadowed]
        exact ⟨Or.inr, fun found => found.resolve_left fun here => here.2 shadowed⟩
      · rw [if_neg shadowed, List.mem_cons, and_iff_left shadowed]

theorem unshadowed_sublist (id : α → ArtifactId) (entries : List α) :
    (unshadowed id entries).Sublist entries := by
  induction entries with
  | nil => exact .slnil
  | cons head later ih =>
      rw [unshadowed]
      split
      · exact ih.cons head
      · exact ih.cons_cons head

theorem mem_ids_unshadowed_iff {key : ArtifactId} :
    key ∈ (unshadowed id entries).map id ↔ key ∈ entries.map id := by
  constructor
  · exact fun known => ((unshadowed_sublist id entries).map id).subset known
  · intro known
    obtain ⟨position, entry, last, rfl⟩ := Lookup.exists_isLast known
    exact List.mem_map_of_mem (mem_unshadowed_iff.mpr ⟨position, last⟩)

theorem nodup_ids_unshadowed (id : α → ArtifactId) (entries : List α) :
    ((unshadowed id entries).map id).Nodup := by
  induction entries with
  | nil => simp [unshadowed]
  | cons head later ih =>
      rw [unshadowed]
      by_cases shadowed : id head ∈ later.map id
      · rw [if_pos shadowed]
        exact ih
      · rw [if_neg shadowed, List.map_cons, List.nodup_cons, mem_ids_unshadowed_iff]
        exact ⟨shadowed, ih⟩

theorem unshadowed_of_nodup (distinct : (entries.map id).Nodup) :
    unshadowed id entries = entries := by
  induction entries with
  | nil => rfl
  | cons head later ih =>
      rw [List.map_cons, List.nodup_cons] at distinct
      rw [unshadowed, if_neg distinct.1, ih distinct.2]

theorem unshadowed_unshadowed (id : α → ArtifactId) (entries : List α) :
    unshadowed id (unshadowed id entries) = unshadowed id entries :=
  unshadowed_of_nodup (nodup_ids_unshadowed id entries)

theorem map_unshadowed (part : β → α) (entries : List β) :
    (unshadowed (fun entry => id (part entry)) entries).map part =
      unshadowed id (entries.map part) := by
  induction entries with
  | nil => rfl
  | cons head later ih =>
      have ids : (later.map part).map id = later.map fun entry => id (part entry) := by
        rw [List.map_map]
        rfl
      rw [List.map_cons, unshadowed, unshadowed, ids, apply_ite (List.map part), List.map_cons, ih]

end Entries

theorem map_unshadowed_placed (nodes : List Node) :
    (unshadowed Placed.id nodes.zipIdx).map (·.1) = unshadowed Node.id nodes := by
  conv_rhs => rw [← List.zipIdx_map_fst 0 nodes]
  exact map_unshadowed (·.1) nodes.zipIdx

theorem Query.reaches_iff_of_unshadowed_eq {query : Query} {canvas other : Canvas}
    {orientation : Orientation} {id : ArtifactId}
    (nodes : unshadowed Node.id other.nodes = unshadowed Node.id canvas.nodes)
    (edges : other.edges = canvas.edges) :
    query.Reaches other orientation id ↔ query.Reaches canvas orientation id := by
  have last : ∀ node, (∃ position, IsLast Node.id other.nodes position node) ↔
      ∃ position, IsLast Node.id canvas.nodes position node := fun node => by
    rw [← mem_unshadowed_iff, nodes, mem_unshadowed_iff]
  have known : ∀ key, key ∈ other.nodes.map Node.id ↔ key ∈ canvas.nodes.map Node.id := fun key => by
    rw [← mem_ids_unshadowed_iff, nodes, mem_ids_unshadowed_iff]
  have leads : Leads (other.nodes.map Node.id) other.edges orientation =
      Leads (canvas.nodes.map Node.id) canvas.edges orientation := by
    funext origin target
    simp only [Leads, known, edges]
  rw [Reaches, Reaches, leads, exists_comm, exists_comm (α := Nat)]
  simp only [exists_and_right, last]

namespace Policy

variable {policy : Policy} {canvas : Canvas} {raw : String}

theorem shown_eq_filter (long : policy.answers raw = true) :
    policy.shown canvas raw = (unshadowed Placed.id canvas.nodes.zipIdx).filter
      fun entry => decide (entry.1.id ∈ policy.explorer.search canvas raw) := by
  have distinct : canvas.nodes.zipIdx.Nodup := by
    refine List.Nodup.of_map (·.2) ?_
    rw [List.zipIdx_map_snd]
    exact List.nodup_range'
  have kept : ((unshadowed Placed.id canvas.nodes.zipIdx).filter
      fun entry => decide (entry.1.id ∈ policy.explorer.search canvas raw)).Sublist
        canvas.nodes.zipIdx :=
    List.filter_sublist.trans (unshadowed_sublist _ _)
  -- both are parts of one list without repeats, in its order, so their members decide
  refine (distinct.perm_iff_eq_of_sublist shown_sublist kept).mp
    ((List.perm_ext_iff_of_nodup (distinct.sublist shown_sublist) (distinct.sublist kept)).mpr ?_)
  intro entry
  rw [mem_shown_iff long, Explorer.mem_places_iff, List.mem_filter, mem_unshadowed_iff,
    decide_eq_true_eq, Explorer.mem_search_iff]
  simp only [isLast_placed_iff, exists_eq_left]

theorem filter_eq_filter (long : policy.answers raw = true) :
    policy.filter canvas raw = (unshadowed Node.id canvas.nodes).filter
      fun node => decide (node.id ∈ policy.explorer.search canvas raw) := by
  rw [filter, shown_eq_filter long, ← map_unshadowed_placed, List.filter_map]
  rfl

theorem filter_eq_of_search {other : Canvas}
    (nodes : unshadowed Node.id other.nodes = unshadowed Node.id canvas.nodes)
    (answers : ∀ id, id ∈ policy.explorer.search other raw ↔ id ∈ policy.explorer.search canvas raw)
    (long : policy.answers raw = true) : policy.filter other raw = policy.filter canvas raw := by
  rw [filter_eq_filter long, filter_eq_filter long, nodes]
  simp only [answers]

theorem search_iff_of_unshadowed_eq {explorer : Explorer} {other : Canvas}
    (nodes : unshadowed Node.id other.nodes = unshadowed Node.id canvas.nodes)
    (edges : other.edges = canvas.edges) (id : ArtifactId) :
    id ∈ explorer.search other raw ↔ id ∈ explorer.search canvas raw := by
  rw [Explorer.mem_search_iff, Explorer.mem_search_iff,
    Query.reaches_iff_of_unshadowed_eq nodes edges]

theorem filterMap_filter_zipIdx_map (entries : List β) (part : β → α) (wanted : α → Bool) :
    ((entries.map part).zipIdx.filter (wanted ·.1)).filterMap (entries[·.2]?) =
      entries.filter fun entry => wanted (part entry) := by
  have placed : ∀ entry ∈ entries.zipIdx.filter (fun entry => wanted (part entry.1)),
      entries[entry.2]? = some entry.1 :=
    fun entry member => List.mem_zipIdx_iff_getElem?.mp (List.mem_filter.mp member).1
  calc ((entries.map part).zipIdx.filter (wanted ·.1)).filterMap (entries[·.2]?)
    _ = (entries.zipIdx.filter fun entry => wanted (part entry.1)).filterMap (entries[·.2]?) := by
        rw [List.zipIdx_map, List.filter_map, List.filterMap_map]
        rfl
    _ = (entries.zipIdx.filter fun entry => wanted (part entry.1)).map (·.1) := by
        rw [List.filterMap_congr placed, ← List.filterMap_eq_map]
        rfl
    _ = (entries.zipIdx.map (·.1)).filter fun entry => wanted (part entry) := by
        rw [List.filter_map]
        rfl
    _ = entries.filter fun entry => wanted (part entry) := by
        rw [List.zipIdx_map_fst]

/-- A canvas shows the same artifacts, at the same places, as it does without the shadowed ones; what
these are and where they stand does not matter. -/
theorem filter_unshadowed (policy : Policy) (canvas : Canvas) (raw : String)
    (long : policy.answers raw = true) :
    let kept := unshadowed Placed.id canvas.nodes.zipIdx
    let reduced : Canvas := { canvas with nodes := unshadowed Node.id canvas.nodes }
    policy.filter canvas raw = policy.filter reduced raw ∧
      policy.shown canvas raw = (policy.shown reduced raw).filterMap (kept[·.2]?) ∧
      ∀ other : Canvas, unshadowed Node.id other.nodes = reduced.nodes →
        other.edges = canvas.edges → policy.filter other raw = policy.filter canvas raw := by
  intro kept reduced
  have nodes : unshadowed Node.id reduced.nodes = unshadowed Node.id canvas.nodes :=
    unshadowed_unshadowed Node.id canvas.nodes
  have answers : ∀ id, id ∈ policy.explorer.search reduced raw ↔
      id ∈ policy.explorer.search canvas raw :=
    search_iff_of_unshadowed_eq nodes rfl
  refine ⟨(filter_eq_of_search nodes answers long).symm, ?_, fun other same edges =>
    filter_eq_of_search same (search_iff_of_unshadowed_eq same edges) long⟩
  have whole : unshadowed Placed.id reduced.nodes.zipIdx = reduced.nodes.zipIdx := by
    apply unshadowed_of_nodup
    rw [ids_placed]
    exact nodup_ids_unshadowed Node.id canvas.nodes
  have parts : reduced.nodes = kept.map (·.1) := (map_unshadowed_placed canvas.nodes).symm
  rw [shown_eq_filter long, shown_eq_filter long, whole, parts]
  simp only [answers]
  exact (filterMap_filter_zipIdx_map kept (·.1) fun node =>
    decide (node.id ∈ policy.explorer.search canvas raw)).symm

end Policy

namespace Sample

def takenOver : Canvas where
  nodes := [(namedNode "old").withId "a", namedNode "b", namedNode "a"]
  edges := [⟨"a", "b", .standard⟩]

end Sample

open Sample in
/-- The id is reached from the artifact that is asked for, but of its two bearers the last is shown
alone. -/
theorem Policy.filter_unshadowed_takenOver :
    answers {} "name = b" = true ∧ unshadowed Node.id takenOver.nodes = ["b", "a"].map namedNode ∧
      filter {} takenOver "name = b" =
        filter {} ⟨["b", "a"].map namedNode, takenOver.edges⟩ "name = b" ∧
      filter {} takenOver "name = b" = ["b", "a"].map namedNode := by
  have long : answers {} "name = b" = true := by decide +kernel
  have nodes : unshadowed Node.id takenOver.nodes = ["b", "a"].map namedNode := by decide
  have same := (filter_unshadowed {} takenOver "name = b" long).1
  rw [nodes] at same
  refine ⟨long, nodes, same, ?_⟩
  have asked : IsLast Node.id takenOver.nodes 1 (namedNode "b") := ⟨rfl, by decide⟩
  have accepted : ∀ statement ∈ Query.parse "name = b",
      statement.accepts (namedNode "b") = true := by decide +kernel
  have back : Leads (takenOver.nodes.map Node.id) takenOver.edges .undirected "b" "a" :=
    ⟨⟨"a", "b", .standard⟩, by decide, by decide, Or.inr ⟨rfl, rfl, rfl⟩⟩
  rw [filter_eq_filter long, nodes, List.filter_eq_self]
  simp only [List.map_cons, List.map_nil, List.forall_mem_cons, decide_eq_true_eq,
    Explorer.mem_search_iff]
  exact ⟨⟨1, _, asked, accepted, .refl⟩, ⟨1, _, asked, accepted, .single back⟩,
    List.forall_mem_nil _⟩

end AccessCanvas

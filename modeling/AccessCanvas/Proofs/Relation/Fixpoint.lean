import Mathlib.Data.Finset.Card
import Mathlib.Data.Finset.Insert
import Mathlib.Data.Finset.SDiff
import AccessCanvas.Proofs.Relation.Reachability

/-!
Reachability without a walk: the edges are gone over again and again until a round reaches nothing
new. Main statement: a walk finds the same ids, each once.
-/

namespace AccessCanvas

open Relation (ReflTransGen)

def follow (origin target : ArtifactId) (reached : Finset ArtifactId) : Finset ArtifactId :=
  if origin ∈ reached then insert target reached else reached

def Edge.spread (known : Finset ArtifactId) (orientation : Orientation)
    (reached : Finset ArtifactId) (edge : Edge) : Finset ArtifactId :=
  if edge.source ∈ known ∧ edge.target ∈ known then
    let ahead := follow edge.source edge.target reached
    match orientation with
    | .directed => ahead
    | .undirected => follow edge.target edge.source ahead
  else reached

def spread (known : Finset ArtifactId) (orientation : Orientation) (edges : List Edge)
    (reached : Finset ArtifactId) : Finset ArtifactId :=
  edges.foldl (Edge.spread known orientation) reached

section Spread

variable {known reached : Finset ArtifactId} {orientation : Orientation}

theorem mem_follow {origin target id : ArtifactId} :
    id ∈ follow origin target reached ↔ id ∈ reached ∨ (origin ∈ reached ∧ target = id) := by
  rw [follow]
  split
  · next old => rw [Finset.mem_insert, or_comm, and_iff_right old, eq_comm]
  · next absent => simp [absent]

theorem Edge.mem_spread {edge : Edge} {id : ArtifactId} :
    id ∈ edge.spread known orientation reached ↔ id ∈ reached ∨
      (edge.source ∈ known ∧ edge.target ∈ known) ∧
        ∃ origin ∈ reached, edge.Leads orientation origin id := by
  rw [spread]
  by_cases attached : edge.source ∈ known ∧ edge.target ∈ known
  · rw [if_pos attached, and_iff_right attached]
    cases orientation with
    | directed => simp [mem_follow, Leads]
    | undirected =>
        simp only [mem_follow, Leads, true_and]
        constructor
        · rintro ((old | ⟨source, rfl⟩) | ⟨target | ⟨source, -⟩, rfl⟩)
          · exact Or.inl old
          · exact Or.inr ⟨edge.source, source, Or.inl ⟨rfl, rfl⟩⟩
          · exact Or.inr ⟨edge.target, target, Or.inr ⟨rfl, rfl⟩⟩
          · exact Or.inl source
        · rintro (old | ⟨origin, old, ⟨rfl, rfl⟩ | ⟨rfl, rfl⟩⟩)
          · exact Or.inl (Or.inl old)
          · exact Or.inl (Or.inr ⟨old, rfl⟩)
          · exact Or.inr ⟨Or.inl old, rfl⟩
  · rw [if_neg attached]
    simp [attached]

theorem subset_spread (edges : List Edge) : reached ⊆ spread known orientation edges reached := by
  induction edges generalizing reached with
  | nil => exact Finset.Subset.refl reached
  | cons edge edges ih =>
      have first : reached ⊆ edge.spread known orientation reached :=
        fun id old => Edge.mem_spread.mpr (Or.inl old)
      exact first.trans ih

theorem of_mem_spread {holds : ArtifactId → Prop} {edges : List Edge}
    (start : ∀ id ∈ reached, holds id)
    (step : ∀ edge ∈ edges, edge.source ∈ known ∧ edge.target ∈ known → ∀ origin target,
      holds origin → edge.Leads orientation origin target → holds target) :
    ∀ id ∈ spread known orientation edges reached, holds id := by
  induction edges generalizing reached with
  | nil => exact start
  | cons edge edges ih =>
      apply ih
      · intro id member
        rcases Edge.mem_spread.mp member with old | ⟨attached, origin, old, leads⟩
        · exact start id old
        · exact step edge List.mem_cons_self attached origin id (start origin old) leads
      · intro later member
        exact step later (List.mem_cons_of_mem edge member)

theorem mem_of_spread_eq_self {edges : List Edge}
    (stable : spread known orientation edges reached = reached) {edge : Edge} (member : edge ∈ edges)
    (attached : edge.source ∈ known ∧ edge.target ∈ known) {origin target : ArtifactId}
    (old : origin ∈ reached) (leads : edge.Leads orientation origin target) : target ∈ reached := by
  obtain ⟨before, after, rfl⟩ := List.append_of_mem member
  rw [spread, List.foldl_append] at stable
  have there : origin ∈ spread known orientation before reached := subset_spread before old
  rw [← stable]
  exact subset_spread after (Edge.mem_spread.mpr (Or.inr ⟨attached, origin, there, leads⟩))

theorem spread_subset (edges : List Edge) : spread known orientation edges reached ⊆ reached ∪ known := by
  apply of_mem_spread
  · intro id old
    exact Finset.mem_union_left known old
  · rintro edge - ⟨source, target⟩ origin id - (⟨-, rfl⟩ | ⟨-, -, rfl⟩)
    · exact Finset.mem_union_right reached target
    · exact Finset.mem_union_right reached source

theorem card_sdiff_spread {edges : List Edge}
    (changed : spread known orientation edges reached ≠ reached) :
    (known \ spread known orientation edges reached).card < (known \ reached).card := by
  have larger : reached ⊂ spread known orientation edges reached :=
    (subset_spread edges).ssubset_of_ne changed.symm
  obtain ⟨id, gained, fresh⟩ := Finset.exists_of_ssubset larger
  apply Finset.card_lt_card
  rw [Finset.ssubset_iff_of_subset (Finset.sdiff_subset_sdiff (Finset.Subset.refl known) larger.subset)]
  refine ⟨id, Finset.mem_sdiff.mpr ⟨?_, fresh⟩, fun left => (Finset.mem_sdiff.mp left).2 gained⟩
  exact (Finset.mem_union.mp (spread_subset edges gained)).resolve_left fresh

end Spread

def fixpoint (known : Finset ArtifactId) (orientation : Orientation) (edges : List Edge)
    (reached : Finset ArtifactId) : Finset ArtifactId :=
  if spread known orientation edges reached = reached then reached
  else fixpoint known orientation edges (spread known orientation edges reached)
termination_by (known \ reached).card
decreasing_by exact card_sdiff_spread ‹_›

theorem fixpoint_stable (known : Finset ArtifactId) (orientation : Orientation) (edges : List Edge)
    (reached : Finset ArtifactId) :
    spread known orientation edges (fixpoint known orientation edges reached) =
      fixpoint known orientation edges reached := by
  fun_induction fixpoint known orientation edges reached with
  | case1 reached stable => exact stable
  | case2 reached changed ih => exact ih

theorem subset_fixpoint (known : Finset ArtifactId) (orientation : Orientation) (edges : List Edge)
    (reached : Finset ArtifactId) : reached ⊆ fixpoint known orientation edges reached := by
  fun_induction fixpoint known orientation edges reached with
  | case1 reached stable => exact Finset.Subset.refl reached
  | case2 reached changed ih => exact (subset_spread edges).trans ih

theorem of_mem_fixpoint {known reached : Finset ArtifactId} {orientation : Orientation}
    {edges : List Edge} {holds : ArtifactId → Prop} (start : ∀ id ∈ reached, holds id)
    (step : ∀ edge ∈ edges, edge.source ∈ known ∧ edge.target ∈ known → ∀ origin target,
      holds origin → edge.Leads orientation origin target → holds target) :
    ∀ id ∈ fixpoint known orientation edges reached, holds id := by
  fun_induction fixpoint known orientation edges reached with
  | case1 reached stable => exact start
  | case2 reached changed ih => exact ih (of_mem_spread start step)

theorem mem_fixpoint_iff (ids : List ArtifactId) (edges : List Edge) (orientation : Orientation)
    (reached : Finset ArtifactId) (id : ArtifactId) :
    id ∈ fixpoint ids.toFinset orientation edges reached ↔
      ∃ start ∈ reached, ReflTransGen (Leads ids edges orientation) start id := by
  constructor
  · apply of_mem_fixpoint
    · intro id old
      exact ⟨id, old, .refl⟩
    · rintro edge member attached origin target ⟨start, old, path⟩ leads
      simp only [List.mem_toFinset] at attached
      exact ⟨start, old, path.tail ⟨edge, member, attached, leads⟩⟩
  · rintro ⟨start, old, path⟩
    induction path with
    | refl => exact subset_fixpoint _ orientation edges reached old
    | tail _ step ih =>
        obtain ⟨edge, member, attached, leads⟩ := step
        simp only [← List.mem_toFinset] at attached
        exact mem_of_spread_eq_self (fixpoint_stable _ orientation edges reached) member attached ih
          leads

/-- A walk finds each id of the fixpoint once, and notes just these; what it finds under an id is a
seed or what the lookup knows. This holds of artifacts, and of artifacts with their positions. -/
theorem reachableFrom_eq_fixpoint (id : α → ArtifactId) (entries : List α) (edges : List Edge)
    (orientation : Orientation) (seeds : List α) :
    let lookup : Lookup id := .ofList entries
    let index := Network.build lookup edges orientation
    let found := index.reachableFrom seeds
    (found.map id).Nodup ∧
      (found.map id).toFinset =
        fixpoint (entries.map id).toFinset orientation edges (seeds.map id).toFinset ∧
      (∀ key, ((Walk.mk #[] ∅ seeds).run index).seen.contains key = true ↔
        ∃ entry ∈ found, id entry = key) ∧
      ∀ entry ∈ found, entry ∈ seeds ∨ lookup.get? (id entry) = some entry := by
  intro lookup index found
  refine ⟨index.nodup_reachableFrom seeds, ?_, ?_, ?_⟩
  · ext key
    rw [List.mem_toFinset, Network.mem_reachableFrom_build_iff, mem_fixpoint_iff]
    simp
  · intro key
    rw [(index.invariant_finished seeds).seen key]
    exact List.mem_map
  · intro entry member
    exact Network.get?_of_mem_reachableFrom_build member

end AccessCanvas

import Mathlib.Logic.Relation
import AccessCanvas.Proofs.Relation.Adjacency
import AccessCanvas.Relation.Walk

/-!
What a walk finds. Every step keeps what was met before and leaves no neighbour of a visited entry
unmet. Main statement: the ids found are those at the ends of the paths that start at a seed.
-/

namespace AccessCanvas

open Relation (ReflTransGen)

variable {id : α → ArtifactId}

structure Network.Yields (index : Network id) (seeds : List α) (entry : α) : Prop where
  source : entry ∈ seeds ∨ ∃ origin, entry ∈ index.neighbours origin
  path : ∃ seed ∈ seeds, ReflTransGen index.Leads (id seed) (id entry)

namespace Walk

def ids (id : α → ArtifactId) (walk : Walk α) : List ArtifactId :=
  walk.visited.toList.map id

def IsMarked (id : α → ArtifactId) (walk : Walk α) : Prop :=
  ∀ key, walk.seen.contains key = true ↔ key ∈ walk.ids id

def Meets (id : α → ArtifactId) (walk : Walk α) (key : ArtifactId) : Prop :=
  key ∈ walk.ids id ∨ key ∈ walk.stack.map id

structure Invariant (index : Network id) (seeds : List α) (walk : Walk α) : Prop where
  nodup : (walk.ids id).Nodup
  seen : ∀ key, walk.seen.contains key = true ↔ key ∈ walk.ids id
  yields : ∀ entry, entry ∈ walk.visited.toList ∨ entry ∈ walk.stack → index.Yields seeds entry
  seeds : ∀ seed ∈ seeds, walk.Meets id (id seed)
  closed : ∀ origin ∈ walk.ids id, ∀ neighbour ∈ index.neighbours origin,
    walk.Meets id (id neighbour)

variable {index : Network id} {seeds : List α}

theorem invariant_start (index : Network id) (seeds : List α) :
    Invariant index seeds ⟨#[], ∅, seeds⟩ where
  nodup := by simp [ids]
  seen key := by simp [ids]
  yields entry met := by
    have seed : entry ∈ seeds := by simpa using met
    exact ⟨Or.inl seed, entry, seed, .refl⟩
  seeds seed member := Or.inr (List.mem_map_of_mem member)
  closed origin member := by simp [ids] at member

section Visit

variable {visited : Array α} {seen : Std.HashSet ArtifactId} {entry : α} {rest : List α}

theorem visit_of_seen (known : seen.contains (id entry) = true) :
    visit index visited seen entry rest = ⟨visited, seen, rest⟩ :=
  if_pos known

theorem visit_of_unseen (unknown : seen.contains (id entry) = false) :
    visit index visited seen entry rest =
      ⟨visited.push entry, seen.insert (id entry),
        (index.neighbours (id entry)).filter
          (fun neighbour => !(seen.insert (id entry)).contains (id neighbour)) ++ rest⟩ :=
  if_neg (by simp [unknown])

theorem ids_push (marks marked : Std.HashSet ArtifactId) (stack later : List α) :
    ids id ⟨visited.push entry, marked, later⟩ = ids id ⟨visited, marks, stack⟩ ++ [id entry] := by
  simp [ids]

theorem IsMarked.push (marked : IsMarked id ⟨visited, seen, entry :: rest⟩) (later : List α) :
    IsMarked id ⟨visited.push entry, seen.insert (id entry), later⟩ := by
  intro key
  rw [ids_push seen _ (entry :: rest), List.mem_append, List.mem_singleton, ← marked key,
    Std.HashSet.contains_insert, Bool.or_eq_true, beq_iff_eq, eq_comm (a := key)]
  exact or_comm

theorem Meets.push {key : ArtifactId} (met : Meets id ⟨visited, seen, entry :: rest⟩ key)
    (marked : Std.HashSet ArtifactId) (fresh : List α) :
    Meets id ⟨visited.push entry, marked, fresh ++ rest⟩ key := by
  rw [Meets, ids_push seen marked (entry :: rest), List.mem_append, List.map_append,
    List.mem_append]
  rcases met with old | pending
  · exact Or.inl (Or.inl old)
  · rcases List.mem_cons.mp pending with rfl | later
    · exact Or.inl (Or.inr (List.mem_singleton_self _))
    · exact Or.inr (Or.inr later)

theorem Invariant.pop (invariant : Invariant index seeds ⟨visited, seen, entry :: rest⟩)
    (known : seen.contains (id entry) = true) : Invariant index seeds ⟨visited, seen, rest⟩ := by
  have kept : ∀ key, Meets id ⟨visited, seen, entry :: rest⟩ key →
      Meets id ⟨visited, seen, rest⟩ key := by
    rintro key (old | pending)
    · exact Or.inl old
    · rcases List.mem_cons.mp pending with rfl | later
      · exact Or.inl ((invariant.seen (id entry)).mp known)
      · exact Or.inr later
  exact {
    nodup := invariant.nodup
    seen := invariant.seen
    yields := fun found met => invariant.yields found (met.imp_right (List.mem_cons_of_mem entry))
    seeds := fun seed member => kept (id seed) (invariant.seeds seed member)
    closed := fun origin member neighbour adjacent =>
      kept (id neighbour) (invariant.closed origin member neighbour adjacent) }

theorem Invariant.not_mem_ids (invariant : Invariant index seeds ⟨visited, seen, entry :: rest⟩)
    (unknown : seen.contains (id entry) = false) :
    id entry ∉ ids id ⟨visited, seen, entry :: rest⟩ := by
  intro met
  have known : seen.contains (id entry) = true := (invariant.seen (id entry)).mpr met
  rw [unknown] at known
  cases known

theorem Invariant.push (invariant : Invariant index seeds ⟨visited, seen, entry :: rest⟩)
    (unknown : seen.contains (id entry) = false) :
    Invariant index seeds ⟨visited.push entry, seen.insert (id entry),
      (index.neighbours (id entry)).filter
        (fun neighbour => !(seen.insert (id entry)).contains (id neighbour)) ++ rest⟩ := by
  have here := invariant.yields entry (Or.inr List.mem_cons_self)
  constructor
  · rw [ids_push seen _ (entry :: rest), List.nodup_append]
    refine ⟨invariant.nodup, by simp, ?_⟩
    rintro key old other same rfl
    exact invariant.not_mem_ids unknown (List.mem_singleton.mp same ▸ old)
  · exact IsMarked.push invariant.seen _
  · intro found met
    rcases met with old | pending
    · rw [Array.toList_push, List.mem_append, List.mem_singleton] at old
      rcases old with old | rfl
      · exact invariant.yields found (Or.inl old)
      · exact here
    · rcases List.mem_append.mp pending with added | later
      · have adjacent := (List.mem_filter.mp added).1
        obtain ⟨seed, member, path⟩ := here.path
        exact ⟨Or.inr ⟨id entry, adjacent⟩, seed, member, path.tail ⟨found, adjacent, rfl⟩⟩
      · exact invariant.yields found (Or.inr (List.mem_cons_of_mem entry later))
  · intro seed member
    exact (invariant.seeds seed member).push _ _
  · intro origin member neighbour adjacent
    rw [ids_push seen _ (entry :: rest), List.mem_append, List.mem_singleton] at member
    rcases member with old | rfl
    · exact (invariant.closed origin old neighbour adjacent).push _ _
    · -- a neighbour of the entry just visited was seen before, or goes on the stack now
      cases noted : (seen.insert (id entry)).contains (id neighbour) with
      | true => exact Or.inl ((IsMarked.push invariant.seen _ (id neighbour)).mp noted)
      | false =>
          refine Or.inr (List.mem_map_of_mem (List.mem_append_left _ ?_))
          rw [List.mem_filter]
          exact ⟨adjacent, by simp [noted]⟩

theorem Invariant.visit (invariant : Invariant index seeds ⟨visited, seen, entry :: rest⟩) :
    Invariant index seeds (visit index visited seen entry rest) := by
  cases known : seen.contains (id entry) with
  | true =>
      rw [visit_of_seen known]
      exact invariant.pop known
  | false =>
      rw [visit_of_unseen known]
      exact invariant.push known

end Visit

theorem run_keeps (holds : Walk α → Prop)
    (visits : ∀ visited seen entry rest, holds ⟨visited, seen, entry :: rest⟩ →
      holds (visit index visited seen entry rest)) {walk : Walk α} (start : holds walk) :
    holds (run index walk) := by
  induction walk using run.induct index with
  | case1 visited seen =>
      rw [Walk.run]
      exact start
  | case2 visited seen entry rest ih =>
      rw [Walk.run]
      exact ih (visits visited seen entry rest start)

theorem Invariant.run {walk : Walk α} (invariant : Invariant index seeds walk) :
    Invariant index seeds (run index walk) :=
  run_keeps (Invariant index seeds) (fun _ _ _ _ => Invariant.visit) invariant

theorem stack_run (index : Network id) (walk : Walk α) : (run index walk).stack = [] := by
  induction walk using run.induct index with
  | case1 visited seen => rw [Walk.run]
  | case2 visited seen entry rest ih =>
      rw [Walk.run]
      exact ih

theorem Invariant.mem_ids_iff {walk : Walk α} (invariant : Invariant index seeds walk)
    (finished : walk.stack = []) (key : ArtifactId) :
    key ∈ walk.ids id ↔ ∃ seed ∈ seeds, ReflTransGen index.Leads (id seed) key := by
  have visited : ∀ key, walk.Meets id key → key ∈ walk.ids id := by
    rintro key (old | pending)
    · exact old
    · simp [finished] at pending
  constructor
  · intro member
    obtain ⟨entry, belongs, rfl⟩ := List.mem_map.mp member
    exact (invariant.yields entry (Or.inl belongs)).path
  · rintro ⟨seed, member, path⟩
    induction path with
    | refl => exact visited (id seed) (invariant.seeds seed member)
    | tail _ step ih =>
        obtain ⟨neighbour, adjacent, rfl⟩ := step
        exact visited (id neighbour) (invariant.closed _ ih neighbour adjacent)

end Walk

namespace Network

section Index

variable (index : Network id) (seeds : List α)

theorem invariant_finished : Walk.Invariant index seeds ((Walk.mk #[] ∅ seeds).run index) :=
  (Walk.invariant_start index seeds).run

theorem nodup_reachableFrom : ((index.reachableFrom seeds).map id).Nodup :=
  (index.invariant_finished seeds).nodup

theorem mem_reachableFrom_iff (key : ArtifactId) :
    key ∈ (index.reachableFrom seeds).map id ↔
      ∃ seed ∈ seeds, ReflTransGen index.Leads (id seed) key :=
  (index.invariant_finished seeds).mem_ids_iff (Walk.stack_run index _) key

theorem source_of_mem_reachableFrom {entry : α} (found : entry ∈ index.reachableFrom seeds) :
    entry ∈ seeds ∨ ∃ origin, entry ∈ index.neighbours origin :=
  ((index.invariant_finished seeds).yields entry (Or.inl found)).source

end Index

theorem mem_reachableFrom_build_iff (entries : List α) (edges : List Edge)
    (orientation : Orientation) (seeds : List α) (key : ArtifactId) :
    key ∈ ((build (.ofList entries : Lookup id) edges orientation).reachableFrom seeds).map id ↔
      ∃ seed ∈ seeds,
        ReflTransGen (AccessCanvas.Leads (entries.map id) edges orientation) (id seed) key := by
  have same : (build (.ofList entries : Lookup id) edges orientation).Leads =
      AccessCanvas.Leads (entries.map id) edges orientation := by
    funext origin target
    exact propext (leads_build_iff entries edges orientation origin target)
  rw [mem_reachableFrom_iff, same]

theorem get?_of_mem_reachableFrom_build {lookup : Lookup id} {edges : List Edge}
    {orientation : Orientation} {seeds : List α} {entry : α}
    (found : entry ∈ (build lookup edges orientation).reachableFrom seeds) :
    entry ∈ seeds ∨ lookup.get? (id entry) = some entry := by
  rcases source_of_mem_reachableFrom _ seeds found with seed | ⟨origin, adjacent⟩
  · exact Or.inl seed
  · exact Or.inr (mem_neighbours_build.mp adjacent).2

end Network

end AccessCanvas

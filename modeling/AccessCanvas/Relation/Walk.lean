import Std.Data.HashSet
import AccessCanvas.Relation.Adjacency

/-!
The walk from a list of starting entries over all their relations. The entries still to visit are a
stack; the first of them is visited, unless its id was visited before, and its neighbours go on
top. Main statement: every step lowers the number of entries on the stack plus the number of hops
from ids not yet visited, so the walk ends.
-/

namespace AccessCanvas

structure Walk (α : Type) where
  visited : Array α := #[]
  seen : Std.HashSet ArtifactId := ∅
  /-- The entries still to visit, the next one first. -/
  stack : List α

namespace Walk

variable {id : α → ArtifactId}

def visit (index : Network id) (visited : Array α) (seen : Std.HashSet ArtifactId) (entry : α)
    (rest : List α) : Walk α :=
  if seen.contains (id entry) then ⟨visited, seen, rest⟩
  else
    let seen := seen.insert (id entry)
    let fresh := (index.neighbours (id entry)).filter fun neighbour => !seen.contains (id neighbour)
    ⟨visited.push entry, seen, fresh ++ rest⟩

/-- The entries on the stack and the hops that may still put one there. -/
def pending (index : Network id) (walk : Walk α) : Nat :=
  walk.stack.length + index.hops.countP (!walk.seen.contains ·.origin)

theorem countP_insert (hops : List (Hop α)) (seen : Std.HashSet ArtifactId) (key : ArtifactId)
    (unseen : seen.contains key = false) :
    hops.countP (!(seen.insert key).contains ·.origin) + (hops.filter (·.origin == key)).length =
      hops.countP (!seen.contains ·.origin) := by
  induction hops with
  | nil => simp
  | cons hop later step =>
    by_cases same : hop.origin = key
    · subst same
      simp only [List.countP_cons, Std.HashSet.contains_insert, beq_self_eq_true, Bool.true_or,
        Bool.not_true, Bool.false_eq_true, ↓reduceIte, unseen, Bool.not_false, List.filter_cons,
        List.length_cons] at step ⊢
      omega
    · have differs : (hop.origin == key) = false := by simp [same]
      have flipped : (key == hop.origin) = false := by simp [Ne.symm same]
      simp only [List.countP_cons, Std.HashSet.contains_insert, flipped, Bool.false_or,
        List.filter_cons, differs, Bool.false_eq_true, ↓reduceIte] at step ⊢
      omega

theorem pending_visit (index : Network id) (visited : Array α) (seen : Std.HashSet ArtifactId)
    (entry : α) (rest : List α) :
    (visit index visited seen entry rest).pending index <
      (Walk.mk visited seen (entry :: rest)).pending index := by
  rw [visit]
  split
  · simp [pending]
  · next unseen =>
    have fewer := countP_insert index.hops seen (id entry) (by simpa using unseen)
    have short := List.length_filter_le (fun neighbour => !(seen.insert (id entry)).contains
      (id neighbour)) (index.neighbours (id entry))
    rw [index.neighbours_eq, List.length_map] at short
    simp only [pending, index.neighbours_eq, List.length_append, List.length_cons] at *
    omega

def run (index : Network id) : Walk α → Walk α
  | ⟨visited, seen, []⟩ => ⟨visited, seen, []⟩
  | ⟨visited, seen, entry :: rest⟩ => run index (visit index visited seen entry rest)
termination_by walk => walk.pending index
decreasing_by exact pending_visit index visited seen entry rest

end Walk

def Network.reachableFrom {id : α → ArtifactId} (index : Network id) (seeds : List α) : List α :=
  ((Walk.mk #[] ∅ seeds).run index).visited.toList

end AccessCanvas

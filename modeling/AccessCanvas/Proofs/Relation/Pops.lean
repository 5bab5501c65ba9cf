import AccessCanvas.Proofs.Relation.Neighbours
import AccessCanvas.Sample

/-!
How long a walk is. Every visit takes one entry off the stack, and may put its neighbours there,
also such as are on it already. Main statement: a walk ends when it has taken off no more entries
than there are seeds and neighbours in all the lists of the index.
-/

namespace AccessCanvas

variable {id : α → ArtifactId}

namespace Walk

/-- From one walk to another with so many entries taken off the stack. -/
inductive Pops (index : Network id) : Nat → Walk α → Walk α → Prop
  | none (walk : Walk α) : Pops index 0 walk walk
  | pop {count : Nat} {visited : Array α} {seen : Std.HashSet ArtifactId} {entry : α}
      {rest : List α} {later : Walk α} :
      Pops index count (visit index visited seen entry rest) later →
      Pops index (count + 1) ⟨visited, seen, entry :: rest⟩ later

/-- Every entry taken off the stack was pending, and what is put there instead was pending too. -/
theorem Pops.add_pending_le {index : Network id} {count : Nat} {walk later : Walk α}
    (pops : Pops index count walk later) :
    count + later.pending index ≤ walk.pending index := by
  induction pops with
  | none walk => omega
  | @pop count visited seen entry rest later _ ih =>
      have fewer := pending_visit index visited seen entry rest
      omega

theorem exists_pops_run (index : Network id) (walk : Walk α) :
    ∃ count, Pops index count walk (run index walk) := by
  induction walk using run.induct index with
  | case1 visited seen =>
      rw [run_nil]
      exact ⟨0, .none _⟩
  | case2 visited seen entry rest ih =>
      obtain ⟨count, pops⟩ := ih
      rw [run_cons]
      exact ⟨count + 1, .pop pops⟩

theorem pending_start (index : Network id) (seeds : List α) :
    (Walk.mk #[] ∅ seeds).pending index = seeds.length + index.hops.length := by
  simp [pending]

end Walk

namespace Network

/-- A walk ends. It never takes more entries off its stack than there are seeds and neighbours in all
the lists, and when nothing is left there it has found what is reachable. An edge with two known
ends stands once in the lists, and twice when it is followed both ways. -/
theorem pops_bounded (lookup : Lookup id) (edges : List Edge) (orientation : Orientation)
    (seeds : List α) :
    let index := build lookup edges orientation
    let start : Walk α := ⟨#[], ∅, seeds⟩
    let listed := (index.entries.map (·.2.length)).sum
    (∀ count later, Walk.Pops index count start later → count ≤ seeds.length + listed) ∧
    (∃ count finished, Walk.Pops index count start finished ∧ finished.stack = [] ∧
      finished.visited.toList = index.reachableFrom seeds) ∧
    listed = match orientation with
      | .directed => index.edgeCount
      | .undirected => 2 * index.edgeCount := by
  intro index start listed
  have hops : listed = index.hops.length := sum_length_entries
  refine ⟨fun count later pops => ?_, ?_, ?_⟩
  · have bound := pops.add_pending_le
    rw [Walk.pending_start, ← hops] at bound
    omega
  · obtain ⟨count, pops⟩ := Walk.exists_pops_run index start
    exact ⟨count, _, pops, Walk.stack_run index start, rfl⟩
  · rw [hops, length_hops]
    cases orientation with
    | directed => exact Nat.one_mul _
    | undirected => rfl

end Network

def Sample.doubled : Canvas where
  nodes := ["a", "b"].map namedNode
  edges := [⟨"a", "b", .standard⟩, ⟨"a", "b", .standard⟩]

open Sample in
/-- The bound is met: the second artifact is taken off the stack twice. -/
theorem Network.pops_bounded_doubled :
    let index : Adjacency := build (.ofList doubled.nodes) doubled.edges .directed
    let start : Walk Node := ⟨#[], ∅, [namedNode "a"]⟩
    (∃ later, Walk.Pops index 3 start later) ∧
      ∀ count later, Walk.Pops index count start later → count ≤ 3 := by
  intro index start
  have attached : ∀ edge ∈ doubled.edges,
      edge.isAttached (.ofList doubled.nodes : Lookup Node.id) = true := by
    simp only [Edge.isAttached_ofList_iff]
    decide
  have target : (Lookup.ofList doubled.nodes : Lookup Node.id).get? "b" = some (namedNode "b") := by
    rw [Lookup.get?_ofList]
    rfl
  have neighbours : ∀ key, index.neighbours key =
      if "a" = key then [namedNode "b", namedNode "b"] else [] := by
    intro key
    rw [neighbours_build_eq, List.filter_eq_self.mpr attached, doubled, List.flatMap_cons,
      List.flatMap_singleton, ← doubled]
    simp only [Edge.neighboursOf, target]
    by_cases origin : "a" = key <;> simp [origin]
  let noted : Std.HashSet ArtifactId := Std.HashSet.insert ∅ "a"
  have first : Walk.visit index #[] ∅ (namedNode "a") [] =
      ⟨#[namedNode "a"], noted, [namedNode "b", namedNode "b"]⟩ := by
    rw [Walk.visit_of_unseen Std.HashSet.contains_empty, neighbours]
    simp [namedNode, Node.withId, noted]
  have second : Walk.visit index #[namedNode "a"] noted (namedNode "b") [namedNode "b"] =
      ⟨#[namedNode "a", namedNode "b"], noted.insert "b", [namedNode "b"]⟩ := by
    rw [Walk.visit_of_unseen (by simp [namedNode, Node.withId, noted]), neighbours]
    rfl
  obtain ⟨bound, -, listed⟩ :=
    pops_bounded (.ofList doubled.nodes : Lookup Node.id) doubled.edges .directed [namedNode "a"]
  constructor
  · have last := Walk.Pops.pop (.none (Walk.visit index #[namedNode "a", namedNode "b"]
      (noted.insert "b") (namedNode "b") []))
    rw [← second] at last
    have later := Walk.Pops.pop last
    rw [← first] at later
    exact ⟨_, .pop later⟩
  · intro count later pops
    have edges : index.edgeCount = 2 := List.countP_eq_length.mpr attached
    have most := bound count later pops
    rw [listed] at most
    change count ≤ 1 + index.edgeCount at most
    omega

end AccessCanvas

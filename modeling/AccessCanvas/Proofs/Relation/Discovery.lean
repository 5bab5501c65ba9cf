import AccessCanvas.Proofs.Relation.Reachability

/-!
The order in which a walk finds entries. Main statements: a walk is through with the entries on top
of its stack before it takes one of those below; two parts of a network with no id in common are
found one after the other, each as if the other were not there.
-/

namespace AccessCanvas

open Relation (ReflTransGen)

variable {id : α → ArtifactId}

/-- The ids inside have the same neighbours in the whole as in the part, and these are inside. -/
structure Network.IsPart (part whole : Network id) (inside : ArtifactId → Prop) : Prop where
  neighbours : ∀ key, inside key → whole.neighbours key = part.neighbours key
  closed : ∀ key, inside key → ∀ neighbour ∈ part.neighbours key, inside (id neighbour)

namespace Walk

theorem run_nil (index : Network id) (visited : Array α) (seen : Std.HashSet ArtifactId) :
    run index ⟨visited, seen, []⟩ = ⟨visited, seen, []⟩ := by
  rw [run]

theorem run_cons (index : Network id) (visited : Array α) (seen : Std.HashSet ArtifactId) (entry : α)
    (rest : List α) :
    run index ⟨visited, seen, entry :: rest⟩ = run index (visit index visited seen entry rest) := by
  rw [run]

section Append

variable (index : Network id)

theorem visit_append (visited : Array α) (seen : Std.HashSet ArtifactId) (entry : α)
    (rest later : List α) :
    visit index visited seen entry (rest ++ later) =
      { visit index visited seen entry rest with
        stack := (visit index visited seen entry rest).stack ++ later } := by
  cases known : seen.contains (id entry) with
  | true => rw [visit_of_seen known, visit_of_seen known]
  | false => rw [visit_of_unseen known, visit_of_unseen known, List.append_assoc]

theorem run_append (walk : Walk α) (later : List α) :
    run index { walk with stack := walk.stack ++ later } =
      run index { run index walk with stack := later } := by
  induction walk using run.induct index with
  | case1 visited seen => rw [run_nil, List.nil_append]
  | case2 visited seen entry rest ih =>
      rw [List.cons_append, run_cons, visit_append, ih, ← run_cons]

end Append

/-- A walk that starts inside the part is not changed by what was visited before, as long as no id
inside is marked that the walk in the part alone would not have marked. -/
theorem visited_run_eq {part whole : Network id} {inside : ArtifactId → Prop}
    (within : part.IsPart whole inside) (walk : Walk α) (before : Array α)
    (marked : Std.HashSet ArtifactId)
    (marks : ∀ key, inside key → marked.contains key = walk.seen.contains key)
    (stack : ∀ entry ∈ walk.stack, inside (id entry)) :
    (run whole ⟨before ++ walk.visited, marked, walk.stack⟩).visited =
      before ++ (run part walk).visited := by
  induction walk using run.induct part generalizing marked with
  | case1 visited seen => rw [run_nil, run_nil]
  | case2 visited seen entry rest ih =>
      have here : inside (id entry) := stack entry List.mem_cons_self
      have others : ∀ entry ∈ rest, inside (id entry) :=
        fun entry member => stack entry (List.mem_cons_of_mem _ member)
      rw [run_cons, run_cons]
      cases known : seen.contains (id entry) with
      | true =>
          rw [visit_of_seen known] at ih ⊢
          rw [visit_of_seen ((marks _ here).trans known)]
          exact ih marked marks others
      | false =>
          have noted : ∀ key, inside key →
              (marked.insert (id entry)).contains key = (seen.insert (id entry)).contains key := by
            intro key held
            rw [Std.HashSet.contains_insert, Std.HashSet.contains_insert, marks key held]
          -- the two walks may have marked different ids, but ask only about ids inside
          have fresh : (whole.neighbours (id entry)).filter
                (fun neighbour => !(marked.insert (id entry)).contains (id neighbour)) =
              (part.neighbours (id entry)).filter
                fun neighbour => !(seen.insert (id entry)).contains (id neighbour) := by
            rw [within.neighbours _ here]
            refine List.filter_congr fun neighbour member => ?_
            rw [noted _ (within.closed _ here neighbour member)]
          rw [visit_of_unseen known] at ih ⊢
          rw [visit_of_unseen ((marks _ here).trans known), fresh, ← Array.append_push]
          refine ih _ noted fun neighbour member => ?_
          rcases List.mem_append.mp member with new | old
          · exact within.closed _ here neighbour (List.mem_filter.mp new).1
          · exact others neighbour old

end Walk

namespace Network

theorem IsPart.inside_of_path {part whole : Network id} {inside : ArtifactId → Prop}
    (within : part.IsPart whole inside) {start key : ArtifactId} (here : inside start)
    (path : ReflTransGen part.Leads start key) : inside key := by
  induction path with
  | refl => exact here
  | tail _ step ih =>
      obtain ⟨neighbour, adjacent, rfl⟩ := step
      exact within.closed _ ih neighbour adjacent

theorem reachableFrom_append {first second whole : Network id} {inside outside : ArtifactId → Prop}
    (one : first.IsPart whole inside) (other : second.IsPart whole outside)
    (apart : ∀ key, inside key → ¬outside key) {starts later : List α}
    (near : ∀ seed ∈ starts, inside (id seed)) (far : ∀ seed ∈ later, outside (id seed)) :
    whole.reachableFrom (starts ++ later) =
      first.reachableFrom starts ++ second.reachableFrom later := by
  let walked := Walk.run whole ⟨#[], ∅, starts⟩
  have found : walked.visited = (Walk.run first ⟨#[], ∅, starts⟩).visited := by
    simpa using Walk.visited_run_eq one ⟨#[], ∅, starts⟩ #[] ∅ (fun _ _ => rfl) near
  have unmarked : ∀ key, outside key → walked.seen.contains key = false := by
    intro key held
    rw [← Bool.not_eq_true, (whole.invariant_finished starts).seen, Walk.ids, found]
    intro visited
    obtain ⟨seed, member, path⟩ := (first.mem_reachableFrom_iff starts key).mp visited
    exact apart key (one.inside_of_path (near seed member) path) held
  have rest : (Walk.run whole ⟨walked.visited, walked.seen, later⟩).visited =
      walked.visited ++ (Walk.run second ⟨#[], ∅, later⟩).visited := by
    simpa using Walk.visited_run_eq other ⟨#[], ∅, later⟩ walked.visited walked.seen
      (fun key held => by rw [unmarked key held, Std.HashSet.contains_empty]) far
  rw [reachableFrom, Walk.run_append whole ⟨#[], ∅, starts⟩ later, rest, found,
    Array.toList_append]
  rfl

end Network

end AccessCanvas

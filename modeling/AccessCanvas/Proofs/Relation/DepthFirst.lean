import Mathlib.Data.List.Infix
import AccessCanvas.Proofs.Relation.Discovery

/-!
Depth first search by recursion: an entry whose id is noted already is passed over; any other one
is noted, and its neighbours are searched before what comes after it. Main statement: a walk with a
stack finds the same entries in the same order.
-/

namespace AccessCanvas

variable {id : α → ArtifactId}

def IsNoted (id : α → ArtifactId) (noted : List α) (key : ArtifactId) : Prop :=
  key ∈ noted.map id

instance (noted : List α) (key : ArtifactId) : Decidable (IsNoted id noted key) :=
  inferInstanceAs (Decidable (key ∈ noted.map id))

theorem isNoted_concat {noted : List α} {entry : α} {key : ArtifactId} :
    IsNoted id (noted ++ [entry]) key ↔ IsNoted id noted key ∨ key = id entry := by
  simp [IsNoted]

namespace Network

variable (index : Network id)

def unused (noted : List α) : Nat :=
  index.hops.countP (¬IsNoted id noted ·.origin)

theorem unused_le_of_prefix {noted found : List α} (kept : noted <+: found) :
    index.unused found ≤ index.unused noted := by
  refine List.countP_mono_left fun hop _ fresh => ?_
  rw [decide_eq_true_eq] at fresh ⊢
  exact fun old => fresh ((kept.map id).subset old)

theorem unused_concat {noted : List α} {entry : α} (fresh : ¬IsNoted id noted (id entry)) :
    (index.neighbours (id entry)).length + index.unused (noted ++ [entry]) = index.unused noted := by
  have here : (index.hops.filter (·.origin == id entry)).countP (¬IsNoted id noted ·.origin) =
      (index.neighbours (id entry)).length := by
    rw [index.neighbours_eq, List.length_map, List.countP_eq_length]
    intro hop member
    rw [eq_of_beq (List.mem_filter.mp member).2]
    exact decide_eq_true fresh
  have others : (index.hops.filter (!·.origin == id entry)).countP (¬IsNoted id noted ·.origin) =
      index.unused (noted ++ [entry]) := by
    rw [unused, List.countP_filter]
    refine List.countP_congr fun hop _ => ?_
    simp [isNoted_concat]
  have split := List.countP_eq_countP_filter_add index.hops (¬IsNoted id noted ·.origin)
    (·.origin == id entry)
  rw [here, others] at split
  exact split.symm

/-- What is found from the entries, one after the other, when some are noted already; these stay in
front. -/
def depthFirst (noted : List α) : List α → { found : List α // noted <+: found }
  | [] => ⟨noted, List.prefix_rfl⟩
  | entry :: later =>
    if IsNoted id noted (id entry) then depthFirst noted later
    else
      let below := depthFirst (noted ++ [entry]) (index.neighbours (id entry))
      let whole := depthFirst below.1 later
      ⟨whole.1, (List.prefix_append noted [entry]).trans (below.2.trans whole.2)⟩
termination_by entries => entries.length + index.unused noted
decreasing_by
  · simp
  · have used := index.unused_concat ‹¬IsNoted id noted (id entry)›
    simp only [List.length_cons]
    omega
  · refine Nat.add_lt_add_of_lt_of_le (Nat.lt_succ_self _) (index.unused_le_of_prefix ?_)
    exact (List.prefix_append noted [entry]).trans (Subtype.property _)

section DepthFirst

variable (noted : List α)

theorem depthFirst_nil : (index.depthFirst noted []).1 = noted := by
  rw [depthFirst]

theorem depthFirst_of_noted {entry : α} (known : IsNoted id noted (id entry)) (later : List α) :
    index.depthFirst noted (entry :: later) = index.depthFirst noted later := by
  rw [depthFirst, if_pos known]

theorem depthFirst_of_fresh {entry : α} (fresh : ¬IsNoted id noted (id entry)) (later : List α) :
    (index.depthFirst noted (entry :: later)).1 =
      (index.depthFirst
        (index.depthFirst (noted ++ [entry]) (index.neighbours (id entry))).1 later).1 := by
  rw [depthFirst, if_neg fresh]

end DepthFirst

def explore (noted : List α) (entry : α) : List α :=
  (index.depthFirst noted [entry]).1

theorem depthFirst_eq_foldl (noted entries : List α) :
    (index.depthFirst noted entries).1 = entries.foldl index.explore noted := by
  induction entries generalizing noted with
  | nil => exact index.depthFirst_nil noted
  | cons entry later ih =>
      rw [List.foldl_cons, ← ih, explore]
      by_cases known : IsNoted id noted (id entry)
      · rw [depthFirst_of_noted _ _ known, depthFirst_of_noted _ _ known, depthFirst_nil]
      · rw [depthFirst_of_fresh _ _ known, depthFirst_of_fresh _ _ known, depthFirst_nil]

theorem explore_eq (noted : List α) (entry : α) :
    index.explore noted entry =
      if IsNoted id noted (id entry) then noted
      else (index.neighbours (id entry)).foldl index.explore (noted ++ [entry]) := by
  rw [explore]
  split
  · next known => rw [depthFirst_of_noted _ _ known, depthFirst_nil]
  · next fresh => rw [depthFirst_of_fresh _ _ fresh, depthFirst_nil, depthFirst_eq_foldl]

end Network

namespace Walk

section Run

variable {index : Network id}

theorem IsMarked.visit {visited : Array α} {seen : Std.HashSet ArtifactId} {entry : α}
    {rest : List α} (marked : IsMarked id ⟨visited, seen, entry :: rest⟩) :
    IsMarked id (visit index visited seen entry rest) := by
  cases known : seen.contains (id entry) with
  | true =>
      rw [visit_of_seen known]
      exact marked
  | false =>
      rw [visit_of_unseen known]
      exact marked.push _

theorem IsMarked.run {walk : Walk α} (marked : IsMarked id walk) : IsMarked id (run index walk) :=
  run_keeps (IsMarked id) (fun _ _ _ _ => IsMarked.visit) marked

theorem seen_visit {visited : Array α} {seen : Std.HashSet ArtifactId} {key : ArtifactId}
    (known : seen.contains key = true) (entry : α) (rest : List α) :
    (visit index visited seen entry rest).seen.contains key = true := by
  cases here : seen.contains (id entry) with
  | true =>
      rw [visit_of_seen here]
      exact known
  | false => rw [visit_of_unseen here, Std.HashSet.contains_insert, known, Bool.or_true]

theorem seen_run {walk : Walk α} {key : ArtifactId} (known : walk.seen.contains key = true) :
    (run index walk).seen.contains key = true :=
  run_keeps (fun walk => walk.seen.contains key = true)
    (fun _ _ entry rest old => seen_visit old entry rest) known

end Run

variable (index : Network id)

/-- An entry on the stack that is marked already may as well not be there. -/
theorem run_filter (marks : Std.HashSet ArtifactId) (entries : List α) (visited : Array α)
    (seen : Std.HashSet ArtifactId)
    (marked : ∀ key, marks.contains key = true → seen.contains key = true) :
    run index ⟨visited, seen, entries.filter fun entry => !marks.contains (id entry)⟩ =
      run index ⟨visited, seen, entries⟩ := by
  induction entries generalizing visited seen with
  | nil => rfl
  | cons entry later ih =>
      cases known : marks.contains (id entry) with
      | true =>
          rw [List.filter_cons_of_neg (by simp [known]), ih visited seen marked, run_cons,
            visit_of_seen (marked _ known)]
      | false =>
          -- the rest of the stack is walked later, when there are more marks but none fewer
          have first := run_append index ⟨visited, seen, [entry]⟩
          have rest := ih (run index ⟨visited, seen, [entry]⟩).visited
            (run index ⟨visited, seen, [entry]⟩).seen fun key old => seen_run (marked key old)
          rw [List.filter_cons_of_pos (by simp [known])]
          exact (first _).trans (rest.trans (first later).symm)

theorem visited_run_eq_depthFirst (noted entries : List α) (visited : Array α)
    (seen : Std.HashSet ArtifactId) (same : visited.toList = noted)
    (marked : IsMarked id ⟨visited, seen, entries⟩) :
    (run index ⟨visited, seen, entries⟩).visited.toList = (index.depthFirst noted entries).1 := by
  fun_induction Network.depthFirst index noted entries generalizing visited seen with
  | case1 noted =>
      rw [run_nil]
      exact same
  | case2 noted entry later known ih =>
      have here : seen.contains (id entry) = true := by
        rw [marked (id entry), ids, same]
        exact known
      rw [run_cons, visit_of_seen here]
      exact ih visited seen same marked
  | case3 noted entry later fresh below whole ihBelow ihLater =>
      have unseen : seen.contains (id entry) = false := by
        rw [← Bool.not_eq_true, marked (id entry), ids, same]
        exact fresh
      let inner : Walk α := run index
        ⟨visited.push entry, seen.insert (id entry), index.neighbours (id entry)⟩
      have started : IsMarked id
          ⟨visited.push entry, seen.insert (id entry), index.neighbours (id entry)⟩ :=
        marked.push _
      have found : inner.visited.toList = below.1 :=
        ihBelow _ _ (by rw [Array.toList_push, same]) started
      -- the neighbours are all walked before the rest of the stack, with or without the marked ones
      have walked : run index ⟨visited, seen, entry :: later⟩ =
          run index ⟨inner.visited, inner.seen, later⟩ := by
        let marks := seen.insert (id entry)
        have above := run_append index
          ⟨visited.push entry, marks, (index.neighbours (id entry)).filter fun neighbour =>
            !marks.contains (id neighbour)⟩ later
        rw [run_filter index marks _ _ marks fun _ old => old] at above
        rw [run_cons, visit_of_unseen unseen]
        exact above
      rw [walked]
      exact ihLater inner.visited inner.seen found started.run

end Walk

/-- A walk with a stack finds what a search by recursion finds, in the same order: the seeds are
explored one after the other, and so are the neighbours of every entry that is noted. -/
theorem Network.reachableFrom_eq_depthFirst (index : Network id) (seeds : List α) :
    index.reachableFrom seeds = seeds.foldl index.explore [] ∧
      ∀ noted entry, index.explore noted entry =
        if id entry ∈ noted.map id then noted
        else (index.neighbours (id entry)).foldl index.explore (noted ++ [entry]) := by
  refine ⟨?_, index.explore_eq⟩
  rw [← depthFirst_eq_foldl]
  refine Walk.visited_run_eq_depthFirst index [] seeds #[] ∅ rfl fun key => ?_
  simp [Walk.ids]

end AccessCanvas

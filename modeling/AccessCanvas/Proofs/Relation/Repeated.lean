import AccessCanvas.Proofs.Relation.Explorer
import AccessCanvas.Proofs.Shadowing

/-!
Ids that several artifacts have. Main statement: a lookup has every id at the place of the first
artifact with it and stands for the last one, while the canvas finds the first.
-/

namespace AccessCanvas

variable {id : α → ArtifactId}

theorem Lookup.pairwise_ids_ofList (entries : List α) :
    (ofList entries : Lookup id).ids.toList.Pairwise fun one other =>
      (entries.map id).idxOf one < (entries.map id).idxOf other := by
  induction entries using List.reverseRecOn with
  | nil => exact .nil
  | append_singleton entries entry ih =>
      -- what comes at the end is the first occurrence of no id known before
      have same : ∀ key ∈ (ofList entries : Lookup id).ids.toList,
          ((entries ++ [entry]).map id).idxOf key = (entries.map id).idxOf key := by
        intro key known
        rw [List.map_append, List.idxOf_append_of_mem (mem_ids_ofList.mp known)]
      have kept : (ofList entries : Lookup id).ids.toList.Pairwise fun one other =>
          ((entries ++ [entry]).map id).idxOf one < ((entries ++ [entry]).map id).idxOf other := by
        refine ih.imp_of_mem fun {one other} first second before => ?_
        rw [same one first, same other second]
        exact before
      rw [ofList_concat, toList_ids_insert]
      split
      · exact kept
      · next unknown =>
        have fresh : id entry ∉ entries.map id := mt contains_ofList.mpr unknown
        rw [List.pairwise_append]
        refine ⟨kept, List.pairwise_singleton _ _, fun key known last added => ?_⟩
        obtain rfl := List.mem_singleton.mp added
        have earlier := List.idxOf_lt_length_iff.mpr (mem_ids_ofList.mp known)
        rw [same key known, List.map_append, List.idxOf_append_of_notMem fresh]
        omega

namespace Canvas

theorem isSome_node?_iff {canvas : Canvas} {key : ArtifactId} :
    (canvas.node? key).isSome = true ↔ key ∈ canvas.nodes.map Node.id := by
  rw [node?, List.find?_isSome]
  simp

/-- What a lookup knows of the artifacts of a canvas, some of which may have an id in common. It has
each id once, in the order in which they first occur, and gives the last artifact with it; the canvas
gives the first one. So both know the same ids, and agree on one if the first artifact with it is
equal to the last. -/
theorem lookup_first_last (canvas : Canvas) :
    let lookup : Lookup Node.id := .ofList canvas.nodes
    let ids := canvas.nodes.map Node.id
    let bearers := fun key => canvas.nodes.filter (·.id == key)
    ((lookup.toList.map Node.id).Nodup ∧
      (lookup.toList.map Node.id).Pairwise (fun one other => ids.idxOf one < ids.idxOf other) ∧
      ∀ node, node ∈ lookup.toList ↔ lookup.get? node.id = some node) ∧
    (∀ key, lookup.get? key = (bearers key).getLast?) ∧
    (∀ entry : Placed, (Lookup.ofList canvas.nodes.zipIdx : Lookup Placed.id).get? entry.id =
      some entry ↔ IsLast Node.id canvas.nodes entry.2 entry.1) ∧
    (∀ key, (lookup.contains key = true ↔ (canvas.node? key).isSome = true) ∧
      (key ∈ lookup.toList.map Node.id ↔ (canvas.node? key).isSome = true)) ∧
    ∀ key, canvas.node? key = (bearers key).head? ∧
      (lookup.get? key = canvas.node? key ↔ (bearers key).head? = (bearers key).getLast?) := by
  intro lookup ids bearers
  have last : ∀ key, lookup.get? key = (bearers key).getLast? := by
    intro key
    rw [Lookup.get?_ofList, List.getLast?_filter]
  have first : ∀ key, canvas.node? key = (bearers key).head? := by
    intro key
    rw [node?, List.head?_filter]
  refine ⟨⟨?_, ?_, fun node => Lookup.mem_toList⟩, last, fun entry => ?_, fun key => ⟨?_, ?_⟩,
    fun key => ⟨first key, ?_⟩⟩
  · rw [Lookup.map_toList]
    exact lookup.nodup
  · rw [Lookup.map_toList]
    exact Lookup.pairwise_ids_ofList canvas.nodes
  · rw [Lookup.get?_ofList_eq_some_iff, and_iff_right rfl]
    simp only [isLast_placed_iff, exists_eq_left]
  · rw [isSome_node?_iff, Lookup.contains_ofList]
  · rw [isSome_node?_iff, Lookup.map_toList, Lookup.mem_ids_ofList]
  · rw [last key, first key]
    exact eq_comm

open Sample in
example : (Lookup.ofList takenOver.nodes : Lookup Node.id).get? "a" = some (namedNode "a") ∧
    takenOver.node? "a" = some ((namedNode "old").withId "a") := by
  rw [Lookup.get?_ofList]
  decide

end Canvas

end AccessCanvas

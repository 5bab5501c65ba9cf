import AccessCanvas.Loading
import AccessCanvas.Policy
import AccessCanvas.Proofs.Relation.Disjoint

/-!
Edges with an end that no artifact of the canvas has as its id. Main statement: these are the edges
that have no part in the index, so that a search, and what is shown, is the same without them; they
are what is said about a canvas from a file.
-/

namespace AccessCanvas

namespace Interleaved

theorem of_filter (keep : α → Bool) (items : List α) :
    Interleaved (items.filter keep) (items.filter (!keep ·)) items := by
  induction items with
  | nil => exact .nil
  | cons item later ih =>
      cases kept : keep item with
      | true =>
          rw [List.filter_cons_of_pos kept, List.filter_cons_of_neg (by simp [kept])]
          exact .left ih
      | false =>
          rw [List.filter_cons_of_neg (by simp [kept]), List.filter_cons_of_pos (by simp [kept])]
          exact .right ih

end Interleaved

section Network

variable {id : α → ArtifactId} {lookup : Lookup id} {orientation : Orientation}

theorem Edge.hops_eq_nil_iff {edge : Edge} :
    edge.hops lookup orientation = [] ↔ edge.isAttached lookup = false := by
  rw [isAttached, hops, Bool.and_eq_false_iff, ← Lookup.get?_eq_none_iff, ← Lookup.get?_eq_none_iff]
  rcases lookup.get? edge.source with _ | source
  · simp
  rcases lookup.get? edge.target with _ | target
  · simp
  cases orientation <;> simp

namespace Network

theorem neighbours_eraseIdx_iff {edges : List Edge} {position : Nat}
    (bound : position < edges.length) {key : ArtifactId} :
    (build lookup (edges.eraseIdx position) orientation).neighbours key =
        (build lookup edges orientation).neighbours key ↔
      (edges[position].hops lookup orientation).filter (·.origin == key) = [] := by
  have whole : edges = edges.take position ++ edges[position] :: edges.drop (position + 1) := by
    rw [List.getElem_cons_drop, List.take_append_drop]
  conv_lhs => rw [neighbours_build, neighbours_build]; rhs; rw [whole]
  rw [List.eraseIdx_eq_take_drop_succ, List.flatMap_append, List.flatMap_append, List.flatMap_cons,
    List.append_cancel_left_eq, List.self_eq_append_left, List.map_eq_nil_iff]

theorem neighbours_filter {edges : List Edge} {keep : Edge → Bool}
    (silent : ∀ edge ∈ edges, keep edge = false → edge.isAttached lookup = false) (key : ArtifactId) :
    (build lookup (edges.filter keep) orientation).neighbours key =
      (build lookup edges orientation).neighbours key := by
  rw [neighbours_build, neighbours_build,
    (Interleaved.of_filter keep edges).flatMap_eq fun edge member => ?_]
  rw [List.mem_filter, Bool.not_eq_true'] at member
  rw [Edge.hops_eq_nil_iff.mpr (silent edge member.1 member.2), List.filter_nil, List.map_nil]

section Congr

variable {first second : Network id}
  (same : ∀ key, first.neighbours key = second.neighbours key)
include same

theorem reachableFrom_congr (seeds : List α) :
    first.reachableFrom seeds = second.reachableFrom seeds := by
  have within : second.IsPart first fun _ => True :=
    ⟨fun key _ => same key, fun _ _ _ _ => trivial⟩
  have visited := Walk.visited_run_eq within ⟨#[], ∅, seeds⟩ #[] ∅ (fun _ _ => rfl)
    fun _ _ => trivial
  rw [Array.empty_append, Array.empty_append] at visited
  rw [reachableFrom, reachableFrom, ← visited]

theorem answer_congr (lookups : first.lookup = second.lookup) (accepts : α → Bool) :
    first.answer accepts = second.answer accepts := by
  rw [answer_eq, answer_eq, lookups, reachableFrom_congr same]

end Congr

end Network

end Network

namespace Canvas

def withoutDangling (canvas : Canvas) : Canvas :=
  { canvas with edges := canvas.edges.filter (· ∉ canvas.dangling) }

variable (canvas : Canvas)

theorem mem_dangling_iff_of_ids {canvas : Canvas} {id : α → ArtifactId} {entries : List α}
    (ids : entries.map id = canvas.nodes.map Node.id) {edge : Edge} :
    edge ∈ canvas.dangling ↔
      edge ∈ canvas.edges ∧ edge.isAttached (.ofList entries : Lookup id) = false := by
  rw [mem_dangling, ← ids, ← Edge.isAttached_ofList_iff, Bool.not_eq_true]

theorem filter_mem_dangling : canvas.edges.filter (· ∈ canvas.dangling) = canvas.dangling := by
  rw [dangling]
  refine List.filter_congr fun edge member => ?_
  rw [Bool.eq_iff_iff, decide_eq_true_eq, List.mem_filter, and_iff_right member]

theorem dangling_eq_filter : canvas.dangling =
    canvas.edges.filter (!·.isAttached (.ofList canvas.nodes : Lookup Node.id)) := by
  rw [← filter_mem_dangling]
  refine List.filter_congr fun edge member => ?_
  rw [Bool.eq_iff_iff, decide_eq_true_eq, mem_dangling_iff_of_ids rfl, and_iff_right member,
    Bool.not_eq_true']

theorem neighbours_withoutDangling {id : α → ArtifactId} {entries : List α}
    (explorer : Explorer) (ids : entries.map id = canvas.nodes.map Node.id) (key : ArtifactId) :
    (explorer.network entries canvas.withoutDangling.edges : Network id).neighbours key =
      (explorer.network entries canvas.edges : Network id).neighbours key := by
  refine Network.neighbours_filter (fun edge member dropped => ?_) key
  rw [decide_eq_false_iff_not, not_not, mem_dangling_iff_of_ids ids] at dropped
  exact dropped.2

end Canvas

namespace Explorer

/-- Some id has other neighbours when the edge at the position is left out. -/
def Contributes (explorer : Explorer) (canvas : Canvas) (position : Fin canvas.edges.length) :
    Prop :=
  ∃ key, (explorer.index { canvas with edges := canvas.edges.eraseIdx position }).neighbours key ≠
    (explorer.index canvas).neighbours key

theorem contributes_iff {explorer : Explorer} {canvas : Canvas}
    {position : Fin canvas.edges.length} :
    explorer.Contributes canvas position ↔ canvas.edges[position] ∉ canvas.dangling := by
  let lookup : Lookup Node.id := .ofList canvas.nodes
  let hops := canvas.edges[position].hops lookup explorer.orientation
  have gives_iff : explorer.Contributes canvas position ↔
      ∃ key, hops.filter (·.origin == key) ≠ [] :=
    exists_congr fun _ => not_congr (Network.neighbours_eraseIdx_iff position.isLt)
  have attached_iff : hops ≠ [] ↔ canvas.edges[position].isAttached lookup = true := by
    rw [Ne, Edge.hops_eq_nil_iff, Bool.not_eq_false]
  have member : canvas.edges[position] ∈ canvas.edges := List.getElem_mem position.isLt
  rw [gives_iff, Canvas.mem_dangling_iff_of_ids rfl, and_iff_right member, Bool.not_eq_false,
    ← attached_iff]
  constructor
  · rintro ⟨key, some⟩ none
    exact some (by rw [none, List.filter_nil])
  · intro some
    obtain ⟨hop, member⟩ := List.exists_mem_of_ne_nil hops some
    exact ⟨hop.origin, List.ne_nil_of_mem (List.mem_filter.mpr ⟨member, beq_self_eq_true _⟩)⟩

theorem places_withoutDangling (explorer : Explorer) (canvas : Canvas) (raw : String) :
    explorer.places canvas.withoutDangling raw = explorer.places canvas raw :=
  Network.answer_congr (canvas.neighbours_withoutDangling explorer (ids_placed canvas.nodes)) rfl _

/-- The edges said to be dangling are those that have no part in the index. It counts them, nothing
that is found or shown changes without them, and a canvas from a file is the one that is written
there, with one warning for each of them. -/
theorem dangling_spec (explorer : Explorer) (canvas : Canvas) :
    (∀ position : Fin canvas.edges.length,
      explorer.Contributes canvas position ↔ canvas.edges[position] ∉ canvas.dangling) ∧
    (explorer.index canvas).droppedEdges = canvas.dangling.length ∧
    (explorer.index canvas).edgeCount + canvas.dangling.length = canvas.edges.length ∧
    (∀ key, (explorer.index canvas.withoutDangling).neighbours key =
      (explorer.index canvas).neighbours key) ∧
    (∀ query : Query, query.answer (explorer.index canvas.withoutDangling) =
      query.answer (explorer.index canvas)) ∧
    (∀ (policy : Policy) raw, policy.shown canvas.withoutDangling raw = policy.shown canvas raw) ∧
    ∀ read path warned, Canvas.load read path = .ok ⟨canvas, warned⟩ ↔
      (∃ text, read path = .ok text ∧ Canvas.ofDocument text = .ok canvas) ∧
      warned = (canvas.edges.filter (· ∈ canvas.dangling)).map fun edge =>
        "edge " ++ edge.id ++ " references a node missing from " ++ path := by
  have dropped : (explorer.index canvas).droppedEdges = canvas.dangling.length := by
    rw [Canvas.dangling_eq_filter, ← List.countP_eq_length_filter]
    rfl
  have counted : (explorer.index canvas).edgeCount + (explorer.index canvas).droppedEdges =
      canvas.edges.length := by
    rw [List.length_eq_countP_add_countP (·.isAttached (explorer.index canvas).lookup)]
    simp only [Bool.not_eq_true, Bool.decide_eq_false]
    rfl
  have neighbours : ∀ key, (explorer.index canvas.withoutDangling).neighbours key =
      (explorer.index canvas).neighbours key :=
    canvas.neighbours_withoutDangling explorer rfl
  refine ⟨fun _ => contributes_iff, dropped, dropped ▸ counted, neighbours, fun query => ?_,
    fun policy raw => ?_, fun read path warned => ?_⟩
  · rw [Query.answer, Query.answer, Network.answer_congr neighbours rfl]
    rfl
  · rw [Policy.shown, Policy.shown, places_withoutDangling]
    rfl
  · rw [Canvas.load_eq_ok_iff, Canvas.filter_mem_dangling, Canvas.warnings]

end Explorer

end AccessCanvas

import Mathlib.Data.List.Nodup
import AccessCanvas.Policy
import AccessCanvas.Proofs.Relation.Explorer

/-!
What is shown for a text. Main statement: a text that is too short shows the canvas; a longer one
shows, in the order of the canvas, the artifacts that a search answers, and only those that no
later one shadows.
-/

namespace AccessCanvas.Policy

variable {policy : Policy} {canvas : Canvas} {raw : String}

theorem shown_of_short (short : policy.answers raw = false) :
    policy.shown canvas raw = canvas.nodes.zipIdx :=
  if_neg (by simp [short])

theorem shown_of_long (long : policy.answers raw = true) :
    policy.shown canvas raw = canvas.nodes.zipIdx.filter
      ((Std.HashSet.ofList ((policy.explorer.places canvas raw).map (·.2))).contains ·.2) :=
  if_pos long

theorem filter_of_short (short : policy.answers raw = false) :
    policy.filter canvas raw = canvas.nodes := by
  rw [filter, shown_of_short short]
  exact List.zipIdx_map_fst 0 canvas.nodes

theorem shown_sublist : (policy.shown canvas raw).Sublist canvas.nodes.zipIdx := by
  cases long : policy.answers raw with
  | true =>
      rw [shown_of_long long]
      exact List.filter_sublist
  | false =>
      rw [shown_of_short long]

theorem filter_eq_filterMap : policy.filter canvas raw =
    ((policy.shown canvas raw).map (·.2)).filterMap (canvas.nodes[·]?) := by
  have placed : ∀ entry ∈ policy.shown canvas raw, canvas.nodes[entry.2]? = some entry.1 :=
    fun entry member => List.mem_zipIdx_iff_getElem?.mp (shown_sublist.subset member)
  rw [filter, List.filterMap_map, ← List.filterMap_eq_map]
  exact List.filterMap_congr fun entry member => (placed entry member).symm

theorem pairwise_positions : ((policy.shown canvas raw).map (·.2)).Pairwise (· < ·) := by
  have whole : (canvas.nodes.zipIdx.map (·.2)).Pairwise (· < ·) := by
    rw [List.zipIdx_map_snd]
    exact List.pairwise_lt_range'
  exact whole.sublist (shown_sublist.map (·.2))

/-- The artifacts shown are the ones answered, not others that are equal to them. -/
theorem mem_shown_iff (long : policy.answers raw = true) {entry : Placed} :
    entry ∈ policy.shown canvas raw ↔ entry ∈ policy.explorer.places canvas raw := by
  rw [shown_of_long long, List.mem_filter, Std.HashSet.contains_ofList, List.contains_iff_mem,
    List.mem_map]
  constructor
  · rintro ⟨member, answered, found, same⟩
    have last := (Explorer.mem_places_iff.mp found).1.1
    rw [same, List.mem_zipIdx_iff_getElem?.mp member, Option.some.injEq] at last
    rwa [show entry = answered from Prod.ext last same.symm]
  · intro found
    have last := (Explorer.mem_places_iff.mp found).1.1
    exact ⟨List.mem_zipIdx_iff_getElem?.mpr last, entry, found, rfl⟩

theorem mem_positions_iff (long : policy.answers raw = true) {position : Nat} :
    position ∈ (policy.shown canvas raw).map (·.2) ↔
      ∃ node, IsLast Node.id canvas.nodes position node ∧
        (policy.explorer.parse raw).Reaches canvas policy.explorer.orientation node.id := by
  rw [List.mem_map]
  constructor
  · rintro ⟨⟨node, place⟩, shown, rfl⟩
    exact ⟨node, Explorer.mem_places_iff.mp ((mem_shown_iff long).mp shown)⟩
  · rintro ⟨node, found⟩
    exact ⟨(node, position), (mem_shown_iff long).mpr (Explorer.mem_places_iff.mpr found), rfl⟩

theorem ids_filter :
    (policy.filter canvas raw).map Node.id = (policy.shown canvas raw).map Placed.id := by
  rw [filter, List.map_map]
  rfl

theorem nodup_ids_filter (long : policy.answers raw = true) :
    ((policy.filter canvas raw).map Node.id).Nodup := by
  have positions : ((policy.shown canvas raw).map (·.2)).Nodup :=
    pairwise_positions.imp Nat.ne_of_lt
  rw [ids_filter]
  refine positions.of_map.map_on fun left first right second same => ?_
  have one := (Explorer.mem_places_iff.mp ((mem_shown_iff long).mp first)).1
  have other := (Explorer.mem_places_iff.mp ((mem_shown_iff long).mp second)).1
  obtain ⟨position, node⟩ := one.unique other same
  exact Prod.ext node position

theorem mem_ids_filter_iff (long : policy.answers raw = true) {id : ArtifactId} :
    id ∈ (policy.filter canvas raw).map Node.id ↔ id ∈ policy.explorer.search canvas raw := by
  rw [ids_filter, Explorer.mem_search_iff, ← Explorer.mem_ids_places_iff, List.mem_map,
    List.mem_map]
  simp only [mem_shown_iff long]

theorem answers_ofSettings_eq_false_iff {settings : SearchSettings} :
    (ofSettings settings).answers raw = false ↔
      (Text.trim raw.toList).length < settings.minQueryLength := by
  rw [answers, ofSettings, decide_eq_false_iff_not, Nat.not_le]

/-- A text that is too short shows the canvas. A longer one shows, in the order of the canvas, the
artifacts that no later one shadows and that a path of edges leads to from such an artifact which
satisfies the query; their ids are those a search answers. -/
theorem shown_spec (settings : SearchSettings) (canvas : Canvas) (raw : String) :
    let policy := ofSettings settings
    let positions := (policy.shown canvas raw).map (·.2)
    let ids := (policy.filter canvas raw).map Node.id
    if (Text.trim raw.toList).length < settings.minQueryLength then
      policy.filter canvas raw = canvas.nodes
    else
      policy.filter canvas raw = positions.filterMap (canvas.nodes[·]?) ∧
        positions.Pairwise (· < ·) ∧
        (∀ position, position ∈ positions ↔ ∃ node, IsLast Node.id canvas.nodes position node ∧
          (Query.parse raw).Reaches canvas settings.orientation node.id) ∧
        ids.Nodup ∧
        ids.Perm (Explorer.search { orientation := settings.orientation } canvas raw) := by
  intro policy positions ids
  split
  · next short => exact filter_of_short (answers_ofSettings_eq_false_iff.mpr short)
  · next enough =>
    have long : policy.answers raw = true := by
      rw [← Bool.not_eq_false, answers_ofSettings_eq_false_iff]
      exact enough
    refine ⟨filter_eq_filterMap, pairwise_positions, ?_, nodup_ids_filter long, ?_⟩
    · intro position
      rw [mem_positions_iff long]
      rfl
    · rw [List.perm_ext_iff_of_nodup (nodup_ids_filter long) Explorer.nodup_search]
      intro id
      exact mem_ids_filter_iff long

end AccessCanvas.Policy

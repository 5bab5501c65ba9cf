import AccessCanvas.Proofs.Policy
import AccessCanvas.Proofs.Query.Conjunction

/-!
Showing less of a canvas. Main statements: another clause only takes artifacts away, and it does
not matter which clause comes first; what is shown stays when only that is searched again.
-/

namespace AccessCanvas

open Text

section Join

variable (left right : String)

theorem Query.accepts_parse_join_comm :
    (Query.parse (left ++ ";" ++ right)).accepts = (Query.parse (right ++ ";" ++ left)).accepts := by
  funext node
  rw [accepts_parse_join, accepts_parse_join, Bool.and_comm]

theorem Query.accepts_parse_join_iff (node : Node) :
    (Query.parse (left ++ ";" ++ right)).accepts node = true ↔
      (Query.parse left).accepts node = true ∧ (Query.parse right).accepts node = true := by
  rw [accepts_parse_join, Bool.and_eq_true]

theorem Explorer.seeds_join {explorer : Explorer} (reads : explorer.parse = Query.parse)
    (canvas : Canvas) :
    (explorer.answer canvas (left ++ ";" ++ right)).seeds =
      (((explorer.index canvas).lookup.toList.filter fun node =>
        (Query.parse left).accepts node && (Query.parse right).accepts node).map Node.id) := by
  rw [answer, Query.answer, Query.seeds, reads, funext (Query.accepts_parse_join left right)]

theorem Explorer.search_join_comm {explorer : Explorer} (reads : explorer.parse = Query.parse)
    (canvas : Canvas) :
    explorer.search canvas (left ++ ";" ++ right) =
      explorer.search canvas (right ++ ";" ++ left) := by
  rw [search_eq, search_eq, reads, Query.accepts_parse_join_comm]

theorem isInfix_join_left : left.toList <:+: (left ++ ";" ++ right).toList := by
  rw [Query.toList_join]
  exact (List.prefix_append _ _).isInfix

theorem isInfix_join_right : right.toList <:+: (left ++ ";" ++ right).toList := by
  rw [Query.toList_join]
  exact (List.suffix_append_of_suffix (List.suffix_cons _ _)).isInfix

end Join

namespace Policy

variable {policy : Policy} {canvas : Canvas}

theorem answers_of_isInfix {part whole : String} (inside : part.toList <:+: whole.toList)
    (long : policy.answers part = true) : policy.answers whole = true := by
  rw [answers, decide_eq_true_eq] at long ⊢
  exact long.trans (length_trim_le inside)

theorem filter_sublist_filter {narrow wide : String}
    (shown : (policy.shown canvas narrow).Sublist (policy.shown canvas wide)) :
    (policy.filter canvas narrow).Sublist (policy.filter canvas wide) := by
  rw [filter, filter]
  exact shown.map _

theorem shown_sublist_shown {narrow wide : String}
    (longer : policy.answers wide = true → policy.answers narrow = true)
    (implies : ∀ node, (policy.explorer.parse narrow).accepts node = true →
      (policy.explorer.parse wide).accepts node = true) :
    (policy.shown canvas narrow).Sublist (policy.shown canvas wide) := by
  cases long : policy.answers wide with
  | false =>
      rw [shown_of_short long]
      exact shown_sublist
  | true =>
      have kept : policy.explorer.places canvas narrow ⊆ policy.explorer.places canvas wide := by
        intro entry found
        rw [Explorer.mem_places_iff] at found ⊢
        exact ⟨found.1, found.2.mono implies⟩
      rw [shown_of_long long, shown_of_long (longer long)]
      refine List.monotone_filter_right _ fun entry shown => ?_
      rw [Std.HashSet.contains_ofList, List.contains_iff_mem] at shown ⊢
      exact List.map_subset _ kept shown

theorem shown_sublist_of_isInfix (reads : policy.explorer.parse = Query.parse) {part whole : String}
    (inside : part.toList <:+: whole.toList)
    (implies : ∀ node, (Query.parse whole).accepts node = true →
      (Query.parse part).accepts node = true) :
    (policy.shown canvas whole).Sublist (policy.shown canvas part) :=
  shown_sublist_shown (answers_of_isInfix inside) (by rwa [reads])

/-- Two texts joined by a separator show at most what each of them shows; they start from the
artifacts that satisfy both, and find the same in either order. -/
theorem shown_join (settings : SearchSettings) (canvas : Canvas) (left right : String) :
    let policy := ofSettings settings
    let explorer : Explorer := { orientation := settings.orientation }
    let joined := left ++ ";" ++ right
    ((policy.shown canvas joined).Sublist (policy.shown canvas left) ∧
        (policy.shown canvas joined).Sublist (policy.shown canvas right)) ∧
      ((policy.filter canvas joined).Sublist (policy.filter canvas left) ∧
        (policy.filter canvas joined).Sublist (policy.filter canvas right)) ∧
      (explorer.answer canvas joined).seeds = (((explorer.index canvas).lookup.toList.filter
        fun node => (Query.parse left).accepts node && (Query.parse right).accepts node).map
          Node.id) ∧
      explorer.search canvas joined = explorer.search canvas (right ++ ";" ++ left) := by
  have reads : (ofSettings settings).explorer.parse = Query.parse := by rw [ofSettings]
  intro policy explorer joined
  have first : (policy.shown canvas joined).Sublist (policy.shown canvas left) :=
    shown_sublist_of_isInfix reads (isInfix_join_left left right) fun node both =>
      ((Query.accepts_parse_join_iff left right node).mp both).1
  have second : (policy.shown canvas joined).Sublist (policy.shown canvas right) :=
    shown_sublist_of_isInfix reads (isInfix_join_right left right) fun node both =>
      ((Query.accepts_parse_join_iff left right node).mp both).2
  exact ⟨⟨first, second⟩, ⟨filter_sublist_filter first, filter_sublist_filter second⟩,
    explorer.seeds_join left right reads canvas, explorer.search_join_comm left right reads canvas⟩

theorem shown_shown {raw : String} (long : policy.answers raw = true) :
    let again : Canvas := { canvas with nodes := policy.filter canvas raw }
    policy.shown again raw = again.nodes.zipIdx := by
  intro again
  have last : ∀ position node, again.nodes[position]? = some node →
      IsLast Node.id again.nodes position node :=
    fun position node here => isLast_of_nodup (nodup_ids_filter long) here
  rw [shown_of_long long, List.filter_eq_self]
  intro entry member
  have here := List.mem_zipIdx_iff_getElem?.mp member
  rw [Std.HashSet.contains_ofList, List.contains_iff_mem]
  refine List.mem_map_of_mem (Explorer.mem_places_iff.mpr ⟨last _ _ here, ?_⟩)
  have reached : (policy.explorer.parse raw).Reaches canvas policy.explorer.orientation entry.1.id :=
    Explorer.mem_search_iff.mp ((mem_ids_filter_iff long).mp
      (List.mem_map_of_mem (List.mem_of_getElem? here)))
  -- an artifact of the path to this one is reached on the canvas, so it was shown as well
  refine reached.of_kept fun position node unshadowed reaches => ?_
  have shown : (node, position) ∈ policy.shown canvas raw :=
    (mem_shown_iff long).mpr (Explorer.mem_places_iff.mpr ⟨unshadowed, reaches⟩)
  obtain ⟨place, there⟩ := List.getElem?_of_mem (List.mem_map_of_mem (f := (·.1)) shown)
  exact ⟨place, last place node there⟩

/-- Filtering the artifacts shown, with all edges, shows the same. -/
theorem filter_filter (policy : Policy) (canvas : Canvas) (raw : String) :
    policy.filter { canvas with nodes := policy.filter canvas raw } raw =
      policy.filter canvas raw := by
  cases long : policy.answers raw with
  | false => exact filter_of_short long
  | true =>
      rw [filter, shown_shown long]
      exact List.zipIdx_map_fst 0 _

end Policy

end AccessCanvas

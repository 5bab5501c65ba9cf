import Mathlib.Data.List.Lattice
import AccessCanvas.Proofs.Narrowing
import AccessCanvas.Proofs.Query.Written
import AccessCanvas.Sample

/-!
Queries about the name and the tenant. Main statements: equal is narrower than starting with and
ending with, and these are narrower than having, for what satisfies a query as for what it answers;
every artifact is found by its own name and tenant.
-/

namespace AccessCanvas

open Query (IsPattern)
open Text (fold folded)

namespace Condition

def Implies (narrow wide : Condition) : Prop :=
  ∀ value pattern, narrow.holds value pattern = true → wide.holds value pattern = true

theorem equals_implies_startsWith : Implies .equals .startsWith := by
  intro value pattern same
  rw [holds, beq_iff_eq] at same
  rw [holds, List.isPrefixOf_iff_prefix, same]

theorem equals_implies_endsWith : Implies .equals .endsWith := by
  intro value pattern same
  rw [holds, beq_iff_eq] at same
  rw [holds, List.isSuffixOf_iff_suffix, same]

theorem startsWith_implies_has : Implies .startsWith .has := by
  intro value pattern starts
  rw [holds, List.isPrefixOf_iff_prefix] at starts
  rw [holds, Text.occursIn_iff]
  exact starts.isInfix

theorem endsWith_implies_has : Implies .endsWith .has := by
  intro value pattern ends
  rw [holds, List.isSuffixOf_iff_suffix] at ends
  rw [holds, Text.occursIn_iff]
  exact ends.isInfix

theorem holds_notEquals (value pattern : List Char) :
    holds .notEquals value pattern = !holds .equals value pattern := rfl

end Condition

namespace Statement

variable {key : Attribute} {text : String} {node : Node}

theorem accepts_make_known (condition : Condition) :
    (make (.known key) condition text).accepts node =
      (node.read key != "" &&
        condition.holds (fold (node.read key).toList) (fold text.toList)) := by
  simp [accepts, make, Text.folded]

theorem accepts_make_mono {narrow wide : Condition} (implies : narrow.Implies wide)
    (accepted : (make (.known key) narrow text).accepts node = true) :
    (make (.known key) wide text).accepts node = true := by
  rw [accepts_make_known, Bool.and_eq_true] at accepted ⊢
  exact ⟨accepted.1, implies _ _ accepted.2⟩

theorem accepts_make_equals_iff (filled : text.toList ≠ []) :
    (make (.known key) .equals text).accepts node = true ↔
      Text.folded (node.read key) = Text.folded text := by
  rw [accepts_make_known, Bool.and_eq_true, Condition.holds, beq_iff_eq, bne_iff_ne, Text.folded,
    Text.folded, String.ofList_inj]
  -- an empty attribute is not equal to the text, so the guard against it adds nothing
  refine and_iff_right_of_imp fun same empty => ?_
  rw [empty] at same
  exact Text.foldAfter_ne_nil filled same.symm

theorem accepts_make_equals (key : Attribute) (text : String) (node : Node) :
    (make (.known key) .equals text).accepts node =
      ((make (.known key) .equals text).accepts node && node.read key != "") := by
  rw [accepts_make_known]
  cases node.read key != "" <;> simp

/-- An empty attribute is not unequal to a text either. -/
theorem accepts_make_notEquals (key : Attribute) (text : String) (node : Node) :
    (make (.known key) .notEquals text).accepts node =
      (!(make (.known key) .equals text).accepts node && node.read key != "") := by
  rw [accepts_make_known, accepts_make_known, Condition.holds_notEquals]
  cases node.read key != "" <;> simp

end Statement

namespace Query

theorem accepts_singleton (statement : Statement) (node : Node) :
    accepts [statement] node = statement.accepts node := by
  simp [accepts]

theorem seeds_singleton (statement : Statement) (lookup : Lookup Node.id) :
    seeds [statement] lookup = lookup.toList.filter statement.accepts := by
  rw [seeds, funext (accepts_singleton statement)]

theorem seeds_sublist_seeds {narrow wide : Query} (lookup : Lookup Node.id)
    (implies : ∀ node, narrow.accepts node = true → wide.accepts node = true) :
    (narrow.seeds lookup).Sublist (wide.seeds lookup) :=
  List.monotone_filter_right lookup.toList implies

end Query

theorem Lookup.disjoint_ids_filter {id : α → ArtifactId} (lookup : Lookup id)
    {first second : α → Bool} (apart : ∀ entry, first entry = true → second entry = false) :
    ((lookup.toList.filter first).map id).Disjoint ((lookup.toList.filter second).map id) := by
  intro key here there
  obtain ⟨one, chosen, rfl⟩ := List.mem_map.mp here
  obtain ⟨other, elsewhere, same⟩ := List.mem_map.mp there
  rw [List.mem_filter, mem_toList] at chosen elsewhere
  -- a lookup knows one entry for the id, so it would be chosen both ways
  rw [same, chosen.1, Option.some.injEq] at elsewhere
  have refused := apart one chosen.2
  rw [elsewhere.1, elsewhere.2] at refused
  cases refused

namespace Query

variable (key : Attribute) (text : String) (lookup : Lookup Node.id)

theorem disjoint_seeds_equals :
    ((seeds [.make (.known key) .equals text] lookup).map Node.id).Disjoint
      ((seeds [.make (.known key) .notEquals text] lookup).map Node.id) := by
  rw [seeds_singleton, seeds_singleton]
  refine lookup.disjoint_ids_filter fun node accepted => ?_
  rw [Statement.accepts_make_notEquals, accepted]
  rfl

theorem seeds_equals_append_perm :
    (seeds [.make (.known key) .equals text] lookup ++
      seeds [.make (.known key) .notEquals text] lookup).Perm
        (lookup.toList.filter (·.read key != "")) := by
  have equals : lookup.toList.filter (Statement.make (.known key) .equals text).accepts =
      (lookup.toList.filter (·.read key != "")).filter
        (Statement.make (.known key) .equals text).accepts := by
    rw [List.filter_filter]
    exact List.filter_congr fun node _ => Statement.accepts_make_equals key text node
  have notEquals : lookup.toList.filter (Statement.make (.known key) .notEquals text).accepts =
      (lookup.toList.filter (·.read key != "")).filter
        (!(Statement.make (.known key) .equals text).accepts ·) := by
    rw [List.filter_filter]
    exact List.filter_congr fun node _ => Statement.accepts_make_notEquals key text node
  rw [seeds_singleton, seeds_singleton, notEquals, equals]
  exact List.filter_append_perm _ _

end Query

namespace Explorer

variable {explorer : Explorer} {canvas : Canvas}

theorem search_subset_search {narrow wide : String}
    (implies : ∀ node, (explorer.parse narrow).accepts node = true →
      (explorer.parse wide).accepts node = true) :
    explorer.search canvas narrow ⊆ explorer.search canvas wide := by
  intro id found
  rw [mem_search_iff] at found ⊢
  exact found.mono implies

theorem nested_of_implies (canvas : Canvas) {key : Attribute} {text raw other : String}
    {narrow wide : Condition} (implies : narrow.Implies wide)
    (first : explorer.parse raw = [.make (.known key) narrow text])
    (second : explorer.parse other = [.make (.known key) wide text]) :
    ((explorer.parse raw).seeds (explorer.index canvas).lookup).Sublist
        ((explorer.parse other).seeds (explorer.index canvas).lookup) ∧
      explorer.search canvas raw ⊆ explorer.search canvas other := by
  have accepts : ∀ node, (explorer.parse raw).accepts node = true →
      (explorer.parse other).accepts node = true := by
    intro node accepted
    rw [first, Query.accepts_singleton] at accepted
    rw [second, Query.accepts_singleton]
    exact Statement.accepts_make_mono implies accepted
  exact ⟨Query.seeds_sublist_seeds _ accepts, search_subset_search accepts⟩

/-- Of the queries that compare an attribute with a text, the one for equality starts from less than
those for either end, and these from less than the one for containment; so it is with the answers.
The queries for equality and for its opposite divide the artifacts whose attribute is filled. -/
theorem conditions_nested (orientation : Orientation) (canvas : Canvas) (key : Attribute)
    (text : String) (pattern : IsPattern text.toList) :
    let explorer : Explorer := { orientation }
    let lookup := (explorer.index canvas).lookup
    let asked (phrase : String) : String := (Selector.known key).text ++ phrase ++ text
    let seeds (phrase : String) : List Node := (explorer.parse (asked phrase)).seeds lookup
    let answers (phrase : String) : List ArtifactId := explorer.search canvas (asked phrase)
    let ids (phrase : String) : List ArtifactId := (explorer.answer canvas (asked phrase)).seeds
    ((seeds "= ").Sublist (seeds " startswith ") ∧ (seeds "= ").Sublist (seeds " endswith ") ∧
      (seeds " startswith ").Sublist (seeds " has ") ∧
      (seeds " endswith ").Sublist (seeds " has ")) ∧
    (answers "= " ⊆ answers " startswith " ∧ answers "= " ⊆ answers " endswith " ∧
      answers " startswith " ⊆ answers " has " ∧ answers " endswith " ⊆ answers " has ") ∧
    (ids "= ").Disjoint (ids "!= ") ∧
    (seeds "= " ++ seeds "!= ").Perm (lookup.toList.filter (·.read key != "")) := by
  intro explorer lookup asked seeds answers ids
  have read : ∀ (condition : Condition) (phrase : String),
      (∀ written, condition ≠ .unsupported written) →
      Statement.gap (.known key) condition ++ condition.text ++ " " = phrase →
      explorer.parse (asked phrase) = [.make (.known key) condition text] := by
    intro condition phrase supported spelled
    have reads : explorer.parse = Query.parse := rfl
    rw [reads]
    exact Query.parse_asked key supported spelled pattern
  have equals := read .equals "= " (fun _ => Condition.noConfusion) (by cases key <;> decide)
  have notEquals := read .notEquals "!= " (fun _ => Condition.noConfusion) (by cases key <;> decide)
  have startsWith := read .startsWith " startswith " (fun _ => Condition.noConfusion) rfl
  have endsWith := read .endsWith " endswith " (fun _ => Condition.noConfusion) rfl
  have has := read .has " has " (fun _ => Condition.noConfusion) rfl
  have starting := nested_of_implies canvas Condition.equals_implies_startsWith equals startsWith
  have ending := nested_of_implies canvas Condition.equals_implies_endsWith equals endsWith
  have started := nested_of_implies canvas Condition.startsWith_implies_has startsWith has
  have ended := nested_of_implies canvas Condition.endsWith_implies_has endsWith has
  have apart := Query.disjoint_seeds_equals key text lookup
  have filled := Query.seeds_equals_append_perm key text lookup
  rw [← equals, ← notEquals] at apart filled
  exact ⟨⟨starting.1, ending.1, started.1, ended.1⟩, ⟨starting.2, ending.2, started.2, ended.2⟩,
    apart, filled⟩

end Explorer

namespace Sample

def queryLike : Canvas where
  nodes := ["=A has B", "plain", "x =a has b"].map namedNode
  edges := [⟨"plain", "=A has B", .standard⟩]

theorem isPattern_queryLike : IsPattern "=A has B".toList :=
  ⟨by decide, Text.squeeze_eq_self_iff.mp (by decide +kernel), by decide⟩

end Sample

open Sample in
theorem Explorer.conditions_nested_queryLike :
    IsPattern "=A has B".toList ∧
      search {} queryLike "name= =A has B" ⊆ search {} queryLike "name endswith =A has B" ∧
      search {} queryLike "name endswith =A has B" ⊆ search {} queryLike "name has =A has B" ∧
      (answer {} queryLike "name= =A has B").seeds.Disjoint
        (answer {} queryLike "name!= =A has B").seeds := by
  obtain ⟨-, ⟨-, ending, -, ended⟩, apart, -⟩ :=
    conditions_nested .undirected queryLike .name "=A has B" isPattern_queryLike
  exact ⟨isPattern_queryLike, ending, ended, apart⟩

section Own

variable {node : Node}

theorem Query.parse_own (name : IsPattern node.name.toList)
    (tenant : IsPattern node.tenant.toList) :
    parse ("name= " ++ node.name ++ "; tenant= " ++ node.tenant) =
      [.make (.known .name) .equals node.name, .make (.known .tenant) .equals node.tenant] := by
  have first : parse ("name" ++ "= " ++ node.name) = [.make (.known .name) .equals node.name] :=
    parse_asked .name (fun _ => Condition.noConfusion) (by decide) name
  have second : parse ("tenant" ++ "= " ++ node.tenant) =
      [.make (.known .tenant) .equals node.tenant] :=
    parse_asked .tenant (fun _ => Condition.noConfusion) (by decide) tenant
  have whole : "name= " ++ node.name ++ "; tenant= " ++ node.tenant =
      "name" ++ "= " ++ node.name ++ ";" ++ (" " ++ ("tenant" ++ "= " ++ node.tenant)) := by
    apply String.toList_injective
    simp
  rw [whole, parse, toList_join, clauses_normalize_append, List.map_append, ← parse, ← parse,
    parse_space_append, first, second, List.singleton_append]

theorem Query.accepts_own_iff (name : IsPattern node.name.toList)
    (tenant : IsPattern node.tenant.toList) (other : Node) :
    (parse ("name= " ++ node.name ++ "; tenant= " ++ node.tenant)).accepts other = true ↔
      folded other.name = folded node.name ∧ folded other.tenant = folded node.tenant := by
  rw [parse_own name tenant, accepts, List.all_cons, List.all_cons, List.all_nil, Bool.and_true,
    Bool.and_eq_true, Statement.accepts_make_equals_iff name.filled,
    Statement.accepts_make_equals_iff tenant.filled]
  rfl

end Own

theorem Query.Reaches.of_isLast {query : Query} {canvas : Canvas} {orientation : Orientation}
    {position : Nat} {node : Node} (last : IsLast Node.id canvas.nodes position node)
    (accepted : query.accepts node = true) : query.Reaches canvas orientation node.id :=
  ⟨position, node, last, Query.accepts_iff.mp accepted, .refl⟩

theorem Policy.mem_shown_of_accepts {policy : Policy} {canvas : Canvas} {raw : String}
    {position : Nat} {node : Node} (last : IsLast Node.id canvas.nodes position node)
    (accepted : (policy.explorer.parse raw).accepts node = true) :
    (node, position) ∈ policy.shown canvas raw := by
  cases long : policy.answers raw with
  | false =>
      rw [shown_of_short long]
      exact List.mem_zipIdx_iff_getElem?.mpr last.1
  | true =>
      rw [mem_shown_iff long, Explorer.mem_places_iff]
      exact ⟨last, .of_isLast last accepted⟩

/-- An artifact that is not shadowed is shown for its own name and tenant, even when these hold
operators; the search starts from the artifacts with this name and this tenant in any case. -/
theorem Policy.shown_own (settings : SearchSettings) (canvas : Canvas) (position : Nat) (node : Node)
    (last : IsLast Node.id canvas.nodes position node) (name : IsPattern node.name.toList)
    (tenant : IsPattern node.tenant.toList) :
    let raw := "name= " ++ node.name ++ "; tenant= " ++ node.tenant
    let policy := ofSettings settings
    let lookup := (policy.explorer.index canvas).lookup
    let alike := lookup.toList.filter fun other =>
      decide (folded other.name = folded node.name ∧ folded other.tenant = folded node.tenant)
    (node, position) ∈ policy.shown canvas raw ∧ node ∈ policy.filter canvas raw ∧
      (policy.explorer.parse raw).seeds lookup = alike ∧
      (policy.explorer.answer canvas raw).seeds = alike.map Node.id := by
  intro raw policy lookup alike
  have reads : policy.explorer.parse = Query.parse := rfl
  have accepts_iff : ∀ other, (policy.explorer.parse raw).accepts other = true ↔
      folded other.name = folded node.name ∧ folded other.tenant = folded node.tenant := by
    rw [reads]
    exact Query.accepts_own_iff name tenant
  have seeds : (policy.explorer.parse raw).seeds lookup = alike := by
    rw [Query.seeds]
    refine List.filter_congr fun other _ => ?_
    rw [Bool.eq_iff_iff, decide_eq_true_eq]
    exact accepts_iff other
  have shown : (node, position) ∈ policy.shown canvas raw :=
    mem_shown_of_accepts last ((accepts_iff node).mpr ⟨rfl, rfl⟩)
  exact ⟨shown, List.mem_map_of_mem (f := (·.1)) shown, seeds, congrArg (List.map Node.id) seeds⟩

open Sample in
theorem Policy.shown_own_queryLike :
    let node := namedNode "=A has B"
    IsLast Node.id queryLike.nodes 0 node ∧ IsPattern node.name.toList ∧
      IsPattern node.tenant.toList ∧
      (node, 0) ∈ shown (ofSettings {}) queryLike "name= =A has B; tenant= contoso" := by
  intro node
  have last : IsLast Node.id queryLike.nodes 0 node := ⟨rfl, by decide⟩
  have tenant : IsPattern node.tenant.toList :=
    ⟨by decide, Text.squeeze_eq_self_iff.mp (by decide +kernel), by decide⟩
  exact ⟨last, isPattern_queryLike, tenant,
    (shown_own {} queryLike 0 node last isPattern_queryLike tenant).1⟩

end AccessCanvas

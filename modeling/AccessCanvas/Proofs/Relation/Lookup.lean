import Mathlib.Data.List.Basic
import Mathlib.Data.List.Induction
import Mathlib.Data.List.Nodup
import AccessCanvas.Relation.Lookup

/-!
What a lookup made from a list knows. Main statements: an id stands for the last entry that has it,
and the known ids are those of the list, in the order in which they first occur.
-/

namespace AccessCanvas

/-- The entry at the position, which no later one shadows. -/
def IsLast (id : α → ArtifactId) (entries : List α) (position : Nat) (entry : α) : Prop :=
  entries[position]? = some entry ∧ id entry ∉ (entries.drop (position + 1)).map id

variable {id : α → ArtifactId} {entries : List α}

theorem isLast_append_cons {before after : List α} {entry : α} (fresh : id entry ∉ after.map id) :
    IsLast id (before ++ entry :: after) before.length entry := by
  refine ⟨by simp, ?_⟩
  rw [List.append_cons, List.drop_left' (by simp)]
  exact fresh

theorem IsLast.eq_append {position : Nat} {entry : α} (last : IsLast id entries position entry) :
    ∃ before after, entries = before ++ entry :: after ∧ before.length = position ∧
      id entry ∉ after.map id := by
  obtain ⟨bound, here⟩ := List.getElem?_eq_some_iff.mp last.1
  refine ⟨entries.take position, entries.drop (position + 1), ?_, by simp; omega, last.2⟩
  rw [← here, List.getElem_cons_drop, List.take_append_drop]

theorem IsLast.not_lt {first second : Nat} {left right : α} (last : IsLast id entries first left)
    (there : entries[second]? = some right) (same : id left = id right) : ¬first < second := by
  intro later
  apply last.2
  rw [same]
  refine List.mem_map_of_mem (List.mem_iff_getElem?.mpr ⟨second - (first + 1), ?_⟩)
  rw [List.getElem?_drop, Nat.add_sub_cancel' later]
  exact there

theorem IsLast.unique {first second : Nat} {left right : α} (one : IsLast id entries first left)
    (other : IsLast id entries second right) (same : id left = id right) :
    first = second ∧ left = right := by
  have position : first = second := by
    have := one.not_lt other.1 same
    have := other.not_lt one.1 same.symm
    omega
  refine ⟨position, Option.some.inj ?_⟩
  rw [← one.1, ← other.1, position]

theorem isLast_of_nodup (distinct : (entries.map id).Nodup) {position : Nat} {entry : α}
    (here : entries[position]? = some entry) : IsLast id entries position entry := by
  refine ⟨here, fun shadowed => ?_⟩
  obtain ⟨bound, same⟩ := List.getElem?_eq_some_iff.mp here
  rw [← List.take_append_drop position entries, List.drop_eq_getElem_cons bound, same,
    List.map_append, List.map_cons] at distinct
  exact (List.nodup_cons.mp (List.nodup_append.mp distinct).2.1).1 shadowed

theorem eraseDups_of_nodup {keys : List ArtifactId} (distinct : keys.Nodup) :
    keys.eraseDups = keys := by
  induction keys with
  | nil => rfl
  | cons key later ih =>
      rw [List.nodup_cons] at distinct
      have others : later.filter (fun other => !other == key) = later := by
        rw [List.filter_eq_self]
        intro other member
        simpa using ne_of_mem_of_not_mem member distinct.1
      rw [List.eraseDups_cons, others, ih distinct.2]

namespace Lookup

theorem get?_insert (lookup : Lookup id) (entry : α) (key : ArtifactId) :
    (lookup.insert entry).get? key = if id entry = key then some entry else lookup.get? key := by
  have inserted : (lookup.byId.insert (id entry) entry)[key]? =
      if id entry = key then some entry else lookup.byId[key]? := by
    simp [Std.HashMap.getElem?_insert]
  rw [insert]
  split <;> exact inserted

theorem ofList_concat (entries : List α) (entry : α) :
    (ofList (entries ++ [entry]) : Lookup id) = (ofList entries).insert entry := by
  simp [ofList]

theorem get?_ofList (entries : List α) (key : ArtifactId) :
    (ofList entries : Lookup id).get? key = entries.reverse.find? (id · == key) := by
  induction entries using List.reverseRecOn with
  | nil => simp [ofList, empty, get?]
  | append_singleton entries entry ih =>
      rw [ofList_concat, get?_insert, ih, List.reverse_concat, List.find?_cons]
      by_cases same : id entry = key
      · simp [same]
      · simp [same, beq_eq_false_iff_ne.mpr same]

theorem get?_ofList_eq_some_iff {key : ArtifactId} {entry : α} :
    (ofList entries : Lookup id).get? key = some entry ↔
      id entry = key ∧ ∃ position, IsLast id entries position entry := by
  rw [get?_ofList, List.find?_eq_some_iff_append]
  constructor
  · rintro ⟨same, later, earlier, whole, fresh⟩
    rw [List.reverse_eq_iff, List.reverse_append, List.reverse_cons, List.append_assoc,
      List.singleton_append] at whole
    have named : id entry = key := by simpa using same
    refine ⟨named, earlier.reverse.length, ?_⟩
    rw [whole]
    apply isLast_append_cons
    simpa [named] using fresh
  · rintro ⟨named, position, last⟩
    obtain ⟨before, after, rfl, -, fresh⟩ := last.eq_append
    refine ⟨by simpa using named, after.reverse, before.reverse, by simp, ?_⟩
    simpa [← named] using fresh

theorem contains_iff_get? {lookup : Lookup id} {key : ArtifactId} :
    lookup.contains key = true ↔ ∃ entry, lookup.get? key = some entry := by
  rw [contains, get?, Std.HashMap.contains_eq_isSome_getElem?, Option.isSome_iff_exists]

theorem contains_ofList {key : ArtifactId} :
    (ofList entries : Lookup id).contains key = true ↔ key ∈ entries.map id := by
  rw [contains_iff_get?, ← Option.isSome_iff_exists, get?_ofList, List.find?_isSome]
  simp

theorem mem_ids_of_get? {key : ArtifactId} {entry : α}
    (found : (ofList entries : Lookup id).get? key = some entry) : key ∈ entries.map id :=
  contains_ofList.mp (contains_iff_get?.mpr ⟨entry, found⟩)

theorem exists_isLast {key : ArtifactId} (known : key ∈ entries.map id) :
    ∃ position entry, IsLast id entries position entry ∧ id entry = key := by
  obtain ⟨entry, found⟩ := contains_iff_get?.mp (contains_ofList.mpr known)
  obtain ⟨named, position, last⟩ := get?_ofList_eq_some_iff.mp found
  exact ⟨position, entry, last, named⟩

theorem get?_eq_none_iff {lookup : Lookup id} {key : ArtifactId} :
    lookup.get? key = none ↔ lookup.contains key = false := by
  rw [← Bool.not_eq_true, contains_iff_get?]
  cases lookup.get? key <;> simp

theorem toList_ids_insert (lookup : Lookup id) (entry : α) :
    (lookup.insert entry).ids.toList =
      if lookup.contains (id entry) then lookup.ids.toList else lookup.ids.toList ++ [id entry] := by
  rw [insert]
  by_cases known : lookup.contains (id entry) = true
  · rw [dif_pos (Std.HashMap.mem_iff_contains.mpr known), if_pos known]
  · rw [dif_neg (mt Std.HashMap.mem_iff_contains.mp known), if_neg known, Array.toList_push]

theorem toList_ids_ofList (entries : List α) :
    (ofList entries : Lookup id).ids.toList = (entries.map id).eraseDups := by
  induction entries using List.reverseRecOn with
  | nil => rfl
  | append_singleton entries entry ih =>
      rw [ofList_concat, toList_ids_insert, List.map_append, List.map_singleton,
        List.eraseDups_append, ih]
      split
      · next known =>
        have none : [id entry].removeAll (entries.map id) = [] := by
          rw [List.removeAll, List.filter_eq_nil_iff]
          simpa using contains_ofList.mp known
        rw [none, List.eraseDups_nil, List.append_nil]
      · next unknown =>
        have fresh : [id entry].removeAll (entries.map id) = [id entry] := by
          rw [List.removeAll, List.filter_eq_self]
          simpa using mt contains_ofList.mpr unknown
        rw [fresh]
        rfl

theorem mem_ids_ofList {key : ArtifactId} :
    key ∈ (ofList entries : Lookup id).ids.toList ↔ key ∈ entries.map id := by
  rw [toList_ids_ofList, List.mem_eraseDups]

theorem map_toList (lookup : Lookup id) : lookup.toList.map id = lookup.ids.toList := by
  rw [toList, List.map_filterMap]
  conv_rhs => rw [← List.filterMap_some (l := lookup.ids.toList)]
  refine List.filterMap_congr fun key member => ?_
  rw [Array.mem_toList_iff, lookup.mem_ids, Std.HashMap.mem_iff_contains] at member
  obtain ⟨entry, found⟩ := contains_iff_get?.mp member
  rw [found, Option.map_some, lookup.named key entry found]

section Distinct

variable (distinct : (entries.map id).Nodup)
include distinct

theorem find?_of_nodup {entry : α} (member : entry ∈ entries) :
    entries.find? (id · == id entry) = some entry := by
  obtain ⟨before, after, rfl⟩ := List.append_of_mem member
  rw [List.map_append, List.map_cons, List.nodup_append] at distinct
  rw [List.find?_eq_some_iff_append]
  refine ⟨beq_self_eq_true _, before, after, rfl, fun other earlier => ?_⟩
  simpa using distinct.2.2 _ (List.mem_map_of_mem earlier) _ List.mem_cons_self

theorem get?_of_nodup {entry : α} (member : entry ∈ entries) :
    (ofList entries : Lookup id).get? (id entry) = some entry := by
  rw [get?_ofList]
  refine find?_of_nodup ?_ (List.mem_reverse.mpr member)
  rw [List.map_reverse, List.nodup_reverse]
  exact distinct

theorem toList_of_nodup : (ofList entries : Lookup id).toList = entries := by
  rw [toList, toList_ids_ofList, eraseDups_of_nodup distinct, List.filterMap_map]
  conv_rhs => rw [← List.filterMap_some (l := entries)]
  exact List.filterMap_congr fun entry member => get?_of_nodup distinct member

end Distinct

section Append

variable {left right : List α}

theorem get?_ofList_append (key : ArtifactId) :
    (ofList (left ++ right) : Lookup id).get? key =
      ((ofList right : Lookup id).get? key).or ((ofList left : Lookup id).get? key) := by
  rw [get?_ofList, get?_ofList, get?_ofList, List.reverse_append, List.find?_append]

theorem get?_ofList_of_not_mem {key : ArtifactId} (absent : key ∉ entries.map id) :
    (ofList entries : Lookup id).get? key = none := by
  rw [get?_eq_none_iff, ← Bool.not_eq_true, contains_ofList]
  exact absent

theorem get?_ofList_append_left {key : ArtifactId} (absent : key ∉ right.map id) :
    (ofList (left ++ right) : Lookup id).get? key = (ofList left : Lookup id).get? key := by
  rw [get?_ofList_append, get?_ofList_of_not_mem absent, Option.none_or]

theorem get?_ofList_append_right {key : ArtifactId} (absent : key ∉ left.map id) :
    (ofList (left ++ right) : Lookup id).get? key = (ofList right : Lookup id).get? key := by
  rw [get?_ofList_append, get?_ofList_of_not_mem absent, Option.or_none]

theorem toList_ofList_append (apart : ∀ key ∈ left.map id, key ∉ right.map id) :
    (ofList (left ++ right) : Lookup id).toList =
      (ofList left : Lookup id).toList ++ (ofList right : Lookup id).toList := by
  have kept : (right.map id).removeAll (left.map id) = right.map id := by
    rw [List.removeAll, List.filter_eq_self]
    intro key member
    have fresh : key ∉ left.map id := fun old => apart key old member
    simp [fresh]
  rw [toList, toList, toList, toList_ids_ofList, toList_ids_ofList, toList_ids_ofList,
    List.map_append, List.eraseDups_append, kept, List.filterMap_append]
  congr 1
  · refine List.filterMap_congr fun key member => get?_ofList_append_left ?_
    exact apart key (List.mem_eraseDups.mp member)
  · refine List.filterMap_congr fun key member => get?_ofList_append_right fun other => ?_
    exact apart key other (List.mem_eraseDups.mp member)

end Append

end Lookup

end AccessCanvas

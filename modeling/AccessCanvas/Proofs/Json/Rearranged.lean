import Mathlib.Data.List.Nodup
import AccessCanvas.Proofs.Json.Record

/-!
Documents with their members in another order. Members that hold a default may be left out, in
every object of the document. Main statements: a form reads the members of a rearranged object, from
a text or from a value, when each of them adds its part to the draft and the parts left out complete
it to the same record.
-/

namespace AccessCanvas.Json

/-- The second value is the first with the members of its objects in any order, and without some of
those that are among the defaults. -/
inductive Value.Rearranged (defaults : List (String × Value)) : Value → Value → Prop
  | null : Rearranged defaults .null .null
  | boolean (value : Bool) : Rearranged defaults (.boolean value) (.boolean value)
  | number (value : Number) : Rearranged defaults (.number value) (.number value)
  | text (value : String) : Rearranged defaults (.text value) (.text value)
  | list {items others : List Value} (each : List.Forall₂ (Rearranged defaults) items others) :
      Rearranged defaults (.list items) (.list others)
  | object {members others : List (String × Value)} (kept omitted : List (String × Value))
      (split : members.Perm (kept ++ omitted)) (silent : omitted ⊆ defaults)
      (names : kept.map (·.1) = others.map (·.1))
      (each : List.Forall₂ (Rearranged defaults) (kept.map (·.2)) (others.map (·.2))) :
      Rearranged defaults (.object members) (.object others)

namespace Value.Rearranged

variable {defaults : List (String × Value)}

mutual

theorem refl : (value : Value) → Rearranged defaults value value
  | .null => .null
  | .boolean value => .boolean value
  | .number value => .number value
  | .text value => .text value
  | .list items => .list (refl_items items)
  | .object members => by
      refine .object members [] ?_ (by simp) rfl (refl_members members)
      rw [List.append_nil]

theorem refl_items : (items : List Value) → List.Forall₂ (Rearranged defaults) items items
  | [] => .nil
  | item :: items => .cons (refl item) (refl_items items)

theorem refl_members : (members : List (String × Value)) →
    List.Forall₂ (Rearranged defaults) (members.map (·.2)) (members.map (·.2))
  | [] => .nil
  | (_, value) :: members => .cons (refl value) (refl_members members)

end

end Value.Rearranged

def OnlyDefaultsMissing (defaults members : List (String × Value)) (seen : List String) : Prop :=
  ∀ member ∈ members, member.1 ∉ seen → member ∈ defaults

/-- What is left of a rearranged object when the members with some names were seen: every member
stands there under a name that was not seen, and those that never come are defaults. -/
inductive Covers (defaults members : List (String × Value)) :
    (seen : List String) → List (String × Value) → Prop
  | nil {seen : List String} (silent : OnlyDefaultsMissing defaults members seen) :
      Covers defaults members seen []
  | cons {seen : List String} {name : String} {old value : Value} {later : List (String × Value)}
      (member : (name, old) ∈ members) (fresh : name ∉ seen)
      (same : Value.Rearranged defaults old value) (rest : Covers defaults members (name :: seen) later) :
      Covers defaults members seen ((name, value) :: later)

section Covers

variable {defaults members : List (String × Value)} {seen : List String}

theorem covers_kept {kept others : List (String × Value)} (known : kept ⊆ members)
    (distinct : (kept.map (·.1)).Nodup) (fresh : ∀ entry ∈ kept, entry.1 ∉ seen)
    (silent : ∀ member ∈ members, member.1 ∉ seen → member ∉ kept → member ∈ defaults)
    (names : kept.map (·.1) = others.map (·.1))
    (each : List.Forall₂ (Value.Rearranged defaults) (kept.map (·.2)) (others.map (·.2))) :
    Covers defaults members seen others := by
  induction kept generalizing seen others with
  | nil =>
      obtain rfl : others = [] := by simpa using names.symm
      exact .nil fun member listed unseen => silent member listed unseen (by simp)
  | cons entry kept ih =>
      obtain _ | ⟨other, others⟩ := others
      · simp at names
      obtain ⟨name, old⟩ := entry
      obtain ⟨otherName, value⟩ := other
      simp only [List.map_cons, List.cons.injEq, List.nodup_cons, List.forall₂_cons] at names distinct each
      obtain ⟨rfl, names⟩ := names
      -- names are distinct, so the entries to come are not under the name of this one
      refine .cons (known List.mem_cons_self) (fresh _ List.mem_cons_self) each.1
        (ih (List.subset_of_cons_subset known) distinct.2 ?_ ?_ names each.2)
      · intro entry listed again
        rcases List.mem_cons.mp again with repeated | old
        · exact distinct.1 (repeated ▸ List.mem_map_of_mem listed)
        · exact fresh entry (List.mem_cons_of_mem _ listed) old
      · intro member listed unseen left
        rw [List.mem_cons, not_or] at unseen
        refine silent member listed unseen.2 ?_
        rintro (_ | ⟨_, listed⟩)
        · exact unseen.1 rfl
        · exact left listed

theorem Covers.of_rearranged {value : Value} (distinct : (members.map (·.1)).Nodup)
    (same : Value.Rearranged defaults (.object members) value) :
    ∃ others, value = .object others ∧ Covers defaults members [] others := by
  cases same with
  | @object _ others kept omitted split silent names each =>
      have parts := (split.map (·.1)).nodup_iff.mp distinct
      rw [List.map_append] at parts
      refine ⟨others, rfl, covers_kept ?_ parts.of_append_left (by simp) ?_ names each⟩
      · exact fun entry listed => split.mem_iff.mpr (List.mem_append_left _ listed)
      · intro member listed _ left
        exact silent ((List.mem_append.mp (split.mem_iff.mp listed)).resolve_left left)

theorem Covers.erase {name : String} {value : Value} {others : List (String × Value)}
    {kept : List String} (covers : Covers defaults ((name, value) :: members) seen others)
    (single : name ∉ members.map (·.1)) (agree : ∀ other ≠ name, other ∈ kept ↔ other ∈ seen) :
    Covers defaults members kept (others.filter (·.1 != name)) := by
  -- whether the name itself is among the seen ones does not matter, hence `kept` for `seen`
  induction covers generalizing kept with
  | nil silent =>
      refine .nil fun member listed unseen => silent member (List.mem_cons_of_mem _ listed) ?_
      have other : member.1 ≠ name := fun same => single (same ▸ List.mem_map_of_mem listed)
      rwa [← agree member.1 other]
  | @cons seen found old value later member fresh same _ ih =>
      by_cases tagged : found = name
      · rw [List.filter_cons_of_neg (by simp [tagged])]
        refine ih fun other different => ?_
        rw [agree other different, List.mem_cons, or_iff_right (tagged ▸ different)]
      · rw [List.filter_cons_of_pos (by simp [tagged])]
        have listed : (found, old) ∈ members := by simpa [tagged] using member
        refine .cons listed (by rwa [agree found tagged]) same (ih fun other different => ?_)
        rw [List.mem_cons, List.mem_cons, agree other different]

end Covers

def given (name : String) (seen : List String) (part : α) : Option α :=
  if name ∈ seen then some part else none

section Given

variable {name other : String} {seen : List String} {part : α}

@[simp] theorem given_cons_of_ne (different : name ≠ other) :
    given name (other :: seen) part = given name seen part := by
  simp [given, different]

@[simp] theorem given_of_mem (listed : name ∈ seen) : given name seen part = some part := by
  simp [given, listed]

@[simp] theorem given_of_not_mem (fresh : name ∉ seen) : given name seen part = none := by
  simp [given, fresh]

theorem getD_given {default : α} (silent : name ∉ seen → part = default) :
    (given name seen part).getD default = part := by
  rw [given]
  split
  · rfl
  · next fresh => exact (silent fresh).symm

end Given

section Drafts

variable {defaults members others : List (String × Value)} {seen : List String}

/-- When what was read is known from the names seen so far, and every further member adds its own,
only defaults are missing in the end. -/
theorem fills_of_covers {choose : String → σ → Except Fault (Reader σ)} {drafts : List String → σ}
    (covers : Covers defaults members seen others)
    (step : ∀ {name old seen}, (name, old) ∈ members → name ∉ seen → ∃ reader,
      choose name (drafts seen) = .ok reader ∧
      ∀ value, Value.Rearranged defaults old value → Reads reader value (drafts (name :: seen))) :
    ∃ last, OnlyDefaultsMissing defaults members last ∧
      Fills choose (drafts seen) others (drafts last) := by
  induction covers with
  | @nil seen silent => exact ⟨seen, silent, .nil _⟩
  | cons member fresh same _ ih =>
      obtain ⟨last, silent, fills⟩ := ih
      obtain ⟨reader, chosen, reads⟩ := step member fresh
      exact ⟨last, silent, .cons chosen (reads _ same) fills⟩

theorem foldlM_of_covers {add : σ → String × Value → Except Fault σ} {drafts : List String → σ}
    (covers : Covers defaults members seen others)
    (step : ∀ {name old seen}, (name, old) ∈ members → name ∉ seen → ∀ value,
      Value.Rearranged defaults old value → add (drafts seen) (name, value) = .ok (drafts (name :: seen))) :
    ∃ last, OnlyDefaultsMissing defaults members last ∧
      others.foldlM add (drafts seen) = .ok (drafts last) := by
  induction covers with
  | @nil seen silent => exact ⟨seen, silent, rfl⟩
  | cons member fresh same _ ih =>
      obtain ⟨last, silent, folds⟩ := ih
      rw [List.foldlM_cons, step member fresh _ same]
      exact ⟨last, silent, folds⟩

namespace Form

variable {result : record}

theorem reads_of_covers {form : Form draft (Reader draft) record} (drafts : List String → draft)
    (covers : Covers defaults members [] others) (blank : drafts [] = form.blank)
    (step : ∀ {name old seen}, (name, old) ∈ members → name ∉ seen → ∃ reader,
      form.choose name (drafts seen) = .ok reader ∧
      ∀ value, Value.Rearranged defaults old value → Reads reader value (drafts (name :: seen)))
    (complete : ∀ seen, OnlyDefaultsMissing defaults members seen →
      form.complete (fun _ => .missingField) (drafts seen) = .ok result) :
    Reads form.reader (.object others) result := by
  obtain ⟨last, silent, fills⟩ := fills_of_covers covers step
  rw [blank] at fills
  exact reads_reader fills (complete last silent)

theorem addMember_eq {form : Form draft (Value → Except Fault draft) record}
    {member : Member draft (Value → Except Fault draft)} {name : String} {sofar : draft}
    (listed : form.members.find? (·.name == name) = some member) (fresh : member.given sofar = false)
    (value : Value) : form.addMember sofar (name, value) = member.fill sofar value := by
  simp only [addMember, select, listed, fresh]
  rfl

theorem ofValue_of_covers {form : Form draft (Value → Except Fault draft) record}
    (drafts : List String → draft) (covers : Covers defaults members [] others)
    (blank : drafts [] = form.blank)
    (step : ∀ {name old seen}, (name, old) ∈ members → name ∉ seen → ∀ value,
      Value.Rearranged defaults old value →
        form.addMember (drafts seen) (name, value) = .ok (drafts (name :: seen)))
    (complete : ∀ seen, OnlyDefaultsMissing defaults members seen →
      form.complete (fun _ => .missingField) (drafts seen) = .ok result) :
    form.ofValue (.object others) = .ok result := by
  obtain ⟨last, silent, folds⟩ := foldlM_of_covers covers step
  rw [blank] at folds
  simp only [ofValue, folds, complete last silent]

end Form

end Drafts

theorem reads_list_rearranged {defaults : List (String × Value)} {item : Reader α}
    {encode : α → Value} {results : List α} {value : Value}
    (reads : ∀ result value, Value.Rearranged defaults (encode result) value → Reads item value result)
    (same : Value.Rearranged defaults (.list (results.map encode)) value) :
    Reads (list item) value results := by
  cases same with
  | list each =>
      rw [List.forall₂_map_left_iff] at each
      exact reads_list (each.imp reads).flip

end AccessCanvas.Json

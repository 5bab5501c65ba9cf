import Std.Data.HashMap
import AccessCanvas.Artifact.Node

/-!
Entries by id. An entry is an artifact, or an artifact with its place on a canvas. When several
entries share an id, it keeps the place of the first and stands for the last. Main statement:
`toList` and `get?` say the same.
-/

namespace AccessCanvas

structure Lookup (id : α → ArtifactId) where
  /-- The ids, each at the place where it came first. -/
  ids : Array ArtifactId
  /-- The last entry with each id. -/
  byId : Std.HashMap ArtifactId α
  nodup : ids.toList.Nodup
  mem_ids : ∀ key : ArtifactId, key ∈ ids ↔ key ∈ byId
  named : ∀ (key : ArtifactId) (entry : α), byId[key]? = some entry → id entry = key

namespace Lookup

variable {id : α → ArtifactId}

def empty : Lookup id where
  ids := #[]
  byId := ∅
  nodup := by simp
  mem_ids := by simp
  named := by simp

theorem named_insert {byId : Std.HashMap ArtifactId α} {entry : α}
    (named : ∀ (key : ArtifactId) (entry : α), byId[key]? = some entry → id entry = key)
    (key : ArtifactId) (found : α) (here : (byId.insert (id entry) entry)[key]? = some found) :
    id found = key := by
  rw [Std.HashMap.getElem?_insert] at here
  split at here
  · next same =>
    simp only [Option.some.injEq] at here
    subst here
    exact eq_of_beq same
  · exact named key found here

def insert (lookup : Lookup id) (entry : α) : Lookup id :=
  if known : id entry ∈ lookup.byId then
    { lookup with
      byId := lookup.byId.insert (id entry) entry
      mem_ids := fun key => by
        rw [Std.HashMap.mem_insert, lookup.mem_ids]
        constructor
        · exact Or.inr
        · rintro (same | old)
          · rw [← eq_of_beq same]
            exact known
          · exact old
      named := named_insert lookup.named }
  else
    { ids := lookup.ids.push (id entry)
      byId := lookup.byId.insert (id entry) entry
      nodup := by
        rw [Array.toList_push, List.nodup_append]
        refine ⟨lookup.nodup, by simp, ?_⟩
        intro key old added member same
        rw [List.mem_singleton] at member
        subst member
        subst same
        exact known ((lookup.mem_ids (id entry)).mp (Array.mem_toList_iff.mp old))
      mem_ids := fun key => by
        rw [Array.mem_push, Std.HashMap.mem_insert, lookup.mem_ids, beq_iff_eq, or_comm, eq_comm]
      named := named_insert lookup.named }

def ofList (entries : List α) : Lookup id :=
  entries.foldl insert empty

def get? (lookup : Lookup id) (key : ArtifactId) : Option α :=
  lookup.byId[key]?

def contains (lookup : Lookup id) (key : ArtifactId) : Bool :=
  lookup.byId.contains key

def size (lookup : Lookup id) : Nat :=
  lookup.ids.size

def isEmpty (lookup : Lookup id) : Bool :=
  lookup.ids.isEmpty

def toList (lookup : Lookup id) : List α :=
  lookup.ids.toList.filterMap lookup.get?

theorem mem_toList {lookup : Lookup id} {entry : α} :
    entry ∈ lookup.toList ↔ lookup.get? (id entry) = some entry := by
  rw [toList, List.mem_filterMap]
  constructor
  · rintro ⟨key, -, found⟩
    rw [get?] at found ⊢
    rw [lookup.named key entry found]
    exact found
  · intro found
    refine ⟨id entry, ?_, found⟩
    rw [Array.mem_toList_iff, lookup.mem_ids, Std.HashMap.mem_iff_isSome_getElem?]
    rw [get?] at found
    simp [found]

end Lookup

end AccessCanvas

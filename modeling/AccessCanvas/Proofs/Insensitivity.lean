import AccessCanvas.Proofs.Query.Edit
import AccessCanvas.Proofs.Relation.Explorer
import AccessCanvas.Proofs.Relation.Image
import AccessCanvas.Sample

/-!
Case and layout have no part in an answer. Main statement: a query changed in the case of its
letters or in its white space finds the same ids in the same order, also on a canvas whose names and
tenants are written in other cases.
-/

namespace AccessCanvas

/-- The text with its letters from A to Z made small. -/
def Text.lowered (text : String) : String :=
  .ofList (text.toList.map Char.toLower)

def Node.lowered (node : Node) : Node :=
  { node with name := Text.lowered node.name, tenant := Text.lowered node.tenant }

def Canvas.lowered (canvas : Canvas) : Canvas :=
  { canvas with nodes := canvas.nodes.map Node.lowered }

theorem Text.lowered_eq_empty_iff {text : String} : lowered text = "" ↔ text = "" := by
  rw [lowered, String.ofList_eq_empty_iff, List.map_eq_nil_iff, String.toList_eq_nil_iff]

theorem Text.fold_lowered (text : String) : fold (lowered text).toList = fold text.toList := by
  rw [lowered, String.toList_ofList, fold_map_toLower]

theorem Node.read_lowered (node : Node) (key : Attribute) :
    node.lowered.read key = Text.lowered (node.read key) := by
  cases key <;> rfl

theorem Statement.accepts_lowered (statement : Statement) (node : Node) :
    statement.accepts node.lowered = statement.accepts node := by
  rw [accepts, accepts]
  cases statement.selector with
  | unsupported text => rfl
  | known key =>
      have filled : (Text.lowered (node.read key) != "") = (node.read key != "") := by
        rw [Bool.eq_iff_iff, bne_iff_ne, bne_iff_ne, ne_eq, ne_eq, Text.lowered_eq_empty_iff]
      simp only [Node.read_lowered, filled, Text.fold_lowered]

theorem Query.accepts_lowered (query : Query) (node : Node) :
    query.accepts node.lowered = query.accepts node := by
  rw [accepts, accepts]
  simp only [Statement.accepts_lowered]

namespace Explorer

theorem isImage_lowered (explorer : Explorer) (canvas : Canvas) :
    (explorer.index canvas.lowered).IsImage (explorer.index canvas) Node.lowered :=
  Network.isImage_build (fun _ => rfl) canvas.nodes canvas.edges explorer.orientation

theorem search_lowered (explorer : Explorer) (canvas : Canvas) (raw : String) :
    explorer.search canvas.lowered raw = explorer.search canvas raw := by
  rw [search_eq, search_eq,
    (explorer.isImage_lowered canvas).answer_map (explorer.parse raw).accepts_lowered, List.map_map]
  rfl

theorem search_congr {raw other : String} (same : Query.parse raw = Query.parse other)
    (orientation : Orientation) (canvas : Canvas) :
    search { orientation } canvas raw = search { orientation } canvas other := by
  simp only [search_eq, same]

theorem search_insensitive {raw other : String}
    (edited : Relation.EqvGen Query.Edit raw.toList other.toList) :
    Query.parse raw = Query.parse other ∧
      ∀ (orientation : Orientation) (left right : Canvas), left.lowered = right.lowered →
        search { orientation } left raw = search { orientation } right other := by
  have same : Query.parse raw = Query.parse other := Query.parse_of_edited edited
  refine ⟨same, fun orientation left right recased => ?_⟩
  calc search { orientation } left raw
      = search { orientation } left.lowered raw := (search_lowered _ left raw).symm
    _ = search { orientation } right.lowered raw := by rw [recased]
    _ = search { orientation } right.lowered other :=
        search_congr same orientation right.lowered
    _ = search { orientation } right other := search_lowered _ right other

end Explorer

namespace Sample

def capitals (text : String) : String :=
  .ofList (text.toList.map Char.toUpper)

def shouted (canvas : Canvas) : Canvas where
  nodes := canvas.nodes.map fun node =>
    { node with name := capitals node.name, tenant := capitals node.tenant }
  edges := canvas.edges

end Sample

open Sample in
theorem Explorer.search_insensitive_shouted :
    let raw := "name has b;tenant=contoso"
    let other := "NAME HAS\tB; TENANT=CONTOSO"
    Relation.EqvGen Query.Edit raw.toList other.toList ∧
      chainWithIsland.lowered = (shouted chainWithIsland).lowered ∧
      Query.parse raw = Query.parse other ∧
      search { orientation := .directed } chainWithIsland raw =
        search { orientation := .directed } (shouted chainWithIsland) other := by
  intro raw other
  have shout : Query.Edit raw.toList "NAME HAS B;TENANT=CONTOSO".toList := .recase (by decide)
  have tab : Query.Edit "NAME HAS B;TENANT=CONTOSO".toList "NAME HAS\tB;TENANT=CONTOSO".toList :=
    @Query.Edit.respace [' '] ['\t'] (by decide) (List.all_eq_true.mp (by decide)) (by decide)
      (List.all_eq_true.mp (by decide))
      "NAME HAS".toList "B;TENANT=CONTOSO".toList
  have space : Query.Edit "NAME HAS\tB;TENANT=CONTOSO".toList
      "NAME HAS\tB; TENANT=CONTOSO".toList :=
    @Query.Edit.pad [' '] "NAME HAS\tB;".toList "TENANT=CONTOSO".toList
      (List.all_eq_true.mp (by decide)) (.inl fun c last => (Option.mem_some_iff.mp last).symm)
  have edited : Relation.EqvGen Query.Edit raw.toList other.toList :=
    ((Relation.EqvGen.rel _ _ shout).trans _ _ _ (.rel _ _ tab)).trans _ _ _ (.rel _ _ space)
  have recased : chainWithIsland.lowered = (shouted chainWithIsland).lowered := by
    decide +kernel
  obtain ⟨same, found⟩ := search_insensitive edited
  exact ⟨edited, recased, same, found .directed _ _ recased⟩

end AccessCanvas

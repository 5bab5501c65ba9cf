import AccessCanvas.Canvas.Basic
import AccessCanvas.Proofs.Relation.Lookup
import AccessCanvas.Proofs.Text.Spacing

/-!
Derived ids. The parts of an id are joined by a slash and may hold slashes themselves. Main
statement: in tenants without a slash, artifacts made from different parts have different ids, so
each of them is found under its own.
-/

namespace AccessCanvas

theorem Text.append_slash_inj {front other back rest : List Char} (first : '/' ∉ front)
    (second : '/' ∉ other) (same : front ++ '/' :: back = other ++ '/' :: rest) :
    front = other ∧ back = rest := by
  have alone : ∀ {text : List Char}, '/' ∉ text → pieces (· == '/') text = [text] :=
    fun absent => pieces_of_uncut fun c member => by simpa using ne_of_mem_of_not_mem member absent
  have rows := congrArg (pieces (· == '/')) same
  rw [pieces_append_cut rfl, pieces_append_cut rfl, alone first, alone second] at rows
  obtain rfl : front = other := (List.cons.inj rows).1
  exact ⟨rfl, (List.cons.inj (List.append_cancel_left same)).2⟩

theorem Kind.slash_not_mem_label (kind : Kind) : '/' ∉ kind.label.toList := by
  cases kind with
  | auth principal => cases same : principal.type <;> rw [label, same] <;> decide
  | resource details => cases same : details.environment <;> rw [label, same] <;> decide

theorem ArtifactId.toList_derive (kindLabel tenant name : String) :
    (derive kindLabel tenant name).toList =
      kindLabel.toList ++ '/' :: (tenant.toList ++ '/' :: name.toList) := by
  simp [derive]

namespace Node

def parts (node : Node) : String × String × String :=
  (node.kind.label, node.tenant, node.name)

/-- Made from its parts, in a tenant without a slash. -/
inductive IsMade : Node → Prop
  | make {name tenant : String} {kind : Kind} {node : Node} (whole : '/' ∉ tenant.toList)
      (made : make name tenant kind = .ok node) : IsMade node

theorem eq_ofParts_of_make {name tenant : String} {kind : Kind} {node : Node}
    (made : make name tenant kind = .ok node) : node = ofParts name tenant kind := by
  rw [make] at made
  split at made
  · cases made
  split at made
  · cases made
  · exact (Except.ok.inj made).symm

theorem IsMade.parts_eq {one other : Node} (first : one.IsMade) (second : other.IsMade)
    (same : one.id = other.id) : one.parts = other.parts := by
  obtain ⟨whole, made⟩ := first
  obtain ⟨otherWhole, otherMade⟩ := second
  obtain rfl := eq_ofParts_of_make made
  obtain rfl := eq_ofParts_of_make otherMade
  have texts := congrArg String.toList same
  simp only [ofParts, ArtifactId.toList_derive] at texts
  obtain ⟨label, rest⟩ := Text.append_slash_inj (Kind.slash_not_mem_label _)
    (Kind.slash_not_mem_label _) texts
  obtain ⟨tenant, name⟩ := Text.append_slash_inj whole otherWhole rest
  simp only [parts, ofParts, String.toList_inj.mp label, String.toList_inj.mp tenant,
    String.toList_inj.mp name]

theorem nodup_ids_of_parts {nodes : List Node} (made : ∀ node ∈ nodes, node.IsMade)
    (distinct : (nodes.map parts).Nodup) : (nodes.map Node.id).Nodup := by
  rw [List.Nodup, List.pairwise_map] at distinct ⊢
  refine distinct.imp_of_mem fun {one other} first second apart same => ?_
  exact apart ((made one first).parts_eq (made other second) same)

end Node

namespace Canvas

/-- In tenants without a slash an id tells of what it was derived from. Artifacts made from different
parts are looked up one by one and in their order, each under its own id. -/
theorem made_identified :
    (∀ one other : Node, one.IsMade → other.IsMade → one.id = other.id →
      one.kind.label = other.kind.label ∧ one.tenant = other.tenant ∧ one.name = other.name) ∧
    ∀ canvas : Canvas, (∀ node ∈ canvas.nodes, node.IsMade) → (canvas.nodes.map Node.parts).Nodup →
      let lookup : Lookup Node.id := .ofList canvas.nodes
      lookup.size = canvas.nodes.length ∧ lookup.toList = canvas.nodes ∧
        ∀ node ∈ canvas.nodes,
          lookup.get? node.id = some node ∧ canvas.node? node.id = some node := by
  refine ⟨fun one other first second same => ?_, fun canvas made distinct => ?_⟩
  · simpa only [Node.parts, Prod.mk.injEq] using first.parts_eq second same
  · intro lookup
    have ids := Node.nodup_ids_of_parts made distinct
    have order : lookup.toList = canvas.nodes := Lookup.toList_of_nodup ids
    refine ⟨?_, order, fun node member => ⟨Lookup.get?_of_nodup ids member,
      Lookup.find?_of_nodup ids member⟩⟩
    rw [Lookup.size, ← Array.length_toList, ← Lookup.map_toList, order, List.length_map]

def slashed : Canvas where
  nodes := [.ofParts "Ops/EU" "Contoso" (.auth ⟨.securityGroup, .standAlone, false⟩),
    .ofParts "EU" "Contoso" (.auth ⟨.securityGroup, .standAlone, false⟩)]

theorem made_identified_slashed :
    (Lookup.ofList slashed.nodes : Lookup Node.id).toList = slashed.nodes ∧
      ∀ node ∈ slashed.nodes, slashed.node? node.id = some node := by
  have made : ∀ node ∈ slashed.nodes, node.IsMade := by
    simp only [slashed, List.forall_mem_cons]
    exact ⟨⟨by decide, show Node.make "Ops/EU" "Contoso" _ = _ from rfl⟩,
      ⟨by decide, show Node.make "EU" "Contoso" _ = _ from rfl⟩, by simp⟩
  obtain ⟨-, order, found⟩ := made_identified.2 slashed made (by decide)
  exact ⟨order, fun node member => (found node member).2⟩

/-- A slash in a tenant can stand for the one after it. -/
example :
    (Node.ofParts "Ops" "EU/Contoso" (.resource ⟨.production, .app⟩)).id =
      (Node.ofParts "Contoso/Ops" "EU" (.resource ⟨.production, .app⟩)).id := by
  decide

end Canvas

end AccessCanvas

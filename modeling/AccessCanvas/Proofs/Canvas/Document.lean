import AccessCanvas.Canvas.Document
import AccessCanvas.Proofs.Json.Rearranged

/-!
Canvases read from documents. The members of an object may stand in any order, and those that hold
a default may be left out: what was read of a record is known from the names seen so far, and the
other members of a kind are kept until its tag is met. Main statements: every rearrangement of a
canvas's document is read as that canvas, and so is the document itself.
-/

namespace AccessCanvas

open Json (Value Fault Reads Fills Covers OnlyDefaultsMissing given)

def Canvas.defaults : List (String × Value) :=
  [("nodes", .list []), ("edges", .list []), ("access", .text Access.standard.word),
    ("variant", .text Dependency.standAlone.word), ("variant", .text Purpose.app.word),
    ("is_jit", .boolean false)]

open Canvas (defaults)

section Words

theorem PrincipalType.optionNamed_word (type : PrincipalType) :
    Json.optionNamed (Text.byWord word all) type.word = .ok type :=
  Json.optionNamed_byWord (by decide) (by cases type <;> decide)

theorem Dependency.optionNamed_word (dependency : Dependency) :
    Json.optionNamed (Text.byWord word all) dependency.word = .ok dependency :=
  Json.optionNamed_byWord (by decide) (by cases dependency <;> decide)

theorem Environment.optionNamed_word (environment : Environment) :
    Json.optionNamed (Text.byWord word all) environment.word = .ok environment :=
  Json.optionNamed_byWord (by decide) (by cases environment <;> decide)

theorem Purpose.optionNamed_word (purpose : Purpose) :
    Json.optionNamed (Text.byWord word all) purpose.word = .ok purpose :=
  Json.optionNamed_byWord (by decide) (by cases purpose <;> decide)

theorem Access.optionNamed_word (access : Access) :
    Json.optionNamed (Text.byWord word all) access.word = .ok access :=
  Json.optionNamed_byWord (by decide) (by cases access <;> decide)

theorem Dependency.eq_of_mem_defaults {dependency : Dependency}
    (silent : ("variant", .text dependency.word) ∈ defaults) : dependency = .standAlone := by
  cases dependency <;> simp_all [defaults, word, Purpose.word]

theorem Purpose.eq_of_mem_defaults {purpose : Purpose}
    (silent : ("variant", .text purpose.word) ∈ defaults) : purpose = .app := by
  cases purpose <;> simp_all [defaults, word, Dependency.word]

theorem Access.eq_of_mem_defaults {access : Access}
    (silent : ("access", .text access.word) ∈ defaults) : access = .standard := by
  cases access <;> simp_all [defaults, word]

end Words

namespace Principal

def drafts (principal : Principal) (seen : List String) : Draft where
  type := given "auth_type" seen principal.type
  dependency := given "variant" seen principal.dependency
  justInTime := given "is_jit" seen principal.justInTime

theorem addMember_drafts (principal : Principal) {name : String} {old value : Value}
    {seen : List String} (member : (name, old) ∈ principal.members) (fresh : name ∉ seen)
    (same : Value.Rearranged defaults old value) :
    form.addMember (principal.drafts seen) (name, value) = .ok (principal.drafts (name :: seen)) := by
  simp only [members, List.mem_cons, Prod.mk.injEq, List.not_mem_nil, or_false] at member
  obtain ⟨rfl, rfl⟩ | ⟨rfl, rfl⟩ | ⟨rfl, rfl⟩ := member <;> cases same
  · rw [Json.Form.addMember_eq rfl (by simp [drafts, fresh])]
    simp [drafts, Value.readChoice, PrincipalType.optionNamed_word, Except.map]
  · rw [Json.Form.addMember_eq rfl (by simp [drafts, fresh])]
    simp [drafts, Value.readChoice, Dependency.optionNamed_word, Except.map]
  · rw [Json.Form.addMember_eq rfl (by simp [drafts, fresh])]
    simp [drafts, Value.readBoolean, Except.map]

theorem complete_drafts (principal : Principal) {seen : List String}
    (silent : OnlyDefaultsMissing defaults principal.members seen) :
    form.complete (fun _ => .missingField) (principal.drafts seen) = .ok principal := by
  simp only [members, OnlyDefaultsMissing, List.forall_mem_cons] at silent
  obtain ⟨type, dependency, justInTime, -⟩ := silent
  have typed : "auth_type" ∈ seen := Not.imp_symm type (by simp [defaults])
  simp only [form, drafts, Json.given_of_mem typed, Json.demanded]
  rw [Json.getD_given, Json.getD_given]
  · rfl
  · intro fresh
    simpa [defaults] using justInTime fresh
  · exact fun fresh => Dependency.eq_of_mem_defaults (dependency fresh)

theorem ofValue_rearranged (principal : Principal) {others : List (String × Value)}
    (covers : Covers defaults principal.members [] others) :
    form.ofValue (.object others) = .ok principal :=
  Json.Form.ofValue_of_covers principal.drafts covers (by simp [drafts, form])
    (fun member fresh _ same => principal.addMember_drafts member fresh same)
    (fun _ silent => principal.complete_drafts silent)

end Principal

namespace Resource

def drafts (resource : Resource) (seen : List String) : Draft where
  environment := given "resource_type" seen resource.environment
  purpose := given "variant" seen resource.purpose

theorem addMember_drafts (resource : Resource) {name : String} {old value : Value}
    {seen : List String} (member : (name, old) ∈ resource.members) (fresh : name ∉ seen)
    (same : Value.Rearranged defaults old value) :
    form.addMember (resource.drafts seen) (name, value) = .ok (resource.drafts (name :: seen)) := by
  simp only [members, List.mem_cons, Prod.mk.injEq, List.not_mem_nil, or_false] at member
  obtain ⟨rfl, rfl⟩ | ⟨rfl, rfl⟩ := member <;> cases same
  · rw [Json.Form.addMember_eq rfl (by simp [drafts, fresh])]
    simp [drafts, Value.readChoice, Environment.optionNamed_word, Except.map]
  · rw [Json.Form.addMember_eq rfl (by simp [drafts, fresh])]
    simp [drafts, Value.readChoice, Purpose.optionNamed_word, Except.map]

theorem complete_drafts (resource : Resource) {seen : List String}
    (silent : OnlyDefaultsMissing defaults resource.members seen) :
    form.complete (fun _ => .missingField) (resource.drafts seen) = .ok resource := by
  simp only [members, OnlyDefaultsMissing, List.forall_mem_cons] at silent
  obtain ⟨environment, purpose, -⟩ := silent
  have placed : "resource_type" ∈ seen := Not.imp_symm environment (by simp [defaults])
  simp only [form, drafts, Json.given_of_mem placed, Json.demanded]
  rw [Json.getD_given fun fresh => Purpose.eq_of_mem_defaults (purpose fresh)]
  rfl

theorem ofValue_rearranged (resource : Resource) {others : List (String × Value)}
    (covers : Covers defaults resource.members [] others) :
    form.ofValue (.object others) = .ok resource :=
  Json.Form.ofValue_of_covers resource.drafts covers (by simp [drafts, form])
    (fun member fresh _ same => resource.addMember_drafts member fresh same)
    (fun _ silent => resource.complete_drafts silent)

end Resource

namespace Kind

variable {inner : Json.Reader Value} {word : String} {read : Value → Except Fault Kind}
  {members others : List (String × Value)} {seen : List String}

theorem fills_draft (named : Json.optionNamed tagged word = .ok read)
    (plain : ∀ member ∈ members, ∀ value, Value.Rearranged defaults member.2 value →
      Reads inner value value)
    (single : tag ∉ members.map (·.1))
    (covers : Covers defaults ((tag, .text word) :: members) seen others) (sofar : Draft)
    (start : sofar.read = given tag seen read) :
    Fills (chooseMember inner) sofar others
      ⟨some read, sofar.others ++ others.filter (·.1 != tag)⟩ := by
  induction covers generalizing sofar with
  -- no default is a tag, so it was met before the end
  | @nil seen silent =>
      have tagSeen : tag ∈ seen :=
        Not.imp_symm (silent _ List.mem_cons_self) (by simp [defaults, tag])
      rw [Json.given_of_mem tagSeen] at start
      rw [List.filter_nil, List.append_nil, ← start]
      exact .nil sofar
  | @cons seen name old value later member fresh same _ ih =>
      rcases List.mem_cons.mp member with tagEntry | listed
      · obtain ⟨rfl, rfl⟩ := Prod.mk.inj tagEntry
        cases same
        rw [Json.given_of_not_mem fresh] at start
        rw [List.filter_cons_of_neg (by simp)]
        have reads := (Json.reads_variant named).map fun read => { sofar with read := some read }
        refine .cons ?_ reads (ih { sofar with read := some read } (by simp))
        rw [chooseMember, if_pos rfl, start]
        rfl
      · have untagged : name ≠ tag := fun tagged => single (tagged ▸ List.mem_map_of_mem listed)
        have rest := ih { sofar with others := sofar.others ++ [(name, value)] }
          (by simpa [untagged.symm] using start)
        rw [List.append_assoc, List.singleton_append] at rest
        rw [List.filter_cons_of_pos (by simp [untagged])]
        exact .cons (by rw [chooseMember, if_neg untagged]) ((plain _ listed _ same).map _) rest

theorem reads_tagged {kind : Kind} {value : Value}
    (named : Json.optionNamed tagged word = .ok read)
    (plain : ∀ member ∈ members, ∀ value, Value.Rearranged defaults member.2 value →
      Reads inner value value)
    (distinct : (tag :: members.map (·.1)).Nodup)
    (made : ∀ others, Covers defaults members [] others → read (.object others) = .ok kind)
    (same : Value.Rearranged defaults (.object ((tag, .text word) :: members)) value) :
    Reads (reader inner) value kind := by
  obtain ⟨others, rfl, covers⟩ := Covers.of_rearranged (by simpa using distinct) same
  have single := (List.nodup_cons.mp distinct).1
  have fills := fills_draft named plain single covers {} (by simp)
  have kept := made _ (covers.erase single fun _ _ => Iff.rfl)
  constructor
  · exact Json.solid_object
  · intro text spelled before blank rest
    cases spelled with
    | object inside =>
        simp only [reader, List.cons_append,
          Json.skipBlanks_append blank (show Json.isBlank '{' = false from rfl),
          Json.members_spelled fills inside rest, List.nil_append, kept]
        rfl

theorem reads_rearranged (levels : Nat) (kind : Kind) {value : Value}
    (same : Value.Rearranged defaults kind.encode value) :
    Reads (reader (Json.any levels)) value kind := by
  cases kind with
  | auth principal =>
      refine reads_tagged rfl ?_ (by simp [Principal.members, tag]) ?_ same
      · simp only [Principal.members, List.forall_mem_cons]
        refine ⟨?_, ?_, ?_, by simp⟩ <;> rintro _ ⟨⟩
        · exact Json.reads_any_text levels _
        · exact Json.reads_any_text levels _
        · exact Json.reads_any_boolean levels _
      · intro others covers
        rw [principal.ofValue_rearranged covers]
        rfl
  | resource details =>
      refine reads_tagged rfl ?_ (by simp [Resource.members, tag]) ?_ same
      · simp only [Resource.members, List.forall_mem_cons]
        refine ⟨?_, ?_, by simp⟩ <;> rintro _ ⟨⟩ <;> exact Json.reads_any_text levels _
      · intro others covers
        rw [details.ofValue_rearranged covers]
        rfl

end Kind

namespace Node

def drafts (node : Node) (seen : List String) : Draft where
  id := given "id" seen node.id
  name := given "name" seen node.name
  tenant := given "tenant" seen node.tenant
  kind := given "kind" seen node.kind

theorem reads_rearranged (outer : Nat) (node : Node) {value : Value}
    (same : Value.Rearranged defaults node.encode value) : Reads (form outer).reader value node := by
  obtain ⟨others, rfl, covers⟩ := Covers.of_rearranged (by simp) same
  refine Json.Form.reads_of_covers node.drafts covers (by simp [drafts, form]) ?_ ?_
  · intro name old seen member fresh
    simp only [List.mem_cons, Prod.mk.injEq, List.not_mem_nil, or_false] at member
    obtain ⟨rfl, rfl⟩ | ⟨rfl, rfl⟩ | ⟨rfl, rfl⟩ | ⟨rfl, rfl⟩ := member <;>
      refine ⟨_, Json.Form.choose_eq rfl (by simp [drafts, fresh]), ?_⟩
    · rintro _ ⟨⟩
      simpa [drafts] using (Json.reads_text node.id).map _
    · rintro _ ⟨⟩
      simpa [drafts] using (Json.reads_text node.name).map _
    · rintro _ ⟨⟩
      simpa [drafts] using (Json.reads_text node.tenant).map _
    · intro value same
      simpa [drafts] using (node.kind.reads_rearranged _ same).map _
  · intro seen silent
    simp only [OnlyDefaultsMissing, List.forall_mem_cons] at silent
    obtain ⟨id, name, tenant, kind, -⟩ := silent
    have idSeen : "id" ∈ seen := Not.imp_symm id (by simp [defaults])
    have nameSeen : "name" ∈ seen := Not.imp_symm name (by simp [defaults])
    have tenantSeen : "tenant" ∈ seen := Not.imp_symm tenant (by simp [defaults])
    have kindSeen : "kind" ∈ seen := Not.imp_symm kind (by simp [defaults])
    simp only [form, drafts, Json.given_of_mem, idSeen, nameSeen, tenantSeen, kindSeen]
    rfl

theorem reads_encode (outer : Nat) (node : Node) : Reads (form outer).reader node.encode node :=
  node.reads_rearranged outer (.refl _)

end Node

namespace Edge

def drafts (edge : Edge) (seen : List String) : Draft where
  source := given "source" seen edge.source
  target := given "target" seen edge.target
  access := given "access" seen edge.access

theorem reads_rearranged (edge : Edge) {value : Value}
    (same : Value.Rearranged defaults edge.encode value) : Reads form.reader value edge := by
  obtain ⟨others, rfl, covers⟩ := Covers.of_rearranged (by simp) same
  refine Json.Form.reads_of_covers edge.drafts covers (by simp [drafts, form]) ?_ ?_
  · intro name old seen member fresh
    simp only [List.mem_cons, Prod.mk.injEq, List.not_mem_nil, or_false] at member
    obtain ⟨rfl, rfl⟩ | ⟨rfl, rfl⟩ | ⟨rfl, rfl⟩ := member <;>
      refine ⟨_, Json.Form.choose_eq rfl (by simp [drafts, fresh]), ?_⟩ <;> rintro _ ⟨⟩
    · simpa [drafts] using (Json.reads_text edge.source).map _
    · simpa [drafts] using (Json.reads_text edge.target).map _
    · simpa [drafts] using (Json.reads_choice edge.access.optionNamed_word).map _
  · intro seen silent
    simp only [OnlyDefaultsMissing, List.forall_mem_cons] at silent
    obtain ⟨source, target, access, -⟩ := silent
    have sourceSeen : "source" ∈ seen := Not.imp_symm source (by simp [defaults])
    have targetSeen : "target" ∈ seen := Not.imp_symm target (by simp [defaults])
    simp only [form, drafts, Json.given_of_mem, sourceSeen, targetSeen]
    rw [Json.getD_given fun fresh => Access.eq_of_mem_defaults (access fresh)]
    rfl

end Edge

namespace Canvas

def drafts (canvas : Canvas) (seen : List String) : Draft where
  nodes := given "nodes" seen canvas.nodes
  edges := given "edges" seen canvas.edges

theorem reads_rearranged (canvas : Canvas) {value : Value}
    (same : Value.Rearranged defaults canvas.encode value) : Reads form.reader value canvas := by
  obtain ⟨others, rfl, covers⟩ := Covers.of_rearranged (by simp) same
  refine Json.Form.reads_of_covers canvas.drafts covers (by simp [drafts, form]) ?_ ?_
  · intro name old seen member fresh
    simp only [List.mem_cons, Prod.mk.injEq, List.not_mem_nil, or_false] at member
    obtain ⟨rfl, rfl⟩ | ⟨rfl, rfl⟩ := member <;>
      refine ⟨_, Json.Form.choose_eq rfl (by simp [drafts, fresh]), fun value same => ?_⟩
    · have nodes := Json.reads_list_rearranged (fun node _ => node.reads_rearranged 2) same
      simpa [drafts] using nodes.map _
    · have edges := Json.reads_list_rearranged (fun edge _ => edge.reads_rearranged) same
      simpa [drafts] using edges.map _
  · intro seen silent
    simp only [OnlyDefaultsMissing, List.forall_mem_cons] at silent
    obtain ⟨nodes, edges, -⟩ := silent
    simp only [form, drafts]
    rw [Json.getD_given, Json.getD_given]
    · intro fresh
      simpa [defaults] using edges fresh
    · intro fresh
      simpa [defaults] using nodes fresh

theorem reads_encode (canvas : Canvas) : Reads form.reader canvas.encode canvas :=
  canvas.reads_rearranged (.refl _)

/-- Every canvas is read back from its document, whatever its texts hold. -/
theorem ofDocument_document (canvas : Canvas) : ofDocument canvas.document = .ok canvas :=
  Json.document_pretty canvas.reads_encode

/-- The order of the members does not matter, nor do members left out that hold a default, nor does
the white space between the parts of the document. -/
theorem ofDocument_rearranged (canvas : Canvas) {value : Value} {before text after : List Char}
    (same : Value.Rearranged defaults canvas.encode value) (front : Json.IsBlankText before)
    (spelled : value.Spells text) (back : Json.IsBlankText after) :
    ofDocument (.ofList (before ++ (text ++ after))) = .ok canvas :=
  Json.document_spelled (canvas.reads_rearranged same) front spelled back

def selfRelated : Canvas where
  nodes := [⟨"u", "Ann", "Contoso", .auth ⟨.user, .standAlone, false⟩⟩]
  edges := [⟨"u", "u", .standard⟩]

def selfRelatedRearranged : Value :=
  .object [("edges", .list [.object [("target", .text "u"), ("source", .text "u")]]),
    ("nodes", .list [.object [
      ("kind", .object [("auth_type", .text "AadUser"), ("type", .text "AUTH")]),
      ("id", .text "u"), ("name", .text "Ann"), ("tenant", .text "Contoso")]])]

theorem rearranged_selfRelated : Value.Rearranged defaults selfRelated.encode selfRelatedRearranged := by
  have kind : Value.Rearranged defaults (Kind.encode (.auth ⟨.user, .standAlone, false⟩))
      (.object [("auth_type", .text "AadUser"), ("type", .text "AUTH")]) :=
    .object [("auth_type", .text "AadUser"), ("type", .text "AUTH")]
      [("variant", .text "StandAlone"), ("is_jit", .boolean false)] (.swap _ _ _)
      (by simp [defaults, Dependency.word]) rfl (.cons (.text _) (.cons (.text _) .nil))
  have node : Value.Rearranged defaults
      (Node.encode ⟨"u", "Ann", "Contoso", .auth ⟨.user, .standAlone, false⟩⟩)
      (.object [("kind", .object [("auth_type", .text "AadUser"), ("type", .text "AUTH")]),
        ("id", .text "u"), ("name", .text "Ann"), ("tenant", .text "Contoso")]) := by
    refine .object [("kind", Kind.encode (.auth ⟨.user, .standAlone, false⟩)),
      ("id", .text "u"), ("name", .text "Ann"), ("tenant", .text "Contoso")] [] ?_
      (by simp) rfl (.cons kind (.cons (.text _) (.cons (.text _) (.cons (.text _) .nil))))
    exact List.perm_append_singleton ("kind", _) [_, _, _]
  have edge : Value.Rearranged defaults (Edge.encode ⟨"u", "u", .standard⟩)
      (.object [("target", .text "u"), ("source", .text "u")]) :=
    .object [("target", .text "u"), ("source", .text "u")] [("access", .text "Standard")]
      (.swap _ _ _) (by simp [defaults, Access.word]) rfl (.cons (.text _) (.cons (.text _) .nil))
  refine .object [("edges", .list (selfRelated.edges.map Edge.encode)),
    ("nodes", .list (selfRelated.nodes.map Node.encode))] [] (.swap _ _ _) (by simp) rfl ?_
  exact .cons (.list (.cons edge .nil)) (.cons (.list (.cons node .nil)) .nil)

theorem ofDocument_rearranged_selfRelated :
    Value.Rearranged defaults selfRelated.encode selfRelatedRearranged ∧
      ofDocument (.ofList ([] ++ (selfRelatedRearranged.layout 0 ++ ['\n']))) = .ok selfRelated :=
  ⟨rearranged_selfRelated, selfRelated.ofDocument_rearranged rearranged_selfRelated Json.isBlankText_nil
    (selfRelatedRearranged.spells_layout 0) (by simp [Json.IsBlankText, Json.isBlank])⟩

end Canvas

end AccessCanvas

import AccessCanvas.Artifact.Node
import AccessCanvas.Json.Record

/-!
Artifacts in documents. What an artifact is stands in an object whose member `type` says which
other members belong to it. That member may come last, so the others are kept as values until the
object ends; how deeply they may be nested depends on where the artifact stands.
-/

namespace AccessCanvas

open Json (Value Fault)

namespace Principal

structure Draft where
  type : Option PrincipalType := none
  dependency : Option Dependency := none
  justInTime : Option Bool := none

def form : Json.Form Draft (Value → Except Fault Draft) Principal where
  title := "struct AuthArtifact"
  blank := {}
  members :=
    [⟨"auth_type", (·.type.isSome), fun sofar value =>
        (value.readChoice (Text.byWord PrincipalType.word PrincipalType.all)).map
          fun type => { sofar with type := some type }⟩,
      ⟨"variant", (·.dependency.isSome), fun sofar value =>
        (value.readChoice (Text.byWord Dependency.word Dependency.all)).map
          fun dependency => { sofar with dependency := some dependency }⟩,
      ⟨"is_jit", (·.justInTime.isSome), fun sofar value =>
        value.readBoolean.map fun justInTime => { sofar with justInTime := some justInTime }⟩]
  complete absent draft :=
    (Json.demanded absent 0 "auth_type" draft.type).map fun type =>
      ⟨type, draft.dependency.getD .standAlone, draft.justInTime.getD false⟩

def members (principal : Principal) : List (String × Value) :=
  [("auth_type", .text principal.type.word), ("variant", .text principal.dependency.word),
    ("is_jit", .boolean principal.justInTime)]

end Principal

namespace Resource

structure Draft where
  environment : Option Environment := none
  purpose : Option Purpose := none

def form : Json.Form Draft (Value → Except Fault Draft) Resource where
  title := "struct ResourceArtifact"
  blank := {}
  members :=
    [⟨"resource_type", (·.environment.isSome), fun sofar value =>
        (value.readChoice (Text.byWord Environment.word Environment.all)).map
          fun environment => { sofar with environment := some environment }⟩,
      ⟨"variant", (·.purpose.isSome), fun sofar value =>
        (value.readChoice (Text.byWord Purpose.word Purpose.all)).map
          fun purpose => { sofar with purpose := some purpose }⟩]
  complete absent draft :=
    (Json.demanded absent 0 "resource_type" draft.environment).map fun environment =>
      ⟨environment, draft.purpose.getD .app⟩

def members (resource : Resource) : List (String × Value) :=
  [("resource_type", .text resource.environment.word), ("variant", .text resource.purpose.word)]

end Resource

namespace Kind

def tag : String := "type"

def tagged : List (String × (Value → Except Fault Kind)) :=
  [("AUTH", fun value => (Principal.form.ofValue value).map .auth),
    ("RESOURCE", fun value => (Resource.form.ofValue value).map .resource)]

structure Draft where
  read : Option (Value → Except Fault Kind) := none
  others : List (String × Value) := []

def chooseMember (inner : Json.Reader Value) (name : String) (sofar : Draft) :
    Except Fault (Json.Reader Draft) :=
  if name = tag then
    if sofar.read.isSome then .error (.duplicateField tag)
    else .ok ((Json.variant tagged).map fun read => { sofar with read := some read })
  else .ok (inner.map fun value => { sofar with others := sofar.others ++ [(name, value)] })

def reader (inner : Json.Reader Value) : Json.Reader Kind where
  run text :=
    match Json.skipBlanks text with
    | [] => .error .endOfValue
    | c :: rest =>
      if c = '{' then
        match Json.members (chooseMember inner) true {} rest with
        | .error fault => .error fault
        | .ok (draft, after) =>
          match draft.read with
          | none => .error (.missingField tag)
          | some read => (read (.object draft.others)).map fun kind => (kind, after)
      else if c = '[' then
        match Json.nextItem true rest with
        | .error fault => .error fault
        | .ok (.finished _) => .error (.missingField tag)
        | .ok (.entry start) =>
          match (Json.variant tagged).run start with
          | .error fault => .error fault
          | .ok (read, afterTag) =>
            match Json.items inner false afterTag with
            | .error fault => .error fault
            | .ok (values, after) => (read (.list values)).map fun kind => (kind, after)
      else .error (Json.unexpected "internally tagged enum ArtifactKind" (c :: rest))
  consumes {text _ _} read := by
    have shorter := Json.length_skipBlanks_le text
    split at read
    · cases read
    · next seen =>
      rw [seen, List.length_cons] at shorter
      split at read
      · split at read
        · cases read
        · next found =>
          split at read
          · cases read
          · obtain ⟨kind, -, same⟩ := Text.exists_of_map_eq_ok read
            cases same
            have inside := Json.length_members_lt found
            omega
      · split at read
        · split at read
          · cases read
          · cases read
          · next started =>
            split at read
            · cases read
            · next named =>
              split at read
              · cases read
              · next found =>
                obtain ⟨kind, -, same⟩ := Text.exists_of_map_eq_ok read
                cases same
                have first := Json.nextItem_entry started
                have second := (Json.variant tagged).consumes named
                have third := Json.length_items_lt found
                omega
        · cases read

def encode : Kind → Value
  | .auth principal => .object ((tag, .text "AUTH") :: principal.members)
  | .resource details => .object ((tag, .text "RESOURCE") :: details.members)

def ofDocument (written : String) : Except Fault Kind :=
  Json.document (reader (Json.any (Json.maxDepth - 1))) written

end Kind

namespace Node

structure Draft where
  id : Option ArtifactId := none
  name : Option String := none
  tenant : Option String := none
  kind : Option Kind := none

def form (outer : Nat) : Json.Form Draft (Json.Reader Draft) Node where
  title := "struct ArtifactNode"
  blank := {}
  members :=
    [⟨"id", (·.id.isSome), fun sofar => Json.text.map fun id => { sofar with id := some id }⟩,
      ⟨"name", (·.name.isSome), fun sofar =>
        Json.text.map fun name => { sofar with name := some name }⟩,
      ⟨"tenant", (·.tenant.isSome), fun sofar =>
        Json.text.map fun tenant => { sofar with tenant := some tenant }⟩,
      ⟨"kind", (·.kind.isSome), fun sofar =>
        (Kind.reader (Json.any (Json.maxDepth - 2 - outer))).map
          fun kind => { sofar with kind := some kind }⟩]
  complete absent draft :=
    match Json.demanded absent 0 "id" draft.id with
    | .error fault => .error fault
    | .ok id =>
      match Json.demanded absent 1 "name" draft.name with
      | .error fault => .error fault
      | .ok name =>
        match Json.demanded absent 2 "tenant" draft.tenant with
        | .error fault => .error fault
        | .ok tenant =>
          (Json.demanded absent 3 "kind" draft.kind).map fun kind => ⟨id, name, tenant, kind⟩

def encode (node : Node) : Value :=
  .object [("id", .text node.id), ("name", .text node.name), ("tenant", .text node.tenant),
    ("kind", node.kind.encode)]

def ofDocument (written : String) : Except Fault Node :=
  Json.document (form 0).reader written

end Node

end AccessCanvas

import AccessCanvas.Canvas.Basic

/-! Sample artifacts and canvases: two small ones that are told as stories, and regular shapes. -/

namespace AccessCanvas.Sample

inductive Role where
  | user
  | jitGroup
  | certificate
  | jitApplication
  | app
  | vault
deriving DecidableEq, Repr

def Role.kind : Role → Kind
  | .user => .auth { type := .user }
  | .jitGroup => .auth { type := .securityGroup, justInTime := true }
  | .certificate => .auth { type := .certificate }
  | .jitApplication => .auth { type := .application, justInTime := true }
  | .app => .resource { environment := .nonProduction }
  | .vault => .resource { environment := .production, purpose := .secretHolder }

def artifact (role : Role) (name tenant : String) : Except VacantAttribute Node :=
  Node.make name tenant role.kind

def mainTenant : String := "contoso"

def otherTenant : String := "fabrikam"

def named (name : String) : Except VacantAttribute Node :=
  (artifact .app name mainTenant).map (·.withId name)

def namedNode (name : String) : Node :=
  (Node.ofParts name mainTenant Role.app.kind).withId name

def chainWithIsland : Canvas where
  nodes := ["a", "b", "c", "d"].map namedNode
  edges := [⟨"a", "b", .standard⟩, ⟨"b", "c", .standard⟩]

def accessGraph : Canvas :=
  let alice := Node.ofParts "alice" mainTenant Role.user.kind
  let ops := Node.ofParts "ops" mainTenant Role.jitGroup.kind
  let certificate := Node.ofParts "signing-cert" mainTenant Role.certificate.kind
  let api := Node.ofParts "api-app" mainTenant Role.app.kind
  let secrets := Node.ofParts "secrets-vault" mainTenant Role.vault.kind
  let bob := Node.ofParts "bob" otherTenant Role.user.kind
  let billing := Node.ofParts "billing-app" otherTenant Role.app.kind
  { nodes := [alice, ops, certificate, api, secrets, bob, billing]
    edges :=
      [.connect alice ops, .connect ops certificate, .connect certificate api,
        .connect api secrets, .connect bob billing] }

inductive Shape where
  | chain
  | cycle
  | star
  | tree
  | complete
deriving DecidableEq, Repr

namespace Shape

def word : Shape → String
  | .chain => "chain"
  | .cycle => "cycle"
  | .star => "star"
  | .tree => "tree"
  | .complete => "complete"

def all : List Shape :=
  [.chain, .cycle, .star, .tree, .complete]

def pairs (shape : Shape) (count : Nat) : List (Nat × Nat) :=
  let numbers := List.range count
  match shape with
  | .chain => numbers.tail.map fun number => (number - 1, number)
  | .cycle => numbers.map fun number => (number, (number + 1) % count)
  | .star => numbers.tail.map fun number => (0, number)
  | .tree => numbers.tail.map fun number => ((number - 1) / 2, number)
  | .complete =>
    numbers.flatMap fun source => (numbers.filter (· != source)).map fun target => (source, target)

def nodeName (number : Nat) : String :=
  "n" ++ toString number

def canvas (shape : Shape) (count : Nat) : Canvas where
  nodes := (List.range count).map fun number => namedNode (nodeName number)
  edges := (shape.pairs count).map fun (source, target) =>
    ⟨nodeName source, nodeName target, .standard⟩

end Shape

end AccessCanvas.Sample

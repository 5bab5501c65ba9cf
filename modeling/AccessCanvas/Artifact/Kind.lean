/-!
What an artifact is, an identity principal or a resource, and the two attributes of it that a query
can select on. Each enumeration has the word a document writes for a value, and some a label.
-/

namespace AccessCanvas

inductive Attribute where
  | name
  | tenant
deriving DecidableEq, Repr

def Attribute.label : Attribute → String
  | .name => "Name"
  | .tenant => "Tenant"

inductive PrincipalType where
  | securityGroup
  | user
  | application
  | certificate
deriving DecidableEq, Repr

namespace PrincipalType

def word : PrincipalType → String
  | .securityGroup => "AadSecurityGroup"
  | .user => "AadUser"
  | .application => "AadApp"
  | .certificate => "Certificate"

def label : PrincipalType → String
  | .securityGroup => "AAD Security Group"
  | .user => "AAD User"
  | .application => "AAD App"
  | .certificate => "Certificate"

def all : List PrincipalType :=
  [.securityGroup, .user, .application, .certificate]

end PrincipalType

inductive Dependency where
  | standAlone
  | authDependent
  | resourceDependent
deriving DecidableEq, Repr

namespace Dependency

def word : Dependency → String
  | .standAlone => "StandAlone"
  | .authDependent => "AuthDependent"
  | .resourceDependent => "ResourceDependent"

def all : List Dependency :=
  [.standAlone, .authDependent, .resourceDependent]

end Dependency

inductive Environment where
  | nonProduction
  | production
deriving DecidableEq, Repr

namespace Environment

def word : Environment → String
  | .nonProduction => "NonProduction"
  | .production => "Production"

def label : Environment → String
  | .nonProduction => "Non Production Resource"
  | .production => "Production Resource"

def all : List Environment :=
  [.nonProduction, .production]

end Environment

inductive Purpose where
  | app
  | secretHolder
deriving DecidableEq, Repr

namespace Purpose

def word : Purpose → String
  | .app => "App"
  | .secretHolder => "SecretHolder"

def all : List Purpose :=
  [.app, .secretHolder]

end Purpose

structure Principal where
  type : PrincipalType
  dependency : Dependency := .standAlone
  justInTime : Bool := false
deriving DecidableEq, Repr

structure Resource where
  environment : Environment
  purpose : Purpose := .app
deriving DecidableEq, Repr

inductive Kind where
  | auth (principal : Principal)
  | resource (resource : Resource)
deriving DecidableEq, Repr

namespace Kind

def label : Kind → String
  | .auth principal => principal.type.label
  | .resource details => details.environment.label

def justInTime : Kind → Bool
  | .auth principal => principal.justInTime
  | .resource _ => false

end Kind

end AccessCanvas

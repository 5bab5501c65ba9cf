import AccessCanvas.Canvas.Edge

/-! The settings of a search and of the log that is kept beside it. -/

namespace AccessCanvas

inductive Profile where
  | development
  | production
  | test
deriving DecidableEq, Repr

namespace Profile

def word : Profile → String
  | .development => "development"
  | .production => "production"
  | .test => "test"

def all : List Profile :=
  [.development, .production, .test]

def defaultFilter : Profile → String
  | .development => "axes=debug"
  | .production => "axes=info"
  | .test => "off"

end Profile

structure SearchSettings where
  /-- The least number of characters in a text that is answered. -/
  minQueryLength : Nat := 3
  orientation : Orientation := .undirected
deriving DecidableEq, Repr

structure LoggingSettings where
  profile : Profile := .development
deriving DecidableEq, Repr

structure Settings where
  search : SearchSettings := {}
  logging : LoggingSettings := {}
deriving DecidableEq, Repr

namespace Settings

def withMinQueryLength (settings : Settings) (length : Nat) : Settings :=
  { settings with search.minQueryLength := length }

def withOrientation (settings : Settings) (orientation : Orientation) : Settings :=
  { settings with search.orientation := orientation }

def withProfile (settings : Settings) (profile : Profile) : Settings :=
  { settings with logging.profile := profile }

end Settings

end AccessCanvas

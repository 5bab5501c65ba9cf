import AccessCanvas.Relation.Explorer
import AccessCanvas.Settings.Basic
import AccessCanvas.Text.Blank

/-!
What of a canvas is shown while a text is typed. A text that is too short shows everything. A
longer one shows the artifacts that are answered themselves, not all that share an id with one: of
several artifacts with the same id only the last takes part in the search.
-/

namespace AccessCanvas

structure Policy where
  minQueryLength : Nat := 3
  explorer : Explorer := {}

namespace Policy

def ofSettings (settings : SearchSettings) : Policy :=
  ⟨settings.minQueryLength, { orientation := settings.orientation }⟩

def withOrientation (policy : Policy) (orientation : Orientation) : Policy :=
  { policy with explorer.orientation := orientation }

def answers (policy : Policy) (raw : String) : Bool :=
  policy.minQueryLength ≤ (Text.trim raw.toList).length

def shown (policy : Policy) (canvas : Canvas) (raw : String) : List Placed :=
  if policy.answers raw then
    let positions := Std.HashSet.ofList ((policy.explorer.places canvas raw).map (·.2))
    canvas.nodes.zipIdx.filter (positions.contains ·.2)
  else canvas.nodes.zipIdx

def filter (policy : Policy) (canvas : Canvas) (raw : String) : List Node :=
  (policy.shown canvas raw).map (·.1)

end Policy

end AccessCanvas

import AccessCanvas.Canvas.Document
import AccessCanvas.Files
import AccessCanvas.Settings.Document

/-!
Canvases and settings from files, which `read` gives by their paths. Main statement: they are loaded
exactly if the file is a text that says them, a canvas with one warning for each edge that lacks an
end.
-/

namespace AccessCanvas

inductive LoadFault where
  | unreadable (path : String) (fault : FileFault)
  | canvas (fault : Json.Fault)
  | settings (fault : Settings.Fault)

namespace LoadFault

/-- Where a fault is in its file: its line and its column from 1, or line 0 if they are not told, and
the lines that are shown of the file. -/
structure Place where
  line : Nat := 0
  column : Nat := 0
  excerpt : String := ""

def heading : LoadFault → String
  | .unreadable path _ => "io error reading " ++ path ++ ": "
  | .canvas _ => Canvas.faultHeading
  | .settings _ => Settings.faultHeading

def words : LoadFault → String
  | .unreadable _ fault => fault.message
  | .canvas fault => fault.message
  | .settings fault => fault.text

def message (fault : LoadFault) : String :=
  fault.heading ++ fault.words

def detail (fault : LoadFault) (place : Place) : String :=
  match fault with
  | .unreadable .. => fault.words
  | .canvas _ =>
    fault.words ++ if place.line = 0 then ""
      else " at line " ++ toString place.line ++ " column " ++ toString place.column
  | .settings _ => place.excerpt ++ fault.words ++ "\n"

end LoadFault

variable (read : String → Except FileFault String)

def loadText (path : String) : Except LoadFault String :=
  match read path with
  | .error fault => .error (.unreadable path fault)
  | .ok text => .ok text

def Canvas.warnings (canvas : Canvas) (path : String) : List String :=
  canvas.dangling.map fun edge =>
    "edge " ++ edge.id ++ " references a node missing from " ++ path

/-- A canvas from a file, and what the log was told while it was loaded. -/
structure Canvas.Loaded extends Canvas where
  warned : List String
deriving DecidableEq, Repr

def Canvas.load (path : String) : Except LoadFault Canvas.Loaded :=
  match loadText read path with
  | .error fault => .error fault
  | .ok text =>
    match Canvas.ofDocument text with
    | .error fault => .error (.canvas fault)
    | .ok canvas => .ok ⟨canvas, canvas.warnings path⟩

def Settings.load (path : String) : Except LoadFault Settings :=
  match loadText read path with
  | .error fault => .error fault
  | .ok text =>
    match Settings.ofText text with
    | .error fault => .error (.settings fault)
    | .ok settings => .ok settings

section Load

variable {read} {path : String}

theorem loadText_eq_ok_iff {text : String} :
    loadText read path = .ok text ↔ read path = .ok text := by
  rw [loadText]
  cases read path <;> simp

theorem Canvas.load_eq_ok_iff {canvas : Canvas} {warned : List String} :
    Canvas.load read path = .ok ⟨canvas, warned⟩ ↔
      (∃ text, read path = .ok text ∧ Canvas.ofDocument text = .ok canvas) ∧
        warned = canvas.warnings path := by
  simp only [← loadText_eq_ok_iff, Canvas.load]
  rcases loadText read path with fault | text
  · simp
  · cases found : Canvas.ofDocument text with
    | error fault => simp [found]
    | ok written =>
        simp only [found, Except.ok.injEq, Loaded.mk.injEq, exists_eq_left', eq_comm (a := warned)]
        refine and_congr_right fun same => ?_
        rw [same]

theorem Canvas.load_of_unreadable {fault : FileFault} (unread : read path = .error fault) :
    Canvas.load read path = .error (.unreadable path fault) := by
  simp only [Canvas.load, loadText, unread]

theorem Canvas.load_of_ofDocument_error {text : String} {fault : Json.Fault}
    (found : read path = .ok text) (wrong : Canvas.ofDocument text = .error fault) :
    Canvas.load read path = .error (.canvas fault) := by
  simp only [Canvas.load, loadText, found, wrong]

theorem Settings.load_eq_ok_iff {settings : Settings} :
    Settings.load read path = .ok settings ↔
      ∃ text, read path = .ok text ∧ Settings.ofText text = .ok settings := by
  simp only [← loadText_eq_ok_iff, Settings.load]
  rcases loadText read path with fault | text
  · simp
  · cases found : Settings.ofText text <;> simp [found]

theorem Settings.load_of_unreadable {fault : FileFault} (unread : read path = .error fault) :
    Settings.load read path = .error (.unreadable path fault) := by
  simp only [Settings.load, loadText, unread]

theorem Settings.load_of_ofText_error {text : String} {fault : Settings.Fault}
    (found : read path = .ok text) (wrong : Settings.ofText text = .error fault) :
    Settings.load read path = .error (.settings fault) := by
  simp only [Settings.load, loadText, found, wrong]

end Load

end AccessCanvas

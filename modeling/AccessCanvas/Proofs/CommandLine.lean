import AccessCanvas.CommandLine
import AccessCanvas.Proofs.Canvas.Document
import AccessCanvas.Proofs.Relation.Dangling
import AccessCanvas.Sample

/-!
What the command line does. Main statement: a search prints all that is shown, or it fails and
prints nothing; it fails exactly if one of its files does not say what it should, and reports the
first of them that does not, the settings before the canvas.
-/

namespace AccessCanvas

namespace CommandLine

namespace Arguments

def IsLong (argument name : String) : Prop :=
  argument.toList = '-' :: '-' :: name.toList ∧ name.toList ≠ [] ∧
    longOption name.toList = (name, none) ∧ name ≠ "help"

instance (argument name : String) : Decidable (IsLong argument name) := by
  unfold IsLong
  infer_instance

theorem IsLong.exists_letters {argument name : String} (long : IsLong argument name) :
    ∃ c letters, argument.toList = '-' :: '-' :: c :: letters ∧
      longOption (c :: letters) = (name, none) ∧ name ≠ "help" := by
  obtain ⟨dashed, filled, alone, other⟩ := long
  obtain ⟨c, letters, same⟩ := List.exists_cons_of_ne_nil filled
  rw [same] at dashed alone
  exact ⟨c, letters, dashed, alone, other⟩

section Read

variable {form : Form} {sofar : Arguments} {argument name : String} (long : IsLong argument name)
include long

theorem read_flag (known : name ∈ form.flags) (fresh : name ∉ sofar.flags) (given : Bool)
    (later : List String) :
    read form sofar ((if given then [argument] else []) ++ later) =
      read form { sofar with flags := sofar.flags ++ if given then [name] else [] } later := by
  cases given with
  | false => simp
  | true =>
      obtain ⟨c, letters, dashed, alone, other⟩ := long.exists_letters
      rw [if_pos rfl, if_pos rfl, List.singleton_append, read]
      simp [dashed, alone, other, known, fresh]

theorem read_option (unflagged : name ∉ form.flags) (known : name ∈ form.options)
    (fresh : sofar.option? name = none) {value : String} (usable : isValue value = true)
    (later : List String) :
    read form sofar (argument :: value :: later) =
      read form { sofar with options := sofar.options ++ [(name, value)] } later := by
  obtain ⟨c, letters, dashed, alone, other⟩ := long.exists_letters
  rw [read]
  simp [dashed, alone, other, unflagged, known, fresh, usable]

theorem read_optional (unflagged : name ∉ form.flags) (known : name ∈ form.options)
    (fresh : sofar.option? name = none) {value : Option String}
    (usable : ∀ given ∈ value.toList, isValue given = true) (later : List String) :
    read form sofar (value.toList.flatMap ([argument, ·]) ++ later) =
      read form { sofar with options := sofar.options ++ value.toList.map (name, ·) } later := by
  cases value with
  | none => simp
  | some given =>
      exact read_option long unflagged known fresh (usable given List.mem_cons_self) later

end Read

end Arguments

namespace SearchRequest

def arguments (request : SearchRequest) : List String :=
  "search" :: "--canvas" :: request.canvas :: "--query" :: request.query ::
    (request.settings.toList.flatMap (["--config", ·]) ++
      ((if request.directed then ["--directed"] else []) ++
        if request.json then ["--json"] else []))

def values (request : SearchRequest) : List String :=
  [request.canvas, request.query] ++ request.settings.toList

end SearchRequest

open Arguments (isValue IsLong)

theorem read_arguments {request : SearchRequest}
    (usable : ∀ value ∈ request.values, isValue value = true) :
    Arguments.read Command.searchForm {} request.arguments.tail = .given {
      flags := (if request.directed then ["directed"] else []) ++
        if request.json then ["json"] else []
      options := [("canvas", request.canvas), ("query", request.query)] ++
        request.settings.toList.map ("config", ·) } := by
  simp only [SearchRequest.values, List.forall_mem_append, List.forall_mem_cons] at usable
  obtain ⟨⟨canvas, query, -⟩, settings⟩ := usable
  rw [SearchRequest.arguments, List.tail_cons,
    ← List.append_nil (if request.json = true then ["--json"] else []),
    Arguments.read_option (show IsLong "--canvas" "canvas" by decide) (by decide) (by decide)
      (by simp [Arguments.option?]) canvas,
    Arguments.read_option (show IsLong "--query" "query" by decide) (by decide) (by decide)
      (by simp [Arguments.option?]) query,
    Arguments.read_optional (show IsLong "--config" "config" by decide) (by decide) (by decide)
      (by simp [Arguments.option?]) settings,
    Arguments.read_flag (show IsLong "--directed" "directed" by decide) (by decide) (by simp),
    Arguments.read_flag (show IsLong "--json" "json" by decide) (by decide) ?_, Arguments.read]
  · simp
  · cases request.directed <;> simp

theorem ofArguments_arguments {request : SearchRequest}
    (usable : ∀ value ∈ request.values, isValue value = true) :
    Command.ofArguments request.arguments = some (.search request) := by
  have search : Command.ofArguments request.arguments =
      Command.ofSearch request.arguments.tail := by
    rw [SearchRequest.arguments, Command.ofArguments, if_neg (by decide), if_pos rfl,
      List.tail_cons]
  rw [search, Command.ofSearch, read_arguments usable]
  obtain ⟨canvas, query, settings, directed, json⟩ := request
  cases settings <;> cases directed <;> cases json <;> simp [Arguments.option?]

def nodesOfDocument (written : String) : Except Json.Fault (List Node) :=
  Json.document (Json.list (Node.form 1).reader) written

theorem nodesOfDocument_ofLines (nodes : List Node) :
    nodesOfDocument (Outcome.ofLines [nodesDocument nodes]).output = .ok nodes := by
  have output : (Outcome.ofLines [nodesDocument nodes]).output = nodesDocument nodes ++ "\n" := by
    simp [Outcome.ofLines, String.join]
  rw [output]
  refine Json.document_pretty_append (Json.reads_list_map fun node _ => node.reads_encode 1) ?_
  intro c member
  rw [List.mem_singleton.mp member]
  rfl

section Search

variable (read : String → Except FileFault String) (locate : Locator)

namespace SearchRequest

/-- The settings are what the file says that the request names, or the usual ones if it names
none. -/
def HasSettings (request : SearchRequest) (settings : Settings) : Prop :=
  match request.settings with
  | none => settings = {}
  | some path => ∃ text, read path = .ok text ∧ Settings.ofText text = .ok settings

def HasCanvas (request : SearchRequest) (canvas : Canvas) : Prop :=
  ∃ text, read request.canvas = .ok text ∧ Canvas.ofDocument text = .ok canvas

def IsServed (request : SearchRequest) : Prop :=
  (∃ settings, request.HasSettings read settings) ∧ ∃ canvas, request.HasCanvas read canvas

def policy (request : SearchRequest) (settings : Settings) : Policy :=
  { minQueryLength := settings.search.minQueryLength
    explorer :=
      { orientation := if request.directed then .directed else settings.search.orientation } }

def printed (request : SearchRequest) (shown : List Node) : Outcome :=
  .ofLines (if request.json then [nodesDocument shown] else shown.map Node.id)

variable {read locate} {request : SearchRequest}

theorem loadSettings_eq_ok_iff {settings : Settings} :
    request.loadSettings read locate = .ok settings ↔ request.HasSettings read settings := by
  rw [loadSettings, HasSettings]
  cases request.settings with
  | none => simp [eq_comm]
  | some path =>
      simp only [← Settings.load_eq_ok_iff]
      cases Settings.load read path <;> simp

theorem loadSettings_eq_error {outcome : Outcome}
    (failed : request.loadSettings read locate = .error outcome) :
    ∃ path fault, outcome = .ofFault (locate path fault) path fault := by
  rw [loadSettings] at failed
  split at failed
  · cases failed
  · next path _ =>
    split at failed
    · next fault _ => exact ⟨path, fault, (Except.error.inj failed).symm⟩
    · cases failed

end SearchRequest

namespace Outcome

/-- The complaint names the path, and then gives two causes: what was told of the file there with
the words for its kind, and alone. -/
def Reports (outcome : Outcome) (path kind told : String) : Prop :=
  let indented := fun text : String =>
    String.ofList (text.toList.flatMap fun c =>
      if c = '\n' then '\n' :: List.replicate 7 ' ' else [c])
  outcome.complaint = some ("Error: loading " ++ path ++ "\n\nCaused by:\n    0: " ++
    indented (kind ++ told) ++ "\n    1: " ++ indented told)

theorem reports_ofFault (place : LoadFault.Place) (path : String) (fault : LoadFault) :
    (ofFault place path fault).Reports path fault.heading (fault.detail place) := by
  have start : "Error: loading " = "Error: " ++ "loading " := by decide
  have first (cause : String) : numbered cause 0 = "    0: " ++ indented cause := rfl
  have second (cause : String) : numbered cause 1 = "    1: " ++ indented cause := rfl
  have below : "\n\nCaused by:\n    0: " = "\n\nCaused by:" ++ ("\n" ++ "    0: ") := by decide
  have last : "\n    1: " = "\n" ++ "    1: " := by decide
  rw [Reports, ofFault, report, start, below, last, List.mapIdx_cons, List.mapIdx_cons,
    List.mapIdx_nil, first, second]
  simp only [String.join_cons, String.join_nil, String.append_assoc, String.append_empty]
  rfl

end Outcome

variable {read locate} {request : SearchRequest}

theorem runSearch_of_loaded {settings : Settings} {canvas : Canvas}
    (configured : request.HasSettings read settings) (loaded : request.HasCanvas read canvas) :
    runSearch read locate request =
      { request.printed ((request.policy settings).filter canvas request.query) with
        warned := canvas.warnings request.canvas } := by
  have policy : (if request.directed then
      (Policy.ofSettings settings.search).withOrientation .directed
        else .ofSettings settings.search) = request.policy settings := by
    rw [SearchRequest.policy]
    cases request.directed <;> rfl
  rw [runSearch, SearchRequest.loadSettings_eq_ok_iff.mpr configured]
  simp only [Canvas.load_eq_ok_iff.mpr ⟨loaded, rfl⟩, policy]
  rfl

theorem code_runSearch_of_isServed (served : request.IsServed read) :
    (runSearch read locate request).code = 0 := by
  obtain ⟨⟨settings, configured⟩, canvas, loaded⟩ := served
  rw [runSearch_of_loaded configured loaded]
  rfl

variable (locate) in
theorem exists_fault_of_not_isServed (unserved : ¬request.IsServed read) :
    ∃ path fault, runSearch read locate request = .ofFault (locate path fault) path fault := by
  cases configured : request.loadSettings read locate with
  | error outcome =>
      obtain ⟨path, fault, rfl⟩ := SearchRequest.loadSettings_eq_error configured
      exact ⟨path, fault, by rw [runSearch, configured]⟩
  | ok settings =>
      cases loaded : Canvas.load read request.canvas with
      | error fault => exact ⟨request.canvas, fault, by simp only [runSearch, configured, loaded]⟩
      | ok canvas =>
          have served : request.IsServed read :=
            ⟨⟨settings, SearchRequest.loadSettings_eq_ok_iff.mp configured⟩, canvas.toCanvas,
              (Canvas.load_eq_ok_iff.mp loaded).1⟩
          exact absurd served unserved

variable (locate) in
theorem reports_of_settings_fault {path : String} {fault : LoadFault}
    (named : request.settings = some path) (failed : Settings.load read path = .error fault) :
    (runSearch read locate request).Reports path fault.heading
      (fault.detail (locate path fault)) := by
  simp only [runSearch, SearchRequest.loadSettings, named, failed]
  exact Outcome.reports_ofFault _ _ _

variable (locate) in
theorem reports_of_canvas_fault {settings : Settings} {fault : LoadFault}
    (configured : request.HasSettings read settings)
    (failed : Canvas.load read request.canvas = .error fault) :
    (runSearch read locate request).Reports request.canvas fault.heading
      (fault.detail (locate request.canvas fault)) := by
  simp only [runSearch, SearchRequest.loadSettings_eq_ok_iff.mpr configured, failed]
  exact Outcome.reports_ofFault _ _ _

end Search

/-- A request that is written is understood. However it was written, it succeeds exactly if its
files say what they should; then it prints the artifacts that are shown and warns of the edges that
lack an end. Else it prints nothing. What is wrong with the settings is reported whatever the canvas
is, and what is wrong with the canvas if there is nothing wrong with the settings. -/
theorem run_search (read : String → Except FileFault String) (locate : Locator) :
    (∀ request : SearchRequest, (∀ value ∈ request.values, isValue value = true) →
      Command.ofArguments request.arguments = some (.search request)) ∧
    ∀ arguments (request : SearchRequest), Command.ofArguments arguments = some (.search request) →
      let outcome := run read arguments locate
      (outcome.code = 0 ↔ request.IsServed read) ∧
      (∀ settings canvas, request.HasSettings read settings → request.HasCanvas read canvas →
        let shown := (request.policy settings).filter canvas request.query
        outcome.complaint = none ∧
        (outcome.warned = (canvas.edges.filter (· ∈ canvas.dangling)).map fun edge =>
          "edge " ++ edge.id ++ " references a node missing from " ++ request.canvas) ∧
        if request.json then nodesOfDocument outcome.output = .ok shown
        else outcome.output = .join (shown.map (·.id ++ "\n"))) ∧
      (outcome.code ≠ 0 → outcome.code = 1 ∧ outcome.output = "" ∧ outcome.warned = []) ∧
      (∀ path, request.settings = some path →
        (∀ fault, read path = .error fault →
          outcome.Reports path ("io error reading " ++ path ++ ": ") fault.message) ∧
        ∀ text fault, read path = .ok text → Settings.ofText text = .error fault →
          let place := locate path (.settings fault)
          outcome.Reports path "invalid configuration: " (place.excerpt ++ fault.text ++ "\n")) ∧
      ∀ settings, request.HasSettings read settings →
        (∀ fault, read request.canvas = .error fault →
          outcome.Reports request.canvas ("io error reading " ++ request.canvas ++ ": ")
            fault.message) ∧
        ∀ text fault, read request.canvas = .ok text → Canvas.ofDocument text = .error fault →
          let place := locate request.canvas (.canvas fault)
          outcome.Reports request.canvas "invalid canvas json: "
            (fault.message ++ if place.line = 0 then ""
              else " at line " ++ toString place.line ++ " column " ++ toString place.column) := by
  refine ⟨fun request => ofArguments_arguments, fun arguments request accepted => ?_⟩
  intro outcome
  have ran : outcome = runSearch read locate request := by
    simp only [outcome, run, accepted, Command.run]
  rw [ran]
  refine ⟨⟨fun success => ?_, code_runSearch_of_isServed⟩, fun settings canvas given loaded => ?_,
    fun failure => ?_, fun path named => ⟨fun fault unread => ?_, fun text fault found wrong => ?_⟩,
    fun settings given => ⟨fun fault unread => ?_, fun text fault found wrong => ?_⟩⟩
  · by_contra unserved
    obtain ⟨path, fault, failed⟩ := exists_fault_of_not_isServed locate unserved
    rw [failed] at success
    exact Nat.one_ne_zero success
  · intro shown
    rw [runSearch_of_loaded given loaded, SearchRequest.printed, Canvas.filter_mem_dangling]
    refine ⟨rfl, rfl, ?_⟩
    split
    · exact nodesOfDocument_ofLines _
    · simp only [Outcome.ofLines, List.map_map]
      rfl
  · obtain ⟨path, fault, failed⟩ := exists_fault_of_not_isServed locate fun served =>
      failure (code_runSearch_of_isServed served)
    rw [failed]
    exact ⟨rfl, rfl, rfl⟩
  · exact (reports_of_settings_fault locate named (Settings.load_of_unreadable unread) :)
  · exact (reports_of_settings_fault locate named (Settings.load_of_ofText_error found wrong) :)
  · exact (reports_of_canvas_fault locate given (Canvas.load_of_unreadable unread) :)
  · exact (reports_of_canvas_fault locate given (Canvas.load_of_ofDocument_error found wrong) :)

end CommandLine

namespace Sample

def settingsText : String := "[search]\nmin_query_len = 2\n"

def twoFiles (path : String) : Except FileFault String :=
  if path = "canvas.json" then .ok chainWithIsland.document
  else if path = "axes.toml" then .ok settingsText
  else .error .missing

def directedRequest : CommandLine.SearchRequest where
  canvas := "canvas.json"
  query := "name=b"
  settings := some "axes.toml"
  directed := true

def lostRequest : CommandLine.SearchRequest :=
  { directedRequest with canvas := "none.json", settings := some "none.toml" }

theorem ofText_settingsText :
    Settings.ofText settingsText = .ok { search := { minQueryLength := 2 } } := by
  have said : (Settings.ofText settingsText).toOption =
      some { search := { minQueryLength := 2 } } := by decide +kernel
  cases found : Settings.ofText settingsText with
  | error fault => simp [found, Except.toOption] at said
  | ok settings => simpa [found, Except.toOption] using said

end Sample

open Sample in
theorem CommandLine.run_search_twoFiles :
    (run twoFiles directedRequest.arguments).code = 0 ∧
      (run twoFiles directedRequest.arguments).output =
        .join ((Policy.filter { minQueryLength := 2, explorer := { orientation := .directed } }
          chainWithIsland "name=b").map (·.id ++ "\n")) ∧
      (run twoFiles lostRequest.arguments).code = 1 ∧
      (run twoFiles lostRequest.arguments).output = "" ∧
      (run twoFiles lostRequest.arguments).complaint =
        some ("Error: loading none.toml\n\nCaused by:\n    0: io error reading none.toml: " ++
          "No such file or directory (os error 2)\n    1: No such file or directory (os error 2)") := by
  obtain ⟨written, ran⟩ := run_search twoFiles fun _ _ => {}
  obtain ⟨code, output, -⟩ := ran directedRequest.arguments directedRequest
    (written directedRequest (by decide +kernel))
  obtain ⟨served, -, failed, told, -⟩ := ran lostRequest.arguments lostRequest
    (written lostRequest (by decide +kernel))
  have configured : directedRequest.HasSettings twoFiles { search := { minQueryLength := 2 } } :=
    ⟨settingsText, (if_neg (by decide)).trans (if_pos rfl), ofText_settingsText⟩
  have found : directedRequest.HasCanvas twoFiles chainWithIsland :=
    ⟨chainWithIsland.document, if_pos rfl, Json.document_pretty chainWithIsland.reads_encode⟩
  have unread : twoFiles "none.toml" = .error .missing :=
    (if_neg (by decide)).trans (if_neg (by decide))
  have failure : (run twoFiles lostRequest.arguments).code ≠ 0 := by
    rw [Ne, served]
    rintro ⟨⟨settings, text, said, -⟩, -⟩
    rw [unread] at said
    cases said
  obtain ⟨-, -, printed⟩ := output _ _ configured found
  rw [if_neg (show ¬directedRequest.json = true from Bool.false_ne_true)] at printed
  refine ⟨code.mpr ⟨⟨_, configured⟩, _, found⟩, printed, (failed failure).1, (failed failure).2.1,
    ((told "none.toml" rfl).1 _ unread).trans ?_⟩
  decide +kernel

end AccessCanvas

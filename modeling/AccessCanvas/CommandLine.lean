import AccessCanvas.Loading
import AccessCanvas.Policy
import AccessCanvas.Query.Document

/-!
The command line: what arguments mean, and what a command prints. Arguments are read from left to
right, and the first that does not fit makes them unusable as a whole.
-/

namespace AccessCanvas.CommandLine

structure Arguments.Form where
  flags : List String := []
  options : List String := []
  positionals : Nat := 0

structure Arguments where
  flags : List String := []
  options : List (String × String) := []
  positionals : List String := []

inductive Arguments.Result where
  | given (arguments : Arguments)
  | help
  | unusable

namespace Arguments

def option? (arguments : Arguments) (name : String) : Option String :=
  (arguments.options.find? (·.1 == name)).map (·.2)

def addPositionals (form : Form) (arguments : Arguments) (values : List String) : Result :=
  let positionals := arguments.positionals ++ values
  if positionals.length ≤ form.positionals then .given { arguments with positionals }
  else .unusable

def isValue (argument : String) : Bool :=
  !argument.startsWith "-" || argument == "-"

def longOption (letters : List Char) : String × Option String :=
  match letters.dropWhile (· != '=') with
  | [] => (.ofList letters, none)
  | _ :: value => (.ofList (letters.takeWhile (· != '=')), some (.ofList value))

def read (form : Form) (sofar : Arguments) (arguments : List String) : Result :=
  match arguments with
  | [] => .given sofar
  | argument :: later =>
    match argument.toList with
    | ['-', '-'] => addPositionals form sofar later
    | '-' :: '-' :: letters =>
      let (name, attached) := longOption letters
      if name = "help" then if attached.isNone then .help else .unusable
      else if form.flags.contains name then
        if attached.isSome ∨ sofar.flags.contains name then .unusable
        else read form { sofar with flags := sofar.flags ++ [name] } later
      else if form.options.contains name ∧ (sofar.option? name).isNone then
        match attached with
        | some value => read form { sofar with options := sofar.options ++ [(name, value)] } later
        | none =>
          match later with
          | [] => .unusable
          | value :: rest =>
            if isValue value then
              read form { sofar with options := sofar.options ++ [(name, value)] } rest
            else .unusable
      else .unusable
    | '-' :: letter :: _ => if letter = 'h' then .help else .unusable
    | _ =>
      match addPositionals form sofar [argument] with
      | .given extended => read form extended later
      | result => result

end Arguments

structure SearchRequest where
  canvas : String
  query : String
  settings : Option String := none
  directed : Bool := false
  json : Bool := false
deriving DecidableEq, Repr

inductive Topic where
  | program
  | parse
  | search
  | help
deriving DecidableEq, Repr

inductive Command where
  | version
  | help (topic : Topic)
  | parse (query : String) (json : Bool)
  | search (request : SearchRequest)
deriving DecidableEq, Repr

namespace Command

def parseForm : Arguments.Form where
  flags := ["json"]
  positionals := 1

def searchForm : Arguments.Form where
  flags := ["directed", "json"]
  options := ["canvas", "query", "config"]

def ofParse (arguments : List String) : Option Command :=
  match Arguments.read parseForm {} arguments with
  | .unusable => none
  | .help => some (.help .parse)
  | .given found =>
    match found.positionals with
    | [query] => some (.parse query (found.flags.contains "json"))
    | _ => none

def ofSearch (arguments : List String) : Option Command :=
  match Arguments.read searchForm {} arguments with
  | .unusable => none
  | .help => some (.help .search)
  | .given found =>
    match found.option? "canvas", found.option? "query" with
    | some canvas, some query =>
      some (.search
        { canvas, query
          settings := found.option? "config"
          directed := found.flags.contains "directed"
          json := found.flags.contains "json" })
    | _, _ => none

def ofHelp : List String → Option Command
  | [] => some (.help .program)
  | ["parse"] => some (.help .parse)
  | ["search"] => some (.help .search)
  | ["help"] => some (.help .help)
  | _ => none

def ofArguments : List String → Option Command
  | [] => none
  | first :: later =>
    if first = "parse" then ofParse later
    else if first = "search" then ofSearch later
    else if first = "help" then ofHelp later
    else
      match first.toList with
      | '-' :: '-' :: _ =>
        if first = "--help" then some (.help .program)
        else if first = "--version" then some .version
        else none
      | '-' :: letter :: _ =>
        if letter = 'h' then some (.help .program)
        else if letter = 'V' then some .version
        else none
      | _ => none

end Command

structure Outcome where
  code : Nat := 0
  output : String := ""
  /-- What the log was told. -/
  warned : List String := []
  complaint : Option String := none
deriving DecidableEq, Repr

namespace Outcome

def ofLines (lines : List String) : Outcome :=
  { output := .join (lines.map (· ++ "\n")) }

def unusable : Outcome :=
  { code := 2, complaint := some "unusable arguments; for more information, try '--help'" }

/-- The text with its later lines as far to the right as its first line after a number. -/
def indented (text : String) : String :=
  .ofList (text.toList.flatMap fun c => if c = '\n' then "\n       ".toList else [c])

def numbered (cause : String) (number : Nat) : String :=
  .ofList ((toString number).toList.leftpad 5 ' ') ++ ": " ++ indented cause

def report (error : String) (causes : List String) : String :=
  "Error: " ++ error ++ "\n\nCaused by:" ++
    .join (causes.mapIdx fun number cause => "\n" ++ numbered cause number)

def ofFault (place : LoadFault.Place) (path : String) (fault : LoadFault) : Outcome :=
  let detail := fault.detail place
  { code := 1
    complaint := some (report ("loading " ++ path) [fault.heading ++ detail, detail]) }

end Outcome

def versionText : String := "axes 0.1.0"

def Topic.lines : Topic → List String
  | .program =>
    ["Query identity and access relationships in an artifact canvas", "",
      "Usage: axes <COMMAND>", "",
      "Commands:",
      "  parse   Show how a query is parsed",
      "  search  List artifacts matching a query plus everything connected to them",
      "  help    Print this message or the help of the given subcommand(s)", "",
      "Options:",
      "  -h, --help     Print help",
      "  -V, --version  Print version"]
  | .parse =>
    ["Show how a query is parsed", "",
      "Usage: axes parse [OPTIONS] <query>", "",
      "Arguments:",
      "  <query>  Query text", "",
      "Options:",
      "      --json  Output statements as JSON",
      "  -h, --help  Print help"]
  | .search =>
    ["List artifacts matching a query plus everything connected to them", "",
      "Usage: axes search [OPTIONS] --canvas <canvas> --query <query>", "",
      "Options:",
      "      --canvas <canvas>  Canvas snapshot (JSON)",
      "      --query <query>    Query text",
      "      --config <config>  Configuration file (TOML)",
      "      --directed         Follow edges from source to target only",
      "      --json             Output full nodes as JSON",
      "  -h, --help             Print help"]
  | .help =>
    ["Print this message or the help of the given subcommand(s)", "",
      "Usage: axes help [COMMAND]...", "",
      "Arguments:",
      "  [COMMAND]...  Print help for the subcommand(s)"]

def runParse (query : String) (json : Bool) : Outcome :=
  let parsed := Query.parse query
  if json then .ofLines [parsed.document] else .ofLines (parsed.map Statement.render)

def nodesDocument (nodes : List Node) : String :=
  (Json.Value.list (nodes.map Node.encode)).pretty

/-- Where a reader finds the fault in the file at a path, which is for the reader to tell. -/
abbrev Locator : Type :=
  String → LoadFault → LoadFault.Place

variable (read : String → Except FileFault String) (locate : Locator)

def SearchRequest.loadSettings (request : SearchRequest) : Except Outcome Settings :=
  match request.settings with
  | none => .ok {}
  | some path =>
    match Settings.load read path with
    | .error fault => .error (.ofFault (locate path fault) path fault)
    | .ok settings => .ok settings

def runSearch (request : SearchRequest) : Outcome :=
  match request.loadSettings read locate with
  | .error outcome => outcome
  | .ok settings =>
    let policy := Policy.ofSettings settings.search
    let policy := if request.directed then policy.withOrientation .directed else policy
    match Canvas.load read request.canvas with
    | .error fault => .ofFault (locate request.canvas fault) request.canvas fault
    | .ok loaded =>
      let shown := policy.filter loaded.toCanvas request.query
      let printed := if request.json then [nodesDocument shown] else shown.map Node.id
      { Outcome.ofLines printed with warned := loaded.warned }

def Command.run : Command → Outcome
  | .version => .ofLines [versionText]
  | .help topic => .ofLines topic.lines
  | .parse query json => runParse query json
  | .search request => runSearch read locate request

/-- What the arguments do when `read` gives the texts of files. -/
def run (arguments : List String) (locate : Locator := fun _ _ => {}) : Outcome :=
  match Command.ofArguments arguments with
  | none => .unusable
  | some command => command.run read locate

def Command.paths : Command → List String
  | .search request => request.settings.toList ++ [request.canvas]
  | _ => []

end AccessCanvas.CommandLine

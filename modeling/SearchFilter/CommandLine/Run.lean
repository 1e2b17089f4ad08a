import SearchFilter.CommandLine.Arguments
import SearchFilter.Report.Explanation
import SearchFilter.Report.Offer
import SearchFilter.Settings

/-!
What an invocation prints and writes. Files come in as a function from paths to texts, and the file
that is to be written goes out as a value.
-/

namespace SearchFilter.CommandLine

abbrev Files := String → Option String

inductive Failure where
  | config
  | unreadableState (path : String)
  | malformedState (path : String)
  | invalidState (path : String) (error : GroupError)
  | unreadableCatalog (path : String)
  | malformedCatalog (path : String)
  | unwritableOutput (path : String)

namespace Failure

def message : Failure → String
  | config => "Failed to load config"
  | unreadableState path => "Failed to read state file '" ++ path ++ "'"
  | malformedState path => "Failed to parse state file '" ++ path ++ "'"
  | invalidState path _ => "Invalid filter bar state in '" ++ path ++ "'"
  | unreadableCatalog path => "Failed to read catalog '" ++ path ++ "'"
  | malformedCatalog path => "Failed to parse catalog '" ++ path ++ "'"
  | unwritableOutput path => "Failed to write output file '" ++ path ++ "'"

def cause? : Failure → Option String
  | invalidState _ error => some error.message
  | _ => none

def text (failure : Failure) : String :=
  "Error: " ++ failure.message ++ "\n" ++
    match failure.cause? with
    | some cause => "\nCaused by:\n    " ++ cause ++ "\n"
    | none => ""

end Failure

structure Outcome where
  code : Nat
  output : String
  errors : String
  file : Option (String × String)

namespace Outcome

def failed (failure : Failure) : Outcome := ⟨1, "", failure.text, none⟩

/-- The outcome when its file could not be written. What was printed stays. -/
def unwritten (outcome : Outcome) : Outcome :=
  match outcome.file with
  | some (path, _) =>
    { outcome with
      code := 1, errors := outcome.errors ++ (Failure.unwritableOutput path).text, file := none }
  | none => outcome

end Outcome

def loadSettings (files : Files) : Option String → Except Failure Settings
  | none => .ok {}
  | some path =>
    match (files path).bind Settings.ofText? with
    | some settings => .ok settings
    | none => .error .config

def loadBar (files : Files) (path : String) : Except Failure Bar :=
  match files path with
  | none => .error (.unreadableState path)
  | some source =>
    match State.ofText? source with
    | none => .error (.malformedState path)
    | some state =>
      match Bar.load state with
      | .error error => .error (.invalidState path error)
      | .ok bar => .ok bar

def loadCatalog (files : Files) (settings : Settings) : Option String → Except Failure Catalog
  | none => .ok settings.catalog
  | some path =>
    match files path with
    | none => .error (.unreadableCatalog path)
    | some source =>
      match Catalog.ofText? source with
      | none => .error (.malformedCatalog path)
      | some catalog => .ok catalog

def warning (invocation : Invocation) (message : String) : String :=
  if invocation.quiet then ""
  else Report.Style.boldYellow.paint invocation.color.areOn "Warning:" ++ " " ++ message ++ "\n"

def perform (files : Files) (settings : Settings) (invocation : Invocation) :
    Except Failure (String × String) :=
  let compiler := settings.compiler
  match invocation.task with
  | .compile path compact => (loadBar files path).map fun bar =>
    let compilation := compiler.compileWithIssues bar.tree?
    let query := Query.searchDocument compilation.query
    ((if compact then query.compact else query.pretty) ++ "\n",
      String.join (compilation.warnings.map fun issue => warning invocation issue.message))
  | .preview path => (loadBar files path).map fun bar =>
    let preview := compiler.rules.preview bar.tree?
    match invocation.format with
    | .text => (preview ++ "\n", "")
    | .json => ((Json.object [("preview", .text preview)]).compact ++ "\n", "")
  | .explain path => (loadBar files path).map fun bar =>
    let explanation := Report.Explanation.of compiler bar
    match invocation.format with
    | .text => (explanation.text invocation.color.areOn, "")
    | .json => (explanation.json.pretty ++ "\n", "")
  | .fields path name => (loadCatalog files settings path).map fun catalog =>
    let fields := catalog.named name
    let warnings := match fields, name with
      | [], some name =>
        warning invocation ("field '" ++ name ++ "' is not in the catalog; every operator applies")
      | _, _ => ""
    match invocation.format with
    | .text => (Report.Offer.text fields, warnings)
    | .json => ((Report.Offer.json fields).pretty ++ "\n", warnings)

def run (files : Files) (invocation : Invocation) : Outcome :=
  match loadSettings files invocation.config with
  | .error failure => .failed failure
  | .ok settings =>
    match perform files settings invocation with
    | .error failure => .failed failure
    | .ok (output, warnings) =>
      ⟨0, output, warnings, invocation.output.map fun path => (path, output)⟩

def Invocation.paths (invocation : Invocation) : List String :=
  invocation.config.toList ++ match invocation.task with
    | .compile state _ | .preview state | .explain state => [state]
    | .fields catalog _ => catalog.toList

def title : String := "filter-bar 0.1.0\n"

def usage : String :=
  "Usage: filter-bar [OPTIONS] <COMMAND>\n\nCommands:\n  compile STATE [--compact]\n" ++
    "  preview STATE\n  explain STATE\n  fields [--catalog FILE] [--field NAME]\n\nOptions:\n" ++
    "      --config FILE\n  -F, --format text|json\n  -o, --output FILE\n" ++
    "      --color auto|always|never\n  -v, --verbose\n  -q, --quiet\n  -h, --help\n" ++
    "  -V, --version\n"

def Halt.outcome : Halt → Outcome
  | usage error => ⟨2, "", "error: " ++ error.message ++ "\n\n" ++ CommandLine.usage, none⟩
  | help => ⟨0, CommandLine.usage, "", none⟩
  | version => ⟨0, title, "", none⟩

end SearchFilter.CommandLine

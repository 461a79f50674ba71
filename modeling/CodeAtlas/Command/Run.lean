import CodeAtlas.Command.Arguments
import CodeAtlas.Disk.Change
import CodeAtlas.Json.Printer
import CodeAtlas.Report.Analysis
import CodeAtlas.Report.RepositoryMap
import CodeAtlas.Settings.Load

/-!
Running commands on a disk.

The configuration is loaded and checked before any command. Results are JSON texts.
-/
namespace CodeAtlas.Command

open CodeAtlas.Settings
open CodeAtlas.Text (Bytes bytes ofBytes)

/-- A change that a command makes on the disk. -/
inductive Change where
  | makeDirectories (path : Bytes)
  | openLog (directory : Bytes)
  | write (path : Bytes) (content : String)
deriving DecidableEq, Repr

/-- The disk after a change. -/
def Change.apply (m : Machine) (c : Change) (d : Disk) : Except Disk.IoError Disk :=
  match c with
  | .makeDirectories path => d.makeDirectories path
  | .openLog directory => m.openLog d directory
  | .write path content => d.write path content.toUTF8

/-- The disk after changes, those that cannot be made left out. -/
def Change.applyAll (m : Machine) (changes : List Change) (d : Disk) : Disk :=
  changes.foldl (fun d c => (c.apply m d).toOption.getD d) d

/-- What comes of a command: what it prints and changes, or the wording of an error with what it comes from. -/
structure Outcome where
  output : String := ""
  changes : List Change := []
  causes : List String := []
  /-- Whether it ended without a word. -/
  crashed : Bool := false

/-- An error without anything else. -/
def Outcome.failed (causes : List String) : Outcome :=
  { causes }

/-- The result of a command, printed or written to a file. -/
def emit (d : Disk) (output : Option String) (value : Json) : Outcome :=
  match output with
  | none => { output := value.pretty ++ "\n" }
  | some path =>
    match d.write (bytes path) value.pretty.toUTF8 with
    | .ok _ => { changes := [.write (bytes path) value.pretty] }
    | .error e => .failed ["Failed to write " ++ path, e.message]

/-- Writes a configuration with all defaults. -/
def initialise (d : Disk) (force : Bool) : Outcome :=
  let path := fileIn directoryName
  if d.pathExists path && !force then
    .failed [".strata/config.toml already exists. Use --force to overwrite."]
  else
    let isThere := d.pathExists directoryName
    match if isThere then .ok d else d.makeDirectories directoryName with
    | .error e => .failed ["Failed to create " ++ ofBytes directoryName, e.message]
    | .ok made =>
      let make := if isThere then [] else [Change.makeDirectories directoryName]
      match made.write path defaultText.toUTF8 with
      | .error e => { changes := make, causes := ["Failed to write " ++ ofBytes path, e.message] }
      | .ok _ => { changes := make ++ [.write path defaultText] }

/-- Runs a command under a configuration. -/
def Action.run (m : Machine) (d : Disk) (c : Configuration) : Action → Outcome
  | .detect path =>
    match Crawl.detect c.crawl d (bytes path) with
    | .error e => .failed e.causes
    | .ok statistics => emit d none statistics.toJson
  | .map path =>
    match Report.RepositoryMap.run c.crawl d (bytes path) with
    | .error e => .failed e.causes
    | .ok overview => emit d none overview.toJson
  | .analyze r =>
    let options := { c.buildOptions with threads := r.threads.getD c.threads }
    match Report.analyze m options d (bytes r.path) (r.language.or c.language) r.entryPoints with
    | .error e => .failed e.causes
    | .ok a => emit d r.output (Report.AnalysisReport.ofAnalysis ⟨r.url, r.branch, r.commit⟩ a).toJson
  | .query path text language =>
    match Report.analyze m c.buildOptions d (bytes path) (language.or c.language) [] with
    | .error e => .failed e.causes
    | .ok a => emit d none (.arr ((a.graph.query text).map fun r => r.toMatch.toJson))
  | .init force => initialise d force

/-- The path of the working directory. -/
def workingPath (d : Disk) : Bytes :=
  Path.slash :: Path.ofNames d.workingDirectory

/-- The configuration that counts: the one that is asked for, or else the nearest one. -/
def loadConfiguration (d : Disk) (asked : Option String) :
    Except LoadError (Configuration × Option Bytes) :=
  match asked with
  | some path =>
    let file := if d.isDirectory (bytes path) then fileIn (bytes path) else bytes path
    (load d file).map (·, Path.parent? file)
  | none =>
    match find d (workingPath d) with
    | .error e => .error e
    | .ok (some (c, dir)) => .ok (c, some dir)
    | .ok none => .ok (.standard, none)

/-- Makes a directory for the log and opens the log in it: the changes, and the disk after them. Where the directory
cannot be made there is no log, and where the log cannot be opened there is no going on. -/
def prepareLog (m : Machine) (d : Disk) (directory : Option Bytes) : List Change × Option Disk :=
  match directory with
  | none => ([], some d)
  | some path =>
    match d.makeDirectories path with
    | .error _ => ([], some d)
    | .ok made =>
      match m.openLog made path with
      | .error _ => ([.makeDirectories path], none)
      | .ok opened => ([.makeDirectories path, .openLog path], some opened)

/-- Runs a command line. -/
def Invocation.run (m : Machine) (d : Disk) (i : Invocation) : Outcome :=
  match loadConfiguration d i.config with
  | .error e => .failed e.causes
  | .ok (c, dir) =>
    match prepareLog m d (c.logPath? dir) with
    | (changes, none) => { changes, crashed := true }
    | (changes, some ready) =>
      let errors := c.validate
      let outcome :=
        if errors.isEmpty then i.command.run m ready c
        else .failed ["Configuration has " ++ toString errors.length ++ " error(s)"]
      { outcome with changes := changes ++ outcome.changes }

/-- The program with its version. -/
def versionText : String := "strata 0.0.1\n"

/-- How the program is called. -/
def helpText : String :=
  "Usage: strata [OPTIONS] <COMMAND>\n\nCommands: detect, map, analyze, query, init\n"

/-- A cause of an error with its lines indented, behind its number if there are several. -/
def indentCause (number : Option Nat) (cause : String) : String :=
  let first := match number with
    | none => "    "
    | some n =>
      let digits := toString n
      String.ofList (List.replicate (5 - digits.length) ' ') ++ digits ++ ": "
  let later := if number.isSome then "\n       " else "\n    "
  first ++ String.ofList (cause.toList.flatMap fun c => if c == '\n' then later.toList else [c])

/-- The text of an error: its wording, and then what it comes from. -/
def errorText : List String → String
  | [] => ""
  | [message] => "Error: " ++ message
  | [message, cause] => "Error: " ++ message ++ "\n\nCaused by:\n" ++ indentCause none cause
  | message :: causes =>
    "Error: " ++ message ++ "\n\nCaused by:\n"
      ++ "\n".intercalate (causes.mapIdx fun i cause => indentCause (some i) cause)

/-- What a run of the program shows. -/
structure Result where
  exitCode : Nat
  output : String
  error : Option String
  changes : List Change

/-- Runs the program with its arguments. -/
def run (m : Machine) (d : Disk) (args : List String) : Result :=
  match Invocation.ofArguments args with
  | .error .version => ⟨0, versionText, none, []⟩
  | .error .help => ⟨0, helpText, none, []⟩
  | .error .misuse => ⟨2, "", none, []⟩
  | .ok i =>
    let o := i.run m d
    if o.crashed then ⟨101, "", none, o.changes⟩
    else if o.causes.isEmpty then ⟨0, o.output, none, o.changes⟩
    else ⟨1, o.output, some (errorText o.causes), o.changes⟩

end CodeAtlas.Command

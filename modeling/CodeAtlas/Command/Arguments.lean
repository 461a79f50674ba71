/-!
The command line.

Options stand before or after what they belong to. An option of the program as a whole may also be given after the
command, and then it counts more. After two hyphens nothing is an option.
-/
namespace CodeAtlas.Command

/-- What is asked for in an analysis. -/
structure AnalyzeRequest where
  path : String
  language : Option String := none
  entryPoints : List String := []
  threads : Option Nat := none
  output : Option String := none
  url : Option String := none
  branch : Option String := none
  commit : Option String := none
deriving DecidableEq, Repr

/-- What a command does. -/
inductive Action where
  | detect (path : String)
  | map (path : String)
  | analyze (request : AnalyzeRequest)
  | query (path text : String) (language : Option String)
  | init (force : Bool)
deriving DecidableEq, Repr

/-- A command with the options of the program as a whole. -/
structure Invocation where
  config : Option String
  verbose : Bool
  command : Action
deriving DecidableEq, Repr

/-- Why there is no command to run. -/
inductive Halt where
  | version
  | help
  | misuse
deriving DecidableEq, Repr

/-- What an argument has to be. -/
inductive ValueKind where
  | text
  /-- A text that is not empty. -/
  | path
  /-- A whole number of at most 64 bits. -/
  | count
deriving DecidableEq, Repr

/-- What an option does. -/
inductive OptionKind where
  | flag
  | value (kind : ValueKind)
  | values (kind : ValueKind)
  | halt (h : Halt)
deriving DecidableEq, Repr

/-- An option with its long and its short name. -/
structure OptionSpec where
  long : String
  short : Option Char := none
  kind : OptionKind

/-- What is accepted at a level of the command line. -/
structure Level where
  options : List OptionSpec
  positionals : List ValueKind
  /-- The words that end the level. -/
  commands : List String

/-- What is read at a level: the options with their values in order, and the other arguments. -/
structure Given where
  options : List (String × String) := []
  positionals : List String := []

/-- The number that a text stands for. A plus sign may precede its digits. -/
def count? (text : String) : Option Nat :=
  let digits := match text.toList with
    | '+' :: rest => rest
    | cs => cs
  let n := digits.foldl (fun n c => n * 10 + (c.toNat - 48)) 0
  if !digits.isEmpty && digits.all Char.isDigit && n < UInt64.size then some n else none

/-- Whether a text is a value of a kind. -/
def ValueKind.accepts (k : ValueKind) (text : String) : Bool :=
  match k with
  | .text => true
  | .path => !text.isEmpty
  | .count => (count? text).isSome

/-- Whether an argument looks like an option. -/
def looksLikeOption (arg : String) : Bool :=
  match arg.toList with
  | '-' :: _ :: _ => true
  | _ => false

namespace Given

/-- Adds a flag, once. -/
def addFlag (g : Given) (o : OptionSpec) : Except Halt Given :=
  if (g.options.lookup o.long).isSome then .error .misuse
  else .ok { g with options := g.options ++ [(o.long, "")] }

/-- Adds the value of an option; most options have only one. -/
def addValue (g : Given) (o : OptionSpec) (kind : ValueKind) (repeats : Bool) (v : String) : Except Halt Given :=
  if !kind.accepts v || (!repeats && (g.options.lookup o.long).isSome) then .error .misuse
  else .ok { g with options := g.options ++ [(o.long, v)] }

/-- Adds another argument, if one more is accepted. -/
def addPositional (l : Level) (g : Given) (arg : String) : Except Halt Given :=
  match l.positionals[g.positionals.length]? with
  | none => .error .misuse
  | some kind => if kind.accepts arg then .ok { g with positionals := g.positionals ++ [arg] } else .error .misuse

/-- Whether an option was given. -/
def has (g : Given) (long : String) : Bool :=
  (g.options.lookup long).isSome

/-- The value of an option. -/
def value? (g : Given) (long : String) : Option String :=
  g.options.lookup long

/-- All values of an option. -/
def values (g : Given) (long : String) : List String :=
  (g.options.filter (·.1 == long)).map Prod.snd

end Given

/-- The name and the attached value of a long option. -/
def splitLong (text : List Char) : String × Option String :=
  let name := text.takeWhile (· != '=')
  (String.ofList name, (text.drop name.length).tail?.map String.ofList)

/-- What is to be done after an argument: it is done with, or the option waits for its value. -/
inductive Step where
  | done (g : Given)
  | waiting (g : Given) (o : OptionSpec) (kind : ValueKind) (repeats : Bool)

/-- An option with what is attached to it. -/
def applyLong (g : Given) (o : OptionSpec) (attached : Option String) : Except Halt Step :=
  let valued (kind : ValueKind) (repeats : Bool) : Except Halt Step :=
    match attached with
    | some v => (g.addValue o kind repeats v).map .done
    | none => .ok (.waiting g o kind repeats)
  match o.kind with
  | .flag => if attached.isSome then .error .misuse else (g.addFlag o).map .done
  | .halt h => if attached.isSome then .error .misuse else .error h
  | .value kind => valued kind false
  | .values kind => valued kind true

/-- Short options in one argument. What follows an option with a value is that value. -/
def applyShorts (l : Level) (g : Given) : List Char → Except Halt Step
  | [] => .ok (.done g)
  | c :: rest =>
    match l.options.find? (·.short == some c) with
    | none => .error .misuse
    | some o =>
      let attached := match rest with
        | [] => none
        | '=' :: v => some (String.ofList v)
        | v => some (String.ofList v)
      match o.kind with
      | .flag =>
        match g.addFlag o with
        | .ok g => applyShorts l g rest
        | .error h => .error h
      | .halt h => .error h
      | .value _ | .values _ => applyLong g o attached

/-- What an argument that looks like an option does. -/
def applyOption (l : Level) (g : Given) (arg : String) : Except Halt Step :=
  match arg.toList with
  | '-' :: '-' :: name =>
    let (name, attached) := splitLong name
    match l.options.find? (·.long == name) with
    | none => .error .misuse
    | some o => applyLong g o attached
  | '-' :: shorts => applyShorts l g shorts
  | _ => .error .misuse

/-- Reads a level, up to a command or to the end. -/
def readLevel (l : Level) (g : Given) : List String → Except Halt (Given × List String)
  | [] => .ok (g, [])
  | arg :: rest =>
    if l.commands.contains arg then .ok (g, arg :: rest)
    else if arg == "--" then (rest.foldlM (Given.addPositional l) g).map (·, [])
    else if looksLikeOption arg then
      match applyOption l g arg, rest with
      | .error h, _ => .error h
      | .ok (.done g), rest => readLevel l g rest
      | .ok (.waiting ..), [] => .error .misuse
      | .ok (.waiting g o kind repeats), v :: rest =>
        if looksLikeOption v then .error .misuse
        else
          match g.addValue o kind repeats v with
          | .error h => .error h
          | .ok g => readLevel l g rest
    else
      match g.addPositional l arg with
      | .error h => .error h
      | .ok g => readLevel l g rest

/-! ### The commands -/

/-- The options of the program as a whole. -/
def globalOptions : List OptionSpec := [
  ⟨"verbose", some 'v', .flag⟩,
  ⟨"config", none, .value .path⟩,
  ⟨"help", some 'h', .halt .help⟩]

/-- The level before the command. -/
def topLevel : Level where
  options := globalOptions ++ [⟨"version", some 'V', .halt .version⟩]
  positionals := []
  commands := ["detect", "map", "analyze", "query", "init", "help"]

/-- The level of a command with the given options and other arguments. -/
def commandLevel (options : List OptionSpec) (positionals : List ValueKind) : Level :=
  ⟨globalOptions ++ options, positionals, []⟩

/-- The level of a command. -/
def levelOf : String → Level
  | "analyze" => commandLevel [
      ⟨"language", none, .value .text⟩,
      ⟨"entry-point", none, .values .text⟩,
      ⟨"threads", none, .value .count⟩,
      ⟨"output", some 'o', .value .path⟩,
      ⟨"repo-url", none, .value .text⟩,
      ⟨"branch", none, .value .text⟩,
      ⟨"commit", none, .value .text⟩] [.path]
  | "query" => commandLevel [⟨"language", none, .value .text⟩] [.path, .text]
  | "init" => commandLevel [⟨"force", none, .flag⟩] []
  | _ => commandLevel [] [.path]

/-- The command of a name with what was given for it. -/
def Action.ofGiven? (name : String) (g : Given) : Option Action :=
  match name, g.positionals with
  | "detect", [path] => some (.detect path)
  | "map", [path] => some (.map path)
  | "analyze", [path] => some (.analyze {
      path
      language := g.value? "language"
      entryPoints := g.values "entry-point"
      threads := (g.value? "threads").bind count?
      output := g.value? "output"
      url := g.value? "repo-url"
      branch := g.value? "branch"
      commit := g.value? "commit" })
  | "query", [path, text] => some (.query path text (g.value? "language"))
  | "init", [] => some (.init (g.has "force"))
  | _, _ => none

/-- What a command line asks for. -/
def Invocation.ofArguments (args : List String) : Except Halt Invocation :=
  match readLevel topLevel {} args with
  | .error h => .error h
  | .ok (_, []) => .error .misuse
  | .ok (_, "help" :: _) => .error .help
  | .ok (outer, name :: rest) =>
    match readLevel (levelOf name) {} rest with
    | .error h => .error h
    | .ok (inner, _) =>
      match Action.ofGiven? name inner with
      | none => .error .misuse
      | some command => .ok {
          config := (inner.value? "config").or (outer.value? "config")
          verbose := inner.has "verbose" || outer.has "verbose"
          command }

end CodeAtlas.Command

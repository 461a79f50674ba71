import CodeAtlas.Build.Statistics
import CodeAtlas.Crawl.Basic
import CodeAtlas.Graph.Assembler
import CodeAtlas.Machine

/-!
Building the graph of a repository.

The entry points are read first and then all other files of the language in the order of the walk, since a name can
only lead to what was read before.
-/
namespace CodeAtlas.Build

open CodeAtlas.Graph
open CodeAtlas.Parsing

/-- How a graph is built. -/
structure Options where
  /-- How many files may be read at the same time; 0 stands for as many as there are processors. -/
  threads : Nat
  crawl : Crawl.Settings
  parser : Parser

/-- How a graph is built if nothing else is asked for. -/
def Options.standard : Options :=
  ⟨0, .standard, .standard⟩

/-- A path without points and slashes that only lead to the working directory. -/
def withoutDotSlash : List Char → List Char
  | '.' :: '/' :: rest => withoutDotSlash rest
  | path => path

/-- The order in which files are read: first the entry points among them, then all others. -/
def mergeOrder (files entryPoints : List String) : List String :=
  let first := entryPoints.map fun p => String.ofList (withoutDotSlash p.toList)
  (first.filter files.contains ++ files).eraseDups

/-- A file that was read, or could not be. -/
structure Outcome where
  path : String
  result : Option (Extraction × Strategy)

/-- Reads a file for its declarations. -/
def process (p : Parser) (d : Disk) (c : Crawl) (language path : String) : Outcome :=
  match d.read (c.pathOf path) with
  | .error _ => ⟨path, none⟩
  | .ok content => ⟨path, some (p.run language ⟨path, Text.decodeLossy content⟩)⟩

/-- Adds a file to what was put together before. -/
def Outcome.addTo (a : Assembler) (o : Outcome) : Assembler :=
  match o.result with
  | some (extraction, _) => a.push o.path extraction
  | none => a

/-- The graph of some files, with what happened on the way. -/
def ofOutcomes (outcomes : List Outcome) : CodeGraph × Statistics :=
  let assembled := outcomes.foldl Outcome.addTo .empty
  let graph := assembled.finish
  let counted := (outcomes.map fun o => o.result.map Prod.snd).foldl Statistics.record {}
  (graph, { counted with
    elements := graph.elements.size
    relationships := graph.relationships.length
    droppedReferences := assembled.dropped })

/-- The graph of the files of a language that were seen in a repository. However many of them are read at the same time,
they are put together in their order. -/
def assemble (p : Parser) (d : Disk) (c : Crawl) (language : String) (entryPoints : List String) :
    CodeGraph × Statistics :=
  let order := mergeOrder ((c.codeFilesOf language).map (·.path)) entryPoints
  ofOutcomes (order.map (process p d c language))

/-- Why a graph could not be built. -/
inductive Error where
  | crawl (e : Crawl.Error)
  | workers (reason : String)
deriving DecidableEq, Repr

/-- The wording of an error and then of what it comes from. -/
def Error.causes : Error → List String
  | .crawl e => e.causes
  | .workers reason => ["Failed to start worker pool: " ++ reason]

/-- Builds the graph of what was seen of a repository. -/
def ofCrawl (m : Machine) (o : Options) (d : Disk) (c : Crawl) (language : String) (entryPoints : List String) :
    Except Error (CodeGraph × Statistics) :=
  match m.refusesWorkers o.threads with
  | some reason => .error (.workers reason)
  | none => .ok (assemble o.parser d c language entryPoints)

/-- Walks through a repository and builds its graph. -/
def run (m : Machine) (o : Options) (d : Disk) (root : Text.Bytes) (language : String) (entryPoints : List String) :
    Except Error (CodeGraph × Statistics) :=
  match Crawl.run o.crawl d root with
  | .error e => .error (.crawl e)
  | .ok c => ofCrawl m o d c language entryPoints

end CodeAtlas.Build

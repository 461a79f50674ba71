import CodeAtlas.Classify.Basic
import CodeAtlas.Classify.Statistics
import CodeAtlas.Crawl.FileNode
import CodeAtlas.Disk.Basic
import CodeAtlas.Ignore.Rule

/-!
Walking through a repository.

Entries are visited in the order of the bytes of their names, and what the rules pass over is not entered. Links are
never followed. What cannot be read is seen without its content. The walk yields the tree of what was seen and the list
of its files in the same order, both with the texts of the names.
-/
namespace CodeAtlas.Crawl

open CodeAtlas.Classify
open CodeAtlas.Disk (Entry IoError)
open CodeAtlas.Ignore
open CodeAtlas.Text

/-- What is passed over if nothing else is asked for: version control, dependencies and build results. -/
def defaultIgnorePatterns : List String := [
  ".git", "node_modules", "__pycache__", ".pytest_cache", "venv", "env", ".venv", ".env", "build", "dist", "target",
  ".cargo", ".idea", ".vscode", ".vs", "coverage", ".coverage", "htmlcov", ".tox", "site-packages", ".mypy_cache",
  ".ruff_cache", ".gitignore", ".dockerignore", ".DS_Store", "Thumbs.db", "*.pyc", "*.pyo", "*.pyd"]

/-- How a repository is walked through. -/
structure Settings where
  ignorePatterns : List String
  /-- Files with more bytes are listed, but they have no language. -/
  maxFileSize : Nat
  /-- Whether the rules in the repository itself count too. -/
  useGitignore : Bool
deriving DecidableEq, Repr

/-- How a repository is walked through if nothing else is asked for. -/
def Settings.standard : Settings :=
  ⟨defaultIgnorePatterns, Classify.defaultMaxFileSize, false⟩

/-- A file that was seen, with its path from the root of the repository. -/
structure CrawledFile where
  path : String
  size : Nat
  binary : Bool
  language : Option String
deriving DecidableEq, Repr

/-- The last segment of the path. -/
def CrawledFile.name (f : CrawledFile) : String :=
  String.ofList (f.path.toList.reverse.takeWhile (· != '/')).reverse

/-- Why a repository could not be walked through. -/
inductive Error where
  | rootNotFound (root : Bytes)
  | notADirectory (root : Bytes)
  | unreadable (root : Bytes) (e : IoError)
  | ignorePattern (e : RuleError)
deriving DecidableEq, Repr

/-- The wording of an error. -/
def Error.message : Error → String
  | .rootNotFound root => "Repository root does not exist: " ++ ofBytes root
  | .notADirectory root => "Repository root is not a directory: " ++ ofBytes root
  | .unreadable root e => "Failed to read " ++ ofBytes root ++ ": " ++ e.message
  | .ignorePattern e => "Invalid ignore pattern: " ++ e.message

/-- The wording of an error and then of what it comes from. -/
def Error.causes (e : Error) : List String :=
  match e with
  | .unreadable _ io => [e.message, io.message]
  | .ignorePattern r => [e.message, r.message]
  | _ => [e.message]

/-! ### Visits -/

/-- What a walk is told of the entries below its root, each given by the names that lead to it. -/
structure Walk where
  /-- Whether it passes over a directory, or over something else. -/
  passes : List Bytes → Bool → Bool
  /-- Whether a directory can be listed. -/
  lists : List Bytes → Bool
  /-- What is known about a file. -/
  sniffs : List Bytes → Sniff

/-- What a visit yields. -/
structure Visit where
  node : FileNode
  files : List CrawledFile

/-- The path that is shown for some names. -/
def shownPath (names : List Bytes) : String :=
  "/".intercalate (names.map ofBytes)

/-- What the visits below a directory, each with the name of what was visited, yield together. -/
def Visit.ofDirectory (name path : String) (visits : List (Bytes × Visit)) : Visit :=
  let sorted := (visits.mergeSort fun a b => a.1 ≤ b.1).map Prod.snd
  let nodes := sorted.map Visit.node
  ⟨.mk name path .directory (nodes.foldl (fun size n => size + n.size) 0) none nodes, sorted.flatMap Visit.files⟩

/-- Visits a file. -/
def visitFile (w : Walk) (above : List Bytes) (name : Bytes) : Visit :=
  let path := shownPath (above ++ [name])
  let s := w.sniffs (above ++ [name])
  ⟨.mk (ofBytes name) path .file s.size s.language [], [⟨path, s.size, s.binary, s.language⟩]⟩

mutual

/-- Visits an entry of a directory, unless it is a link or passed over. A directory that cannot be listed seems to be
empty. -/
def visit? (w : Walk) (above : List Bytes) (name : Bytes) : Entry → Option Visit
  | .link _ => none
  | .file _ => if w.passes (above ++ [name]) false then none else some (visitFile w above name)
  | .directory entries =>
    if w.passes (above ++ [name]) true then none
    else some (.ofDirectory (ofBytes name) (shownPath (above ++ [name]))
      (if w.lists (above ++ [name]) then visitAll w (above ++ [name]) entries else []))

/-- Visits the entries of a directory. -/
def visitAll (w : Walk) (above : List Bytes) : List (Bytes × Entry) → List (Bytes × Visit)
  | [] => []
  | (name, e) :: rest => (visit? w above name e).toList.map (name, ·) ++ visitAll w above rest

end

/-- What is known about a file on a disk. Files with too many bytes are not read. -/
def look (d : Disk) (maxFileSize : Nat) (path : Bytes) : Except IoError Sniff :=
  match d.entry path with
  | .error e => .error e
  | .ok e =>
    if maxFileSize < e.size then .ok ⟨e.size, false, none⟩
    else (d.read path).map (sniff maxFileSize path)

/-- What is written down of a file that cannot be read. -/
def unknown : Sniff := ⟨0, false, none⟩

/-- The path of an entry as the rules see it. A root that is written as several steps to itself keeps all but the first
of them. -/
def pathForRules (root path : Bytes) : Bytes :=
  match root with
  | 46 :: 47 :: b :: rest =>
    let root := b :: rest
    if (Path.steps root).isEmpty && !Path.isAbsolute root then Path.join root path else path
  | _ => path

/-- The walk through a directory of a disk, which has the given place. -/
def Walk.through (d : Disk) (root : Bytes) (place : List Bytes) (rules : List Rule) (maxFileSize : Nat) : Walk where
  passes names isDirectory :=
    (d.refusal .identify (place ++ names)).isSome ||
      ignores rules (pathForRules root (Path.ofNames names)) isDirectory
  lists names := (d.list (Path.below root names)).isOk
  sniffs names := (look d maxFileSize (Path.below root names)).toOption.getD unknown

end CodeAtlas.Crawl

namespace CodeAtlas

open CodeAtlas.Classify
open CodeAtlas.Crawl
open CodeAtlas.Ignore
open CodeAtlas.Text

/-- What was seen of a repository. -/
structure Crawl where
  root : Bytes
  tree : FileNode
  /-- All files, in the order in which they were visited. -/
  files : List CrawledFile
  maxFileSize : Nat

namespace Crawl

/-- The rules for a repository: those in its own file come first. -/
def rules (s : Settings) (d : Disk) (root : Bytes) : Except RuleError (List Rule) :=
  let own := if s.useGitignore then
      match d.read (Path.join root (bytes ".gitignore")) with
      | .ok content => Rule.ofFile content
      | .error _ => []
    else []
  (Rule.ofLines s.ignorePatterns).map (own ++ ·)

/-- Visits the root of a repository. -/
def visitRoot (w : Walk) (root : Bytes) (entries : List (Bytes × Disk.Entry)) : Visit :=
  .ofDirectory (((Path.fileName? root).map ofBytes).getD ".") "." (visitAll w [] entries)

/-- Walks through a repository. -/
def run (s : Settings) (d : Disk) (root : Bytes) : Except Error Crawl :=
  match d.reach root with
  | .error _ => .error (.rootNotFound root)
  | .ok (place, .directory _) =>
    match d.list root with
    | .error e => .error (.unreadable root e)
    | .ok entries =>
      match rules s d root with
      | .error e => .error (.ignorePattern e)
      | .ok rules =>
        let v := visitRoot (.through d root place rules s.maxFileSize) root entries
        .ok ⟨root, v.node, v.files, s.maxFileSize⟩
  | .ok _ => .error (.notADirectory root)

/-- The files that may be read for their declarations. -/
def codeFiles (c : Crawl) : List CrawledFile :=
  c.files.filter fun f => f.language.isSome && !f.binary && f.size ≤ c.maxFileSize

/-- The files of a language that may be read for their declarations. -/
def codeFilesOf (c : Crawl) (language : String) : List CrawledFile :=
  c.codeFiles.filter (·.language == some language)

/-- The file with a path from the root of the repository. -/
def file? (c : Crawl) (path : String) : Option CrawledFile :=
  c.files.find? (·.path == path)

/-- The path of a file of the repository from the working directory. -/
def pathOf (c : Crawl) (path : String) : Bytes :=
  Path.join c.root (bytes path)

/-- Which languages the repository is written in. -/
def languageStatistics (c : Crawl) : LanguageStatistics :=
  .ofLanguages (c.codeFiles.filterMap (·.language))

/-- Walks through a repository for its languages. -/
def detect (s : Settings) (d : Disk) (root : Bytes) : Except Error LanguageStatistics :=
  (run s d root).map languageStatistics

end Crawl
end CodeAtlas

import CodeAtlas.Crawl.Basic
import CodeAtlas.Crawl.MainConstruct
import CodeAtlas.Crawl.Readme

/-!
Where the programs of a repository start, and what it says about itself.
-/
namespace CodeAtlas.Crawl

/-- Whether the beginning of a file has a main construct of a language. -/
def startsProgram (d : Disk) (path : Text.Bytes) (language : String) : Bool :=
  match d.read path with
  | .ok content => hasMain language (Text.decodeLossy (Classify.headOf content))
  | .error _ => false

/-- Whether a file is an entry point, by its name or by what it begins with. Binary files are not. -/
def isEntryPoint (d : Disk) (c : Crawl) (language : String) (f : CrawledFile) : Bool :=
  !f.binary && ((entryNamesOf language).contains f.name ||
    (knowsMain language && startsProgram d (c.pathOf f.path) language))

/-- The entry points of a language, in the order of the walk. -/
def entryPoints (d : Disk) (c : Crawl) (language : String) : List String :=
  (c.files.filter (isEntryPoint d c language)).map (·.path)

/-- The description of a repository, if it has one. -/
def readme? (d : Disk) (root : Text.Bytes) : Option String :=
  readmeNames.findSome? fun name =>
    match d.read (Path.join root (Text.bytes name)) with
    | .ok content => some (summarize (Text.decodeLossy content))
    | .error _ => none

end CodeAtlas.Crawl

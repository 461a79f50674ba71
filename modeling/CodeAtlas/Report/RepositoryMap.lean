import CodeAtlas.Classify.Json
import CodeAtlas.Crawl.EntryPoints

/-!
Overviews of repositories: their files, languages, entry points and what they say about themselves.
-/
namespace CodeAtlas.Report

open CodeAtlas.Classify
open CodeAtlas.Crawl
open CodeAtlas.Json

/-- The overview of a repository. -/
structure RepositoryMap where
  fileTree : FileNode
  languageDetection : LanguageStatistics
  entryPoints : List String
  readmeSummary : Option String

namespace RepositoryMap

/-- The overview of what was seen of a repository. Entry points are looked for in its main language. -/
def ofCrawl (d : Disk) (c : Crawl) : RepositoryMap :=
  let statistics := c.languageStatistics
  { fileTree := c.tree
    languageDetection := statistics
    entryPoints := match statistics.primaryLanguage with
      | some language => Crawl.entryPoints d c language
      | none => []
    readmeSummary := readme? d c.root }

/-- Walks through a repository for its overview. -/
def run (s : Crawl.Settings) (d : Disk) (root : Text.Bytes) : Except Crawl.Error RepositoryMap :=
  (Crawl.run s d root).map (ofCrawl d)

/-- The JSON form of an overview. -/
def toJson (m : RepositoryMap) : Json := .obj [
  ("file_tree", m.fileTree.toJson),
  ("language_detection", m.languageDetection.toJson),
  ("entry_points", .strings m.entryPoints),
  ("readme_summary", .ofOption .str m.readmeSummary)]

/-- The overview that a JSON value stands for. -/
def ofJson (j : Json) : Decoded RepositoryMap := do
  let field ← toFields ["file_tree", "language_detection", "entry_points", "readme_summary"] 0 j
  return {
    fileTree := ← required (field "file_tree") FileNode.ofJson
    languageDetection := ← required (field "language_detection") LanguageStatistics.ofJson
    entryPoints := ← required (field "entry_points") (Json.toList toText)
    readmeSummary := ← optional (field "readme_summary") toText }

end RepositoryMap
end CodeAtlas.Report

import CodeAtlas.Build.Basic
import CodeAtlas.Classify.Json
import CodeAtlas.Crawl.EntryPoints
import CodeAtlas.Graph.Decode

/-!
Analyses of repositories and the reports on them.

An analysis walks through a repository once. The entry points that it was asked to begin with come before those that
it finds itself.
-/
namespace CodeAtlas.Report

open CodeAtlas.Classify
open CodeAtlas.Graph
open CodeAtlas.Json

/-- Where a repository comes from. -/
structure RepositoryInfo where
  url : Option String := none
  branch : Option String := none
  commit : Option String := none
deriving DecidableEq, Repr

/-- A graph with what was learned on the way to it. -/
structure Analysis where
  language : String
  languageDetection : LanguageStatistics
  entryPoints : List String
  statistics : Build.Statistics
  graph : CodeGraph

/-- Why a repository could not be analysed. -/
inductive AnalysisError where
  | crawl (root : Text.Bytes) (e : Crawl.Error)
  | noSources (root : Text.Bytes)
  | build (e : Build.Error)
deriving DecidableEq, Repr

/-- The wording of an error and then of what it comes from. -/
def AnalysisError.causes : AnalysisError → List String
  | .crawl root e => ("Failed to crawl " ++ Text.ofBytes root) :: e.causes
  | .noSources root => ["No recognizable source files under " ++ Text.ofBytes root]
  | .build e => e.causes

/-- Adds an entry point at the end, unless it is there already. -/
def addEntryPoint (entryPoints : List String) (path : String) : List String :=
  if entryPoints.contains path then entryPoints else entryPoints ++ [path]

/-- The entry points that were asked for, and then those found that are not among them. -/
def addFound (asked found : List String) : List String :=
  found.foldl addEntryPoint asked

/-- Analyses a repository in a language; in its main language if none is asked for. -/
def analyze (m : Machine) (o : Build.Options) (d : Disk) (root : Text.Bytes) (language : Option String)
    (entryPoints : List String) : Except AnalysisError Analysis :=
  match Crawl.run o.crawl d root with
  | .error e => .error (.crawl root e)
  | .ok c =>
    let detected := c.languageStatistics
    match language.or detected.primaryLanguage with
    | none => .error (.noSources root)
    | some language =>
      let entryPoints := addFound entryPoints (Crawl.entryPoints d c language)
      match Build.ofCrawl m o d c language entryPoints with
      | .error e => .error (.build e)
      | .ok (graph, statistics) => .ok ⟨language, detected, entryPoints, statistics, graph⟩

/-- A report on an analysis. -/
structure AnalysisReport where
  repository : RepositoryInfo
  language : String
  languageDetection : LanguageStatistics
  entryPoints : List String
  statistics : Build.Statistics
  graph : GraphExport

/-- The report on an analysis. -/
def AnalysisReport.ofAnalysis (info : RepositoryInfo) (a : Analysis) : AnalysisReport :=
  ⟨info, a.language, a.languageDetection, a.entryPoints, a.statistics, a.graph.toExport⟩

/-- The JSON form of where a repository comes from. -/
def RepositoryInfo.toJson (r : RepositoryInfo) : Json := .obj [
  ("url", .ofOption .str r.url),
  ("branch", .ofOption .str r.branch),
  ("commit", .ofOption .str r.commit)]

/-- Where a repository comes from, according to a JSON value. -/
def RepositoryInfo.ofJson (j : Json) : Decoded RepositoryInfo := do
  let field ← toFields ["url", "branch", "commit"] 0 j
  return {
    url := ← optional (field "url") toText
    branch := ← optional (field "branch") toText
    commit := ← optional (field "commit") toText }

/-- The JSON form of a report. -/
def AnalysisReport.toJson (r : AnalysisReport) : Json := .obj [
  ("repo_info", r.repository.toJson),
  ("language", .str r.language),
  ("language_detection", r.languageDetection.toJson),
  ("entry_points", .strings r.entryPoints),
  ("stats", r.statistics.toJson),
  ("ccg", r.graph.toJson)]

/-- The report that a JSON value stands for. Fields are read in alphabetical order. -/
def AnalysisReport.ofJson (j : Json) : Decoded AnalysisReport := do
  let field ← toFields
    ["repo_info", "language", "language_detection", "entry_points", "stats", "ccg"] 0 j
  let graph ← present (field "ccg") GraphExport.ofJson
  let entryPoints ← present (field "entry_points") (Json.toList toText)
  let language ← present (field "language") toText
  let languageDetection ← present (field "language_detection") LanguageStatistics.ofJson
  let repository ← present (field "repo_info") RepositoryInfo.ofJson
  let statistics ← present (field "stats") Build.Statistics.ofJson
  return {
    repository := ← need repository
    language := ← need language
    languageDetection := ← need languageDetection
    entryPoints := ← need entryPoints
    statistics := ← need statistics
    graph := ← need graph }

end CodeAtlas.Report

/-
Analyses agree with what can be asked for one by one.

The languages of a repository, its map and its graph can each be asked for, and each
time the repository is walked through anew.  An analysis walks through it once and
tells all of this together.  Nothing but the disk and the settings decides what a walk
finds, so the languages are the same.  Of the entry points that an analysis finds it
leaves out those that it has already, and naming them again would make no difference
for the graph.

The statistics of the languages count the files that the graph is built from.  A build
reads each path once, so both numbers are the same unless several files are listed
under one path, which takes names that are no texts.
-/
import CodeAtlas.Proofs.Build.Accounting
import CodeAtlas.Proofs.Crawl.EntryPoints
import CodeAtlas.Report.Analysis
import CodeAtlas.Report.RepositoryMap

namespace CodeAtlas.Report

open CodeAtlas.Classify
open CodeAtlas.Crawl (fileEntries)
open CodeAtlas.Disk (holding)
open CodeAtlas.Graph
open CodeAtlas.Text

section

variable {m : Machine} {o : Build.Options} {d : Disk} {root : Bytes} {c : Crawl}

end

/-- The analysis `a` tells what the map `map`, the languages `detected` and the graph `built` tell, all of them of the
crawl `c`. -/
structure Agrees (c : Crawl) (map : RepositoryMap) (detected : LanguageStatistics)
    (built : CodeGraph × Build.Statistics) (a : Analysis) : Prop where
  language : map.languageDetection.primaryLanguage = some a.language
  mapped : a.languageDetection = map.languageDetection
  detected : a.languageDetection = detected
  /-- Entry points that the map lists again are left out. -/
  entryPoints : a.entryPoints = map.entryPoints.eraseDups
  graph : a.graph = built.1
  statistics : a.statistics = built.2
  /-- All files of the language are counted for it, and no language has more. -/
  counted : a.languageDetection.fileCounts[a.language]? = some (c.codeFilesOf a.language).length
  maximal : ∀ (other : String) (n : Nat), a.languageDetection.fileCounts[other]? = some n →
    n ≤ (c.codeFilesOf a.language).length
  positive : 0 < a.statistics.filesProcessed
  /-- The files that are processed are all of these, unless some are listed under the same path. -/
  processed : a.statistics.filesProcessed = (c.codeFilesOf a.language).length ↔
    ((c.codeFilesOf a.language).map (·.path)).Nodup

end CodeAtlas.Report

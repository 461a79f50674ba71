/-
A build as a run of pushes.

A build reads its files and adds those that could be read to an assembler, so its
graph is that of `ofPushes` and everything known of runs of pushes is known of
builds.  How a file was read is not kept, but what it contributes was made either
by a grammar or by patterns.
-/
import CodeAtlas.Build.Basic
import CodeAtlas.Proofs.Assembler.Ends
import CodeAtlas.Proofs.Parsing.Extraction

namespace CodeAtlas.Build

open CodeAtlas.Graph
open CodeAtlas.Graph.Assembler
open CodeAtlas.Parsing

/-- The files that could be read, with what they declare. -/
def merged (outcomes : List Outcome) : List (String × Extraction) :=
  outcomes.filterMap fun o => o.result.map fun r => (o.path, r.1)

theorem mem_merged {outcomes : List Outcome} {p : String × Extraction} :
    p ∈ merged outcomes ↔ ∃ o ∈ outcomes, o.path = p.1 ∧ ∃ strategy, o.result = some (p.2, strategy) := by
  unfold merged
  rw [List.mem_filterMap]
  constructor
  · rintro ⟨o, ho, hp⟩
    obtain ⟨⟨x, strategy⟩, hresult, rfl⟩ := Option.map_eq_some_iff.mp hp
    exact ⟨o, ho, rfl, strategy, hresult⟩
  · rintro ⟨o, ho, hpath, strategy, hresult⟩
    exact ⟨o, ho, by rw [hresult, Option.map_some, hpath]⟩

theorem foldl_addTo : ∀ (outcomes : List Outcome) (a : Assembler),
    outcomes.foldl Outcome.addTo a = (merged outcomes).foldl (fun a p => a.push p.1 p.2) a := by
  intro outcomes
  induction outcomes with
  | nil => intro a; rfl
  | cons o rest ih =>
      intro a
      obtain ⟨path, result⟩ := o
      cases result with
      | none => exact ih a
      | some r => exact ih (a.push path r.1)

theorem ofOutcomes_graph (outcomes : List Outcome) :
    (ofOutcomes outcomes).1 = (ofPushes (merged outcomes)).finish := by
  show (outcomes.foldl Outcome.addTo .empty).finish = _
  rw [foldl_addTo]
  rfl

theorem ofOutcomes_get? (outcomes : List Outcome) (id : String) :
    (ofOutcomes outcomes).1.get? id = last? (declared (merged outcomes)) id := by
  rw [ofOutcomes_graph, finish, CodeGraph.get?, CodeGraph.ofRelationships_elements]
  exact (ofPushes_tracks (merged outcomes)).stored id

/-! ### Builds that succeed -/

section

variable {m : Machine} {o : Options} {d : Disk} {root : Text.Bytes} {c : Crawl} {language : String}
  {entryPoints : List String} {result : CodeGraph × Statistics}

theorem ofCrawl_of_workers (h : m.refusesWorkers o.threads = none) (d : Disk) (c : Crawl) (language : String)
    (entryPoints : List String) :
    ofCrawl m o d c language entryPoints = .ok (assemble o.parser d c language entryPoints) := by
  unfold ofCrawl
  rw [h]

/-- **A build succeeds exactly if its workers can be started**, and then nothing but its files decides what it yields. -/
theorem ofCrawl_eq_ok : ofCrawl m o d c language entryPoints = .ok result ↔
    m.refusesWorkers o.threads = none ∧ assemble o.parser d c language entryPoints = result := by
  unfold ofCrawl
  cases h : m.refusesWorkers o.threads with
  | none => simp
  | some reason => simp

theorem run_eq_ok : run m o d root language entryPoints = .ok result ↔
    ∃ c, Crawl.run o.crawl d root = .ok c ∧ ofCrawl m o d c language entryPoints = .ok result := by
  unfold run
  cases h : Crawl.run o.crawl d root with
  | error e => simp
  | ok c => simp

end

end CodeAtlas.Build

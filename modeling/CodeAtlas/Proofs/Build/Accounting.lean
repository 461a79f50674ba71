/-
What the statistics of a build account for.

A build counts in several places.  How a file was read is counted when it is merged,
dropped references are counted by the assembler, and elements and relationships are
counted in the finished graph.  Between the crawl and the build the disk may have
changed, so that some files can no longer be read or have another content.

All counts are brought back to one list, `parsedFiles`: the files of the language
that can be read by now, each with what it declares and how it was read.  It stands
in the order of the crawl and the build follows its entry points, but no count
depends on the order.

A path is read once even if several files are listed under it.  There are such files
where names that are no texts are shown alike.
-/
import CodeAtlas.Proofs.Assembler.Order
import CodeAtlas.Proofs.Build.Sequence
import CodeAtlas.Proofs.Classify.Statistics

namespace CodeAtlas.Build

open CodeAtlas.Graph
open CodeAtlas.Graph.Assembler
open CodeAtlas.Crawl (fileEntries)
open CodeAtlas.Disk (holding)
open CodeAtlas.Parsing
open CodeAtlas.Text

/-! ### The files that are read -/

/-- What a file declares and how it is read, if it can be read now. -/
def parsed? (p : Parser) (now : Disk) (c : Crawl) (language path : String) : Option (Extraction × Strategy) :=
  (now.read (c.pathOf path)).toOption.map fun content => p.run language ⟨path, decodeLossy content⟩

/-- The paths of the files of a language, each once, and in the order of the crawl. -/
def differentPaths (c : Crawl) (language : String) : List String :=
  (codePaths c language).eraseDups

/-- What can be read now under these paths. -/
def parsedFiles (p : Parser) (now : Disk) (c : Crawl) (language : String) : List (Extraction × Strategy) :=
  (differentPaths c language).filterMap (parsed? p now c language)

/-- Files are merged in an order of their different paths. -/
theorem mergeOrder_perm (c : Crawl) (language : String) (entryPoints : List String) :
    (mergeOrder (codePaths c language) entryPoints).Perm (differentPaths c language) := by
  refine (List.perm_ext_iff_of_nodup (Lists.nodup_eraseDups _) (Lists.nodup_eraseDups _)).mpr fun path => ?_
  exact mem_mergeOrder.trans List.mem_eraseDups.symm

section

variable (p : Parser) (now : Disk) (c : Crawl) (language : String)

theorem process_result (path : String) : (process p now c language path).result = parsed? p now c language path := by
  unfold process parsed?
  cases now.read (c.pathOf path) with
  | error e => rfl
  | ok content => rfl

theorem map_snd_readableFiles (order : List String) :
    (readableFiles p now c language order).map Prod.snd =
      (order.filterMap (parsed? p now c language)).map Prod.fst := by
  unfold readableFiles parsed?
  rw [List.map_filterMap, List.map_filterMap]
  simp only [Option.map_map]
  rfl

/-- Whatever the entry points are, the files declare the same together. -/
theorem flatMap_readableFiles_perm (entryPoints : List String) {α : Type} (f : Extraction → List α) :
    ((readableFiles p now c language (mergeOrder (codePaths c language) entryPoints)).flatMap fun q => f q.2).Perm
      ((parsedFiles p now c language).flatMap fun r => f r.1) := by
  rw [← List.flatMap_map Prod.snd, map_snd_readableFiles, List.flatMap_map]
  exact ((mergeOrder_perm c language entryPoints).filterMap _).flatMap_right _

end

/-! ### Ways to read a file -/

/-- Every file is counted once among all, and once by the way in which it was read. -/
theorem foldl_record : ∀ (strategies : List (Option Strategy)) (s : Statistics),
    strategies.foldl Statistics.record s = { s with
      filesProcessed := s.filesProcessed + strategies.length
      grammarParses := s.grammarParses + strategies.count (some .grammar)
      fallbackParses := s.fallbackParses + strategies.count (some .pattern)
      unreadableFiles := s.unreadableFiles + strategies.count none } := by
  intro strategies
  induction strategies with
  | nil => intro s; rfl
  | cons strategy? rest ih =>
      intro s
      rw [List.foldl_cons, ih]
      cases strategy? with
      | none => simp [Statistics.record]; omega
      | some strategy => cases strategy <;> simp [Statistics.record] <;> omega

theorem length_eq_count_strategies (strategies : List (Option Strategy)) :
    strategies.length =
      strategies.count (some .grammar) + strategies.count (some .pattern) + strategies.count none := by
  induction strategies with
  | nil => rfl
  | cons strategy? rest ih =>
      cases strategy? with
      | none => simp; omega
      | some strategy => cases strategy <;> simp <;> omega

theorem count_strategy (f : String → Option (Extraction × Strategy)) (paths : List String) (strategy : Strategy) :
    (paths.map fun path => (f path).map Prod.snd).count (some strategy) =
      (paths.filterMap f).countP (·.2 == strategy) := by
  rw [List.count, List.countP_map, List.countP_filterMap]
  congr 1
  funext path
  cases hf : f path with
  | none => simp [hf]
  | some r => simp [hf]

/-- The files without a way to read them are those that cannot be read. -/
theorem count_unreadable (p : Parser) (now : Disk) (c : Crawl) (language : String) (paths : List String) :
    (paths.map fun path => (parsed? p now c language path).map Prod.snd).count none =
      paths.countP fun path => !(now.read (c.pathOf path)).isOk := by
  unfold parsed?
  rw [List.count, List.countP_map]
  congr 1
  funext path
  rw [Function.comp_apply]
  cases now.read (c.pathOf path) with
  | error e => rfl
  | ok content => rfl

/-! ### What a build counts -/

/-- A map has as many keys as there are different ones in any list of them. -/
theorem size_eq_length_eraseDups {elements : ElementMap} {ids : List String} (h : ∀ id, id ∈ elements ↔ id ∈ ids) :
    elements.size = ids.eraseDups.length := by
  have hkeys : elements.keys.Perm ids.eraseDups := by
    refine (List.perm_ext_iff_of_nodup Std.TreeMap.nodup_keys (Lists.nodup_eraseDups ids)).mpr fun id => ?_
    rw [Std.TreeMap.mem_keys, List.mem_eraseDups]
    exact h id
  rw [← Std.TreeMap.length_keys, hkeys.length_eq]

section

variable (p : Parser) (now : Disk) (c : Crawl) (language : String) (entryPoints : List String)

theorem assemble_dropped : (assemble p now c language entryPoints).2.droppedReferences =
    (ofPushes (readableFiles p now c language (mergeOrder (codePaths c language) entryPoints))).dropped := by
  unfold assemble ofOutcomes
  simp only [foldl_addTo, merged_process]
  rfl

/-- The files are counted by the ways in which they can be read, whatever the order in which they are merged. -/
theorem assemble_strategies :
    let s := (assemble p now c language entryPoints).2
    let strategies := (differentPaths c language).map fun path => (parsed? p now c language path).map Prod.snd
    s.filesProcessed = strategies.length ∧ s.grammarParses = strategies.count (some .grammar) ∧
      s.fallbackParses = strategies.count (some .pattern) ∧ s.unreadableFiles = strategies.count none := by
  intro s strategies
  have hstrategies : (((mergeOrder (codePaths c language) entryPoints).map (process p now c language)).map
      fun o => o.result.map Prod.snd).Perm strategies := by
    rw [List.map_map]
    simp only [Function.comp_def, process_result]
    exact (mergeOrder_perm c language entryPoints).map _
  simp only [s, assemble, ofOutcomes]
  rw [foldl_record]
  simp only [Nat.zero_add]
  exact ⟨hstrategies.length_eq, hstrategies.count_eq _, hstrategies.count_eq _, hstrategies.count_eq _⟩

/-- Every path of a file of the language is counted once, whatever is named. -/
theorem assemble_filesProcessed :
    (assemble p now c language entryPoints).2.filesProcessed = (differentPaths c language).length := by
  rw [(assemble_strategies p now c language entryPoints).1, List.length_map]

theorem mem_assemble_elements (id : String) : id ∈ (assemble p now c language entryPoints).1.elements ↔
    id ∈ (parsedFiles p now c language).flatMap fun r => r.1.elements.map Element.id := by
  rw [assemble_graph, finish, CodeGraph.ofRelationships_elements, ← Std.TreeMap.contains_iff_mem,
    (ofPushes_tracks _).contains, declared, List.map_flatMap]
  exact (flatMap_readableFiles_perm p now c language entryPoints fun x => x.elements.map Element.id).mem_iff

theorem assemble_relationships_add_dropped :
    (assemble p now c language entryPoints).1.relationships.length +
        (assemble p now c language entryPoints).2.droppedReferences =
      ((parsedFiles p now c language).flatMap (·.1.relationships)).length +
        ((parsedFiles p now c language).flatMap (·.1.references)).length := by
  rw [assemble_graph, assemble_dropped, finish, CodeGraph.ofRelationships_relationships,
    length_relationships_add_dropped,
    (flatMap_readableFiles_perm p now c language entryPoints Extraction.relationships).length_eq,
    (flatMap_readableFiles_perm p now c language entryPoints Extraction.references).length_eq]

end

/-! ### The balance -/

/-- The statistics `s` of a build of the graph `g` account for every path under which files of the language are listed,
and for all that is declared in what can be read there. -/
structure Accounts (p : Parser) (now : Disk) (c : Crawl) (language : String) (g : CodeGraph) (s : Statistics) :
    Prop where
  /-- Every file is read by its grammar, by patterns or not at all. -/
  processed : s.filesProcessed = s.grammarParses + s.fallbackParses + s.unreadableFiles
  files : s.filesProcessed = (differentPaths c language).length
  /-- Files are left out exactly if some of them are listed under the same path. -/
  all : s.filesProcessed = (c.codeFilesOf language).length ↔ ((c.codeFilesOf language).map (·.path)).Nodup
  /-- All files are counted for the language when the repository is looked at. -/
  detected : c.languageStatistics.fileCounts.getD language 0 = (c.codeFilesOf language).length
  grammar : s.grammarParses = (parsedFiles p now c language).countP (·.2 == .grammar)
  fallback : s.fallbackParses = (parsedFiles p now c language).countP (·.2 == .pattern)
  unreadable : s.unreadableFiles = (differentPaths c language).countP fun path => !(now.read (c.pathOf path)).isOk
  /-- Declarations with the same identifier are one element. -/
  elements : s.elements = ((parsedFiles p now c language).flatMap fun r => r.1.elements.map Element.id).eraseDups.length
  nodes : s.elements = g.nodes.length
  relationships : s.relationships = g.relationships.length
  /-- Every relationship that a file declares is there, and every reference has led to one or is dropped. -/
  references : s.relationships + s.droppedReferences =
    ((parsedFiles p now c language).flatMap (·.1.relationships)).length +
      ((parsedFiles p now c language).flatMap (·.1.references)).length

theorem fileCounts_getD (c : Crawl) (language : String) :
    c.languageStatistics.fileCounts.getD language 0 = (c.codeFilesOf language).length := by
  rw [Crawl.length_codeFilesOf]
  exact Classify.LanguageStatistics.getD_foldl_count _ language

theorem length_differentPaths_eq_iff {c : Crawl} {language : String} :
    (differentPaths c language).length = (c.codeFilesOf language).length ↔
      ((c.codeFilesOf language).map (·.path)).Nodup := by
  rw [← Lists.length_eraseDups_eq_iff, List.length_map]
  rfl

theorem assemble_accounts (p : Parser) (now : Disk) (c : Crawl) (language : String) (entryPoints : List String) :
    Accounts p now c language (assemble p now c language entryPoints).1 (assemble p now c language entryPoints).2 := by
  obtain ⟨hfiles, hgrammar, hfallback, hunreadable⟩ := assemble_strategies p now c language entryPoints
  have hlength := assemble_filesProcessed p now c language entryPoints
  exact {
    processed := by rw [hfiles, hgrammar, hfallback, hunreadable, length_eq_count_strategies]
    files := hlength
    all := by rw [hlength]; exact length_differentPaths_eq_iff
    detected := fileCounts_getD c language
    grammar := hgrammar.trans (count_strategy _ _ _)
    fallback := hfallback.trans (count_strategy _ _ _)
    unreadable := hunreadable.trans (count_unreadable p now c language _)
    elements := size_eq_length_eraseDups (mem_assemble_elements p now c language entryPoints)
    nodes := Std.TreeMap.length_keys.symm
    relationships := rfl
    references := assemble_relationships_add_dropped p now c language entryPoints }

/--
**The statistics of a build account for everything.**  For every crawl, and whatever
has happened on the disk since then, every way to parse and every list of entry
points, each path of a file of the language is counted once by the way in which it was
read, each identifier that is declared is one element, and each relationship and
reference that was found is either in the graph or dropped.  After a crawl of a
repository in which names are shown apart, every file of the language is counted, and
as many are counted when the repository is looked at.
-/
theorem statistics_account_for_everything (m : Machine) (o : Options) (now : Disk) (c : Crawl) (language : String)
    (entryPoints : List String) (g : CodeGraph) (s : Statistics)
    (h : ofCrawl m o now c language entryPoints = .ok (g, s)) :
    Accounts o.parser now c language g s ∧
      ∀ (settings : Crawl.Settings) (d : Disk) (root : Bytes), d.root.Allowed → d.root.Distinct →
        Crawl.ShownApart d root → Crawl.run settings d root = .ok c →
        s.filesProcessed = (c.codeFilesOf language).length ∧
          s.filesProcessed = c.languageStatistics.fileCounts.getD language 0 := by
  have haccounts : Accounts o.parser now c language g s := by
    have hassembled := assemble_accounts o.parser now c language entryPoints
    rwa [(ofCrawl_eq_ok.mp h).2] at hassembled
  refine ⟨haccounts, fun settings d root hallowed hdistinct hshown hc => ?_⟩
  have hnodup := nodup_codePaths (Crawl.run_nodup_paths hallowed hdistinct hshown hc) language
  rw [haccounts.detected, and_self]
  exact haccounts.all.mpr hnodup

/-- Two of the three files of Python, both with another content. -/
def changedFiles : List (Bytes × ByteArray) := [
  (bytes "a.py", "class A(B): x = 1\n".toUTF8), (bytes "b.py", "def f():\n".toUTF8)]

/-- A parser that knows the tree of the first of them only. -/
def changedParser : Parser where
  grammars := [{ Language.python with
    parse := fun text =>
      if text = "class A(B): x = 1\n" then some ⟨moduleOf [Line.derivedClass ⟨0, 0⟩], false⟩ else none }]
  rejectSyntaxErrors := true

theorem changedFiles_parsed {c : Crawl} (h : Crawl.Sees severalFiles c) :
    parsedFiles changedParser (holding (fileEntries changedFiles)) c "python" =
      changedFiles.map fun f => changedParser.run "python" ⟨ofBytes f.1, decodeLossy f.2⟩ := by
  have horder : Crawl.InOrder changedFiles := by decide
  have hparsed : ∀ f ∈ changedFiles,
      parsed? changedParser (holding (fileEntries changedFiles)) c "python" (ofBytes f.1) =
        some (changedParser.run "python" ⟨ofBytes f.1, decodeLossy f.2⟩) := by
    intro f hf
    have htext : ∀ f ∈ changedFiles, IsText f.1 := by decide +kernel
    unfold parsed?
    rw [h.pathOf_eq (htext f hf), horder.read_eq hf]
    rfl
  have hmissing : parsed? changedParser (holding (fileEntries changedFiles)) c "python" (ofBytes (bytes "d.py")) =
      none := by
    obtain ⟨e, he⟩ := Crawl.read_fileEntries_of_not_mem (by decide : Disk.AllowedName (bytes "d.py"))
      (by decide : bytes "d.py" ∉ changedFiles.map Prod.fst)
    unfold parsed?
    rw [h.pathOf_eq (isText_bytes _), he]
    rfl
  have hpaths : differentPaths c "python" = changedFiles.map (fun f => ofBytes f.1) ++ [ofBytes (bytes "d.py")] := by
    unfold differentPaths
    rw [severalFiles_paths h]
    decide +kernel
  unfold parsedFiles
  rw [hpaths, List.filterMap_append, List.filterMap_map, List.filterMap_cons_none hmissing, List.filterMap_nil,
    List.append_nil, ← List.filterMap_eq_map]
  exact List.filterMap_congr hparsed

/-- Of three files one is read by its grammar, one by patterns, and one is gone.  The class that the first of them
refers to is nowhere. -/
theorem statistics_of_changed_files :
    ∃ (o : Options) (c : Crawl) (g : CodeGraph) (s : Statistics),
      Crawl.run ⟨[], 1000, false⟩ (holding (fileEntries severalFiles)) (bytes "repo") = .ok c ∧
      ofCrawl .ready o (holding (fileEntries changedFiles)) c "python" ["b.py"] = .ok (g, s) ∧
      Accounts changedParser (holding (fileEntries changedFiles)) c "python" g s ∧
      s.grammarParses = 1 ∧ s.fallbackParses = 1 ∧ s.filesProcessed = 3 ∧
      c.languageStatistics.fileCounts.getD "python" 0 = 3 ∧ s.elements = 3 ∧
      s.relationships + s.droppedReferences = 2 := by
  obtain ⟨c, hc, hseen⟩ := Crawl.run_fileEntries severalFiles_inOrder
  let o : Options := ⟨0, ⟨[], 1000, false⟩, changedParser⟩
  obtain ⟨⟨g, s⟩, hbuilt⟩ :
      ∃ result, ofCrawl .ready o (holding (fileEntries changedFiles)) c "python" ["b.py"] = .ok result :=
    ⟨_, ofCrawl_of_workers rfl _ c "python" ["b.py"]⟩
  obtain ⟨haccounts, hcounted⟩ := statistics_account_for_everything .ready o _ c "python" ["b.py"] g s hbuilt
  have hfiles : s.filesProcessed = 3 := by
    rw [haccounts.files, differentPaths, severalFiles_paths hseen]
    decide
  obtain ⟨-, hdetected⟩ := hcounted _ _ _ (Disk.holding_allowed severalFiles_inOrder.entries_allowed)
    (Disk.holding_apartBy severalFiles_inOrder.entries_distinct) severalFiles_shownApart hc
  have hparsed : parsedFiles o.parser _ c "python" = _ := changedFiles_parsed hseen
  refine ⟨o, c, g, s, hc, hbuilt, haccounts, ?_, ?_, hfiles, hdetected.symm.trans hfiles, ?_, ?_⟩
  · rw [haccounts.grammar, hparsed]
    decide +kernel
  · rw [haccounts.fallback, hparsed]
    decide +kernel
  · rw [haccounts.elements, hparsed]
    decide +kernel
  · rw [haccounts.references, hparsed]
    decide +kernel

section

variable {c : Crawl} (h : Crawl.Sees Crawl.latin c)
include h

/-- Both files with Latin-1 names are listed, under one path. -/
theorem latin_paths : codePaths c "python" = List.replicate 2 (ofBytes (Crawl.latinName 0xe8)) := by
  rw [codePaths_of_sees h]
  decide +kernel

theorem latin_codeFiles : (c.codeFilesOf "python").length = 2 := by
  rw [← List.length_map (f := (·.path))]
  exact congrArg List.length (latin_paths h)

theorem latin_differentPaths : (differentPaths c "python").length = 1 := by
  rw [differentPaths, latin_paths h]
  simp [List.replicate_succ, List.eraseDups_cons]

end

/-- **Files that are listed under one path are counted once by a build, but each when the repository is looked at.** -/
theorem latin_files_counted_once :
    ∃ c, Crawl.run ⟨[], 1000, false⟩ (holding (fileEntries Crawl.latin)) (bytes "repo") = .ok c ∧
      (c.codeFilesOf "python").length = 2 ∧ c.languageStatistics.fileCounts.getD "python" 0 = 2 ∧
      ∃ (g : CodeGraph) (s : Statistics),
        ofCrawl .ready .standard (holding (fileEntries Crawl.latin)) c "python" [] = .ok (g, s) ∧
          s.filesProcessed = 1 := by
  obtain ⟨c, hc, hseen⟩ := Crawl.run_fileEntries Crawl.latin_inOrder
  have hfiles := latin_codeFiles hseen
  exact ⟨c, hc, hfiles, (fileCounts_getD c "python").trans hfiles, _, _, ofCrawl_of_workers rfl _ _ _ _,
    (assemble_filesProcessed _ _ _ _ _).trans (latin_differentPaths hseen)⟩

end CodeAtlas.Build

/-
The order in which a build merges its files.

Entry points come from outside: they may be repeated, begin with steps to the working
directory, name nothing or name a file of another language.  A build makes one list
of those that are its files and of all its files, and drops what it has seen before.
`EntriesFirst` says what comes of it without such a list: every file stands in the
order once, those that are named before all others, by the place where each is named
first, and the others as the walk found them.

If no path is listed twice, nothing is dropped but what was named.  The relationships
of the graph then follow this order, each file with what it contributes at its turn.
-/
import CodeAtlas.Proofs.Build.Order
import CodeAtlas.Proofs.Crawl.Tree

namespace CodeAtlas.Build

open CodeAtlas.Graph
open CodeAtlas.Graph.Assembler
open CodeAtlas.Crawl (fileEntries)
open CodeAtlas.Disk (holding)
open CodeAtlas.Parsing
open CodeAtlas.Text

/-! ### Steps to the working directory -/

/-- The path `q` is what is left of `p` without the steps to the working directory at its beginning. -/
structure Trimmed (p q : String) : Prop where
  steps : ∃ n, p.toList = (List.replicate n ['.', '/']).flatten ++ q.toList
  plain : ¬ ['.', '/'] <+: q.toList

theorem exists_steps (path : List Char) :
    ∃ n, path = (List.replicate n ['.', '/']).flatten ++ withoutDotSlash path := by
  fun_induction withoutDotSlash path with
  | case1 rest ih =>
      obtain ⟨n, hn⟩ := ih
      refine ⟨n + 1, ?_⟩
      rw [List.replicate_succ, List.flatten_cons, List.append_assoc, ← hn]
      rfl
  | case2 path _ => exact ⟨0, rfl⟩

theorem withoutDotSlash_plain (path : List Char) : ¬ ['.', '/'] <+: withoutDotSlash path := by
  fun_induction withoutDotSlash path with
  | case1 rest ih => exact ih
  | case2 path hpath =>
      rintro ⟨rest, heq⟩
      exact hpath rest heq.symm

theorem withoutDotSlash_steps {path : List Char} (h : ¬ ['.', '/'] <+: path) : ∀ n : Nat,
    withoutDotSlash ((List.replicate n ['.', '/']).flatten ++ path) = path := by
  intro n
  induction n with
  | zero => exact withoutDotSlash_of_no_step h
  | succ n ih => exact ih

/-- What is left of a path without the steps to the working directory at its beginning. -/
def trimmed (path : String) : String :=
  String.ofList (withoutDotSlash path.toList)

/-- **What is left of a path is determined by it.** -/
theorem trimmed_iff {p q : String} : Trimmed p q ↔ q = trimmed p := by
  constructor
  · rintro ⟨⟨n, hsteps⟩, hplain⟩
    rw [trimmed, hsteps, withoutDotSlash_steps hplain, String.ofList_toList]
  · rintro rfl
    unfold trimmed
    constructor
    · rw [String.toList_ofList]
      exact exists_steps p.toList
    · rw [String.toList_ofList]
      exact withoutDotSlash_plain p.toList

/-! ### Entry points before all others -/

/-- The files `files` in the order `order`, each of them once: first those among `named`, by the place where each is
named first, and then the others, by the place where each is listed first. -/
structure EntriesFirst (files named order : List String) : Prop where
  nodup : order.Nodup
  mem : ∀ p, p ∈ order ↔ p ∈ files
  parts : ∃ first rest, order = first ++ rest ∧
    (∀ p, p ∈ first ↔ p ∈ named ∧ p ∈ files) ∧ (first.Pairwise fun a b => named.idxOf a < named.idxOf b) ∧
    (∀ p, p ∈ rest ↔ p ∉ named ∧ p ∈ files) ∧ (rest.Pairwise fun a b => files.idxOf a < files.idxOf b)
  /-- If no file is listed twice, the others are all as they are listed. -/
  rest : files.Nodup → ∃ first, order = first ++ files.filter fun p => !named.contains p
  perm : files.Nodup → order.Perm files

theorem removeAll_filter_contains (files named : List String) :
    files.removeAll (named.filter files.contains) = files.filter fun p => !named.contains p := by
  unfold List.removeAll
  refine List.filter_congr fun p hp => ?_
  rw [List.elem_eq_contains]
  congr 1
  rw [Bool.eq_iff_iff, List.contains_iff_mem, List.contains_iff_mem, List.mem_filter, List.contains_iff_mem]
  exact ⟨fun h => h.1, fun h => ⟨h, hp⟩⟩

theorem mergeOrder_eq (files entryPoints : List String) :
    mergeOrder files entryPoints = ((entryPoints.map trimmed).filter files.contains).eraseDups ++
      (files.filter fun p => !(entryPoints.map trimmed).contains p).eraseDups := by
  show ((entryPoints.map trimmed).filter files.contains ++ files).eraseDups = _
  rw [List.eraseDups_append, removeAll_filter_contains]

/-- Without repetitions, what is kept of a list stands in the order of first places. -/
theorem eraseDups_filter_pairwise {l : List String} (p : String → Bool) :
    (l.filter p).eraseDups.Pairwise fun a b => l.idxOf a < l.idxOf b := by
  refine (Lists.eraseDups_pairwise_idxOf _).imp_of_mem ?_
  intro a b _ hb hlt
  exact Lists.idxOf_lt_of_filter (List.mem_filter.mp (List.mem_eraseDups.mp hb)).2 hlt

theorem mergeOrder_entriesFirst (files entryPoints : List String) :
    EntriesFirst files (entryPoints.map trimmed) (mergeOrder files entryPoints) := by
  have horder : (mergeOrder files entryPoints).Nodup := Lists.nodup_eraseDups _
  refine ⟨horder, fun p => mem_mergeOrder, ⟨_, _, mergeOrder_eq files entryPoints, ?_, ?_, ?_, ?_⟩, ?_, ?_⟩
  · intro p
    rw [List.mem_eraseDups, List.mem_filter, List.contains_iff_mem]
  · exact eraseDups_filter_pairwise files.contains
  · intro p
    simp only [List.mem_eraseDups, List.mem_filter, Bool.not_eq_true', ← Bool.not_eq_true, List.contains_iff_mem]
    exact and_comm
  · exact eraseDups_filter_pairwise fun p => !(entryPoints.map trimmed).contains p
  · intro hnodup
    refine ⟨((entryPoints.map trimmed).filter files.contains).eraseDups, ?_⟩
    rw [mergeOrder_eq, Lists.eraseDups_of_nodup (hnodup.filter fun p => !(entryPoints.map trimmed).contains p)]
  · exact fun hnodup => (List.perm_ext_iff_of_nodup horder hnodup).mpr fun p => mem_mergeOrder

/-- A build lists no file twice. -/
theorem nodup_codePaths {c : Crawl} (h : (c.files.map Crawl.CrawledFile.path).Nodup) (language : String) :
    (codePaths c language).Nodup :=
  h.sublist ((List.filter_sublist.trans List.filter_sublist).map _)

/-! ### What the files contribute -/

/-- Those of some files that can be read, with what they declare. -/
def readableFiles (p : Parser) (d : Disk) (c : Crawl) (language : String) (order : List String) :
    List (String × Extraction) :=
  order.filterMap fun path => (d.read (c.pathOf path)).toOption.map fun content =>
    (path, (p.run language ⟨path, decodeLossy content⟩).1)

theorem merged_process (p : Parser) (d : Disk) (c : Crawl) (language : String) (order : List String) :
    merged (order.map (process p d c language)) = readableFiles p d c language order := by
  unfold merged readableFiles
  rw [List.filterMap_map]
  congr 1
  funext path
  unfold process
  rw [Function.comp_apply]
  cases d.read (c.pathOf path) with
  | error e => rfl
  | ok content => rfl

theorem assemble_graph (p : Parser) (d : Disk) (c : Crawl) (language : String) (entryPoints : List String) :
    (assemble p d c language entryPoints).1 =
      (ofPushes (readableFiles p d c language (mergeOrder (codePaths c language) entryPoints))).finish := by
  unfold assemble
  rw [ofOutcomes_graph, merged_process]
  rfl

theorem assemble_relationships (p : Parser) (d : Disk) (c : Crawl) (language : String) (entryPoints : List String) :
    (assemble p d c language entryPoints).1.relationships =
      (perPush contribution
        (readableFiles p d c language (mergeOrder (codePaths c language) entryPoints))).flatten := by
  rw [assemble_graph, finish, CodeGraph.ofRelationships_relationships, ofPushes_relationships]

/-! ### All parts together -/

/--
**A build merges its entry points first and every file once.**  For every crawl, every
language and every list of entry points, the files of the language are merged in an
order that begins with those that are named.  Whenever its workers can be started, a
build yields a graph, and the relationships of the graph are what the readable files
contribute in this order, whatever has happened on the disk since the crawl.  Of a
repository in which names are shown apart, no file is left out for another one of the
same path.
-/
theorem merges_entry_points_first (c : Crawl) (language : String) (entryPoints : List String) :
    ∃ trim : String → String, (∀ p q, Trimmed p q ↔ q = trim p) ∧
      EntriesFirst ((c.codeFilesOf language).map (·.path)) (entryPoints.map trim)
        (mergeOrder ((c.codeFilesOf language).map (·.path)) entryPoints) ∧
      (∀ (m : Machine) (o : Options) (now : Disk), m.refusesWorkers o.threads = none →
        ∃ g s, ofCrawl m o now c language entryPoints = .ok (g, s) ∧ g.relationships =
          (perPush contribution (readableFiles o.parser now c language
            (mergeOrder ((c.codeFilesOf language).map (·.path)) entryPoints))).flatten) ∧
      ∀ (s : Crawl.Settings) (d : Disk) (root : Bytes), d.root.Allowed → d.root.Distinct → Crawl.ShownApart d root →
        Crawl.run s d root = .ok c → (mergeOrder ((c.codeFilesOf language).map (·.path)) entryPoints).Perm
          ((c.codeFilesOf language).map (·.path)) := by
  have hfirst := mergeOrder_entriesFirst ((c.codeFilesOf language).map (·.path)) entryPoints
  refine ⟨trimmed, fun p q => trimmed_iff, hfirst, ?_, ?_⟩
  · intro m o now hm
    refine ⟨_, _, ofCrawl_of_workers hm now c language entryPoints, ?_⟩
    exact assemble_relationships o.parser now c language entryPoints
  · intro s d root hallowed hdistinct hshown hc
    exact hfirst.perm (nodup_codePaths (Crawl.run_nodup_paths hallowed hdistinct hshown hc) language)

/-- Three files of Python and one of Rust. -/
def severalFiles : List (Bytes × ByteArray) := [
  (bytes "a.py", "x = 1\n".toUTF8), (bytes "b.py", "x = 1\n".toUTF8), (bytes "c.rs", "fn f() {}\n".toUTF8),
  (bytes "d.py", "x = 1\n".toUTF8)]

/-- One file twice and once with a step to the working directory, a file of another language and one that is missing. -/
def severalEntryPoints : List String :=
  ["././d.py", "c.rs", "missing.py", "d.py", "./b.py"]

theorem severalFiles_inOrder : Crawl.InOrder severalFiles := by
  decide

theorem severalFiles_shownApart : Crawl.ShownApart (holding (fileEntries severalFiles)) (bytes "repo") :=
  severalFiles_inOrder.shownApart (by decide +kernel)

theorem severalFiles_paths {c : Crawl} (h : Crawl.Sees severalFiles c) :
    codePaths c "python" = ["a.py", "b.py", "d.py"] := by
  rw [codePaths_of_sees h]
  decide +kernel

theorem merges_several_entry_points :
    ∃ c, Crawl.run ⟨[], 1000, false⟩ (holding (fileEntries severalFiles)) (bytes "repo") = .ok c ∧
    mergeOrder (codePaths c "python") severalEntryPoints = ["d.py", "b.py", "a.py"] ∧
    (∃ trim : String → String, (∀ p q, Trimmed p q ↔ q = trim p) ∧
      EntriesFirst (codePaths c "python") (severalEntryPoints.map trim) ["d.py", "b.py", "a.py"]) ∧
    ["d.py", "b.py", "a.py"].Perm (codePaths c "python") := by
  have horder := severalFiles_inOrder
  have hdistinct := Disk.holding_apartBy horder.entries_distinct
  obtain ⟨c, hc, hseen⟩ := Crawl.run_fileEntries horder
  have hmerged : mergeOrder (codePaths c "python") severalEntryPoints = ["d.py", "b.py", "a.py"] := by
    rw [severalFiles_paths hseen]
    decide +kernel
  obtain ⟨trim, htrim, hfirst, -, hperm⟩ := merges_entry_points_first c "python" severalEntryPoints
  have hperm := hperm _ _ _ (Disk.holding_allowed horder.entries_allowed) hdistinct severalFiles_shownApart hc
  refine ⟨c, hc, hmerged, ⟨trim, htrim, ?_⟩, ?_⟩
  · rw [← hmerged]
    exact hfirst
  · rw [← hmerged]
    exact hperm

end CodeAtlas.Build

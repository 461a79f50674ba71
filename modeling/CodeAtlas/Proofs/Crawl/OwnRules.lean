/-
What the rules of a repository itself can do.

A repository may bring a file of rules along, and its lines may also take back what
other rules say.  They are put before the rules that a user gives, and the last rule
that is about an entry decides.  So they are heard only where the user's rules say
nothing, and there is nothing to take back: with them more is passed over, and never
less.

A walk that passes over more lists less.  This is an induction over the entries of
the disk.  What it needs is that the files of a directory are those of its entries,
one entry after the other in the order of their names, whatever is passed over; the
walk sorts only what it has visited, and `filterMap_mergeSort` says that it could have
sorted before.
-/
import CodeAtlas.Proofs.Crawl.Files
import Mathlib.Data.List.Basic
import Mathlib.Data.List.Flatten

namespace CodeAtlas.Ignore

/-- What some rules pass over is passed over as well if other rules stand before them. -/
theorem ignores_append {rules : List Rule} {path : Text.Bytes} {isDirectory : Bool} (before : List Rule)
    (h : ignores rules path isDirectory = true) : ignores (before ++ rules) path isDirectory = true := by
  unfold ignores at h ⊢
  rw [List.reverse_append, List.find?_append]
  cases hlast : rules.reverse.find? (·.appliesTo path isDirectory) with
  | none => simp [hlast] at h
  | some r => simpa [hlast] using h

end CodeAtlas.Ignore

namespace CodeAtlas.Crawl

open CodeAtlas.Disk
open CodeAtlas.Text

/-! ### What a walk lists, entry by entry -/

/-- The entries of a directory in the order of their names. -/
def inOrder (entries : List (Bytes × Entry)) : List (Bytes × Entry) :=
  entries.mergeSort fun p q => p.1 ≤ q.1

/-- The files that a walk lists when it comes to an entry of the directory under the names `above`. -/
def listed (w : Walk) (above : List Bytes) (q : Bytes × Entry) : List CrawledFile :=
  (visit? w above q.1 q.2).toList.flatMap Visit.files

section

variable (w : Walk) (above : List Bytes) (name : Bytes)

/-- The files of a directory are those of its entries in the order of their names, whatever is passed over. -/
theorem ofDirectory_files (shown path : String) (entries : List (Bytes × Entry)) :
    (Visit.ofDirectory shown path (visitAll w above entries)).files = (inOrder entries).flatMap (listed w above) := by
  have hsort : (visitAll w above entries).mergeSort (fun a b => a.1 ≤ b.1) =
      (inOrder entries).filterMap fun q => (visit? w above q.1 q.2).map (q.1, ·) := by
    rw [visitAll_eq]
    refine Lists.filterMap_mergeSort (Lists.key_trans Prod.fst) (Lists.key_total Prod.fst)
      (Lists.key_trans fun v : Bytes × Visit => v.1) (Lists.key_total fun v : Bytes × Visit => v.1) ?_ entries
    intro p q u v hu hv
    obtain ⟨-, -, rfl⟩ := Option.map_eq_some_iff.mp hu
    obtain ⟨-, -, rfl⟩ := Option.map_eq_some_iff.mp hv
    rfl
  unfold Visit.ofDirectory
  simp only []
  rw [hsort, List.filterMap_eq_flatMap_toList, List.flatMap_map, List.flatMap_assoc]
  refine List.flatMap_congr fun q _ => ?_
  unfold listed
  cases visit? w above q.1 q.2 <;> rfl

theorem listed_file (content : ByteArray) : listed w above (name, .file content) =
    if w.passes (above ++ [name]) false then []
    else [.ofSniff (shownPath (above ++ [name])) (w.sniffs (above ++ [name]))] := by
  unfold listed
  rw [visit?]
  by_cases h : w.passes (above ++ [name]) false = true
  · simp [h]
  · simp [h, visitFile, CrawledFile.ofSniff]

theorem listed_link (target : Bytes) : listed w above (name, .link target) = [] := by
  unfold listed
  rw [visit?_link]
  rfl

theorem listed_directory (entries : List (Bytes × Entry)) :
    listed w above (name, .directory entries) =
      if w.passes (above ++ [name]) true then []
      else if w.lists (above ++ [name]) then (inOrder entries).flatMap (listed w (above ++ [name]))
      else [] := by
  unfold listed
  rw [visit?]
  by_cases h : w.passes (above ++ [name]) true = true
  · simp [h]
  · simp only [h, Bool.false_eq_true, if_false, Option.toList_some, List.flatMap_singleton]
    by_cases hlists : w.lists (above ++ [name]) = true
    · rw [if_pos hlists, if_pos hlists, ofDirectory_files]
      rfl
    · rw [if_neg hlists, if_neg hlists]
      simp [Visit.ofDirectory]

theorem visitRoot_files (root : Bytes) (entries : List (Bytes × Entry)) :
    (visitRoot w root entries).files = (inOrder entries).flatMap (listed w []) :=
  ofDirectory_files w [] _ "." entries

end

/-! ### Passing over more -/

section

variable {less more : Walk}

theorem sublist_unless {skipped skipped' : Bool} {files files' : List CrawledFile} (h : skipped = true → skipped' = true)
    (hfiles : List.Sublist files' files) :
    List.Sublist (if skipped' then [] else files') (if skipped then [] else files) := by
  by_cases hskipped : skipped = true
  · rw [if_pos hskipped, if_pos (h hskipped)]
  · rw [if_neg hskipped]
    split
    · exact List.nil_sublist _
    · exact hfiles

theorem flatMap_listed_sublist {above : List Bytes} {entries : List (Bytes × Entry)}
    (h : ∀ q ∈ entries, List.Sublist (listed more above q) (listed less above q)) :
    List.Sublist ((inOrder entries).flatMap (listed more above)) ((inOrder entries).flatMap (listed less above)) := by
  refine List.Sublist.flatMap_right _ fun q hq => ?_
  exact h q (List.mem_mergeSort.mp hq)

/-- **A walk that passes over more lists less**, in the same order. -/
theorem listed_sublist (hlists : more.lists = less.lists) (hsniffs : more.sniffs = less.sniffs)
    (h : ∀ names isDirectory, less.passes names isDirectory = true → more.passes names isDirectory = true)
    (e : Entry) : ∀ (above : List Bytes) (name : Bytes),
      List.Sublist (listed more above (name, e)) (listed less above (name, e)) := by
  induction e using Entry.induction with
  | file content =>
      intro above name
      rw [listed_file, listed_file, hsniffs]
      exact sublist_unless (h _ _) (List.Sublist.refl _)
  | link target =>
      intro above name
      rw [listed_link, listed_link]
  | directory entries ih =>
      intro above name
      rw [listed_directory, listed_directory, hlists]
      refine sublist_unless (h _ _) ?_
      split
      · exact flatMap_listed_sublist fun q hq => ih q hq (above ++ [name]) q.1
      · exact List.Sublist.refl _

end

/-! ### Crawls -/

/-- The rules that a repository has in a file of its own, none if there is no such file. -/
def ownRules (d : Disk) (root : Bytes) : List Ignore.Rule :=
  match d.read (Path.join root (bytes ".gitignore")) with
  | .ok content => Ignore.Rule.ofFile content
  | .error _ => []

section

variable (s : Settings) (d : Disk) (root : Bytes)

theorem rules_with_own : Crawl.rules { s with useGitignore := true } d root =
    (Ignore.Rule.ofLines s.ignorePatterns).map (ownRules d root ++ ·) := rfl

theorem rules_without_own :
    Crawl.rules { s with useGitignore := false } d root = Ignore.Rule.ofLines s.ignorePatterns := by
  unfold Crawl.rules
  cases Ignore.Rule.ofLines s.ignorePatterns with
  | error e => rfl
  | ok rules => rfl

/-- Only the rules of the user can make a crawl fail. -/
theorem run_error_iff (e : Error) :
    run { s with useGitignore := true } d root = .error e ↔ run { s with useGitignore := false } d root = .error e := by
  unfold run
  rw [rules_with_own, rules_without_own]
  cases d.reach root with
  | error io => exact Iff.rfl
  | ok found =>
      obtain ⟨place, e⟩ := found
      cases e with
      | file content => exact Iff.rfl
      | link target => exact Iff.rfl
      | directory _ =>
          cases d.list root with
          | error io => exact Iff.rfl
          | ok entries =>
              cases Ignore.Rule.ofLines s.ignorePatterns with
              | error io => exact Iff.rfl
              | ok rules => simp [Except.map]

end

/--
**The rules of a repository itself never add anything.**  Whatever they say, a crawl
that uses them succeeds if the one without them does and fails with the same error
otherwise; it lists, of the files that the other one lists, some in the same order
and with the same records; and what the user's rules pass over is passed over with
them.
-/
theorem own_rules_only_remove (s : Settings) (d : Disk) (root : Bytes) :
    (∀ e, run { s with useGitignore := true } d root = .error e ↔
      run { s with useGitignore := false } d root = .error e) ∧
    ∀ c, run { s with useGitignore := false } d root = .ok c →
      ∃ c', run { s with useGitignore := true } d root = .ok c' ∧ List.Sublist c'.files c.files ∧
        ∀ rules rules', Crawl.rules { s with useGitignore := false } d root = .ok rules →
          Crawl.rules { s with useGitignore := true } d root = .ok rules' →
            ∀ path isDirectory, Ignore.ignores rules path isDirectory = true →
              Ignore.ignores rules' path isDirectory = true := by
  refine ⟨run_error_iff s d root, ?_⟩
  intro c hc
  obtain ⟨place, entries, rules, hreach, hlist, hrules, rfl⟩ := run_eq_ok hc
  have hlines : Ignore.Rule.ofLines s.ignorePatterns = .ok rules := by
    rw [← rules_without_own s d root, hrules]
  have hrules' : Crawl.rules { s with useGitignore := true } d root = .ok (ownRules d root ++ rules) := by
    rw [rules_with_own, hlines]
    rfl
  refine ⟨_, run_of_directory hreach hlist hrules', ?_, ?_⟩
  · show List.Sublist (visitRoot (.through d root place (ownRules d root ++ rules) s.maxFileSize) root entries).files
      (visitRoot (.through d root place rules s.maxFileSize) root entries).files
    rw [visitRoot_files, visitRoot_files]
    refine flatMap_listed_sublist fun q _ => listed_sublist (by rfl) (by rfl) ?_ q.2 [] q.1
    intro names isDirectory hpasses
    -- What is passed over because nothing can be told of it is so with any rules.
    rcases Bool.or_eq_true_iff.mp hpasses with hunknown | hignored
    · exact Bool.or_eq_true_iff.mpr (.inl hunknown)
    · exact Bool.or_eq_true_iff.mpr (.inr (Ignore.ignores_append (ownRules d root) hignored))
  · intro given all hgiven hall path isDirectory hpasses
    cases hrules.symm.trans hgiven
    cases hrules'.symm.trans hall
    exact Ignore.ignores_append (ownRules d root) hpasses

/-- Rules that take back a rule of the user, pass over a directory and have a malformed line. -/
def generatedRules : ByteArray :=
  "!*.pyc\ngenerated/\n[z-a]\n".toUTF8

/-- A repository with these rules, in the order of its names. -/
def generated : List (Bytes × Entry) :=
  [(bytes ".gitignore", .file generatedRules), (bytes "a.pyc", .file .empty),
    (bytes "generated", .directory [(bytes "out.py", .file .empty)]), (bytes "main.py", .file .empty)]

theorem generated_allowed : (Entry.directory generated).Allowed := by
  simp only [generated, Entry.names_directory, List.forall_mem_cons, List.not_mem_nil, false_implies, implies_true,
    Entry.names_file, and_true]
  decide

/-- What a walk lists of it, for any rules that it goes by. -/
theorem generated_files (w : Walk) (hlists : w.lists [bytes "generated"] = true) :
    (visitRoot w (bytes "repo") generated).files.map (·.path) =
      (if w.passes [bytes ".gitignore"] false then [] else [".gitignore"]) ++
      (if w.passes [bytes "a.pyc"] false then [] else ["a.pyc"]) ++
      (if w.passes [bytes "generated"] true then []
        else if w.passes [bytes "generated", bytes "out.py"] false then [] else ["generated/out.py"]) ++
      (if w.passes [bytes "main.py"] false then [] else ["main.py"]) := by
  have horder : inOrder generated = generated := List.mergeSort_of_pairwise (by decide +kernel)
  have hinner : inOrder [(bytes "out.py", .file .empty)] = [(bytes "out.py", .file .empty)] :=
    List.mergeSort_singleton _
  rw [visitRoot_files, horder]
  simp [generated, listed_file, listed_directory, hinner, hlists, apply_ite (List.map CrawledFile.path),
    CrawledFile.ofSniff, shownPath]

theorem generated_lists (rules : List Ignore.Rule) :
    (Walk.through (holding generated) (bytes "repo") [bytes "repo"] rules 1000).lists [bytes "generated"] = true := by
  have hat : (Entry.directory generated).at? [bytes "generated", bytes "out.py"] = some (.file .empty) := rfl
  exact holding_list_take (k := 1) generated_allowed hat (by decide +kernel) (by decide) (by decide)

theorem generated_ownRules : ownRules (holding generated) (bytes "repo") = Ignore.Rule.ofFile generatedRules := by
  have hat : (Entry.directory generated).at? [bytes ".gitignore"] = some (.file generatedRules) := rfl
  have hread : (holding generated).read (Path.join (bytes "repo") (bytes ".gitignore")) = .ok generatedRules :=
    holding_read generated_allowed hat (List.cons_ne_nil _ _) (by decide +kernel)
  unfold ownRules
  rw [hread]

theorem own_rules_of_generated :
    ∃ c c', run ⟨["*.pyc"], 1000, false⟩ (holding generated) (bytes "repo") = .ok c ∧
      run ⟨["*.pyc"], 1000, true⟩ (holding generated) (bytes "repo") = .ok c' ∧ List.Sublist c'.files c.files ∧
      c.files.map (·.path) = [".gitignore", "generated/out.py", "main.py"] ∧
      c'.files.map (·.path) = [".gitignore", "main.py"] ∧
      Ignore.ignores (rulesOf ["*.pyc"]) (bytes "a.pyc") false = true ∧
      Ignore.ignores (Ignore.Rule.ofFile generatedRules ++ rulesOf ["*.pyc"]) (bytes "a.pyc") false = true := by
  have hrules : Crawl.rules ⟨["*.pyc"], 1000, false⟩ (holding generated) (bytes "repo") = .ok (rulesOf ["*.pyc"]) :=
    rules_eq_rulesOf rfl (by decide +kernel) _ _
  have hlines : Ignore.Rule.ofLines ["*.pyc"] = .ok (rulesOf ["*.pyc"]) :=
    (rules_without_own ⟨["*.pyc"], 1000, false⟩ _ _).symm.trans hrules
  have hrules' : Crawl.rules ⟨["*.pyc"], 1000, true⟩ (holding generated) (bytes "repo") =
      .ok (Ignore.Rule.ofFile generatedRules ++ rulesOf ["*.pyc"]) := by
    rw [← generated_ownRules]
    exact (rules_with_own ⟨["*.pyc"], 1000, true⟩ _ _).trans (by rw [hlines]; rfl)
  have hrun := run_of_directory (holding_reach generated) (holding_list generated) hrules
  have hrun' := run_of_directory (holding_reach generated) (holding_list generated) hrules'
  obtain ⟨c', hc', hsublist, hignores⟩ :=
    (own_rules_only_remove ⟨["*.pyc"], 1000, false⟩ (holding generated) (bytes "repo")).2 _ hrun
  cases hrun'.symm.trans hc'
  have hgiven : Ignore.ignores (rulesOf ["*.pyc"]) (bytes "a.pyc") false = true := by decide +kernel
  refine ⟨_, _, hrun, hrun', hsublist, ?_, ?_, hgiven, hignores _ _ hrules hrules' _ _ hgiven⟩
  · exact (generated_files _ (generated_lists _)).trans (by decide +kernel)
  · exact (generated_files _ (generated_lists _)).trans (by decide +kernel)

end CodeAtlas.Crawl

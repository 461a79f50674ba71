/-
Which files a crawl lists.

A walk goes down from the root of a repository, and it enters a directory unless a
rule passes over it or it cannot be listed.  So a file is listed if no rule passes over
the file itself and every directory on the way to it is entered.  `Kept` says this for the part of the way that is
still ahead, which is what the induction over the entries of the disk needs;
`Included` says it of a file of the repository, and `mem_files_iff` is the result.

What stands in the list about a file follows from its path and its content, if the
file can be read.  If it cannot, the list has it without its size and language.
-/
import CodeAtlas.Proofs.Crawl.Paths

namespace CodeAtlas.Classify

open CodeAtlas.Text

/-! ### What is known about a file -/

/-- Bytes are taken for text if none of the first 1024 is zero. -/
theorem isBinary_headOf_eq_false_iff {content : ByteArray} :
    isBinary (headOf content) = false ↔ ∀ i < 1024, content.data[i]? ≠ some 0 := by
  have hmem : isBinary (headOf content) = true ↔ ∃ i < 1024, content.data[i]? = some 0 := by
    unfold isBinary headOf
    rw [Array.contains_iff_mem, Array.mem_iff_getElem?, ByteArray.data_extract]
    constructor
    · rintro ⟨i, hi⟩
      rw [Array.getElem?_extract, Nat.zero_add] at hi
      split at hi
      · next hlt => exact ⟨i, Nat.lt_of_lt_of_le hlt (by unfold headBytes; omega), hi⟩
      · cases hi
    · rintro ⟨i, hlt, hi⟩
      have hsize : i < content.data.size := (Array.getElem?_eq_some_iff.mp hi).1
      refine ⟨i, ?_⟩
      rw [Array.getElem?_extract, Nat.zero_add, if_pos (by unfold headBytes; omega)]
      exact hi
  rw [← Bool.not_eq_true, hmem]
  simp

end CodeAtlas.Classify

namespace CodeAtlas.Crawl

open CodeAtlas.Classify
open CodeAtlas.Disk
open CodeAtlas.Text

/-! ### Ways to files -/

/-- A walk comes to the file that is reached from `here` through the names `below`: it does not pass over the file, and
it enters every directory on the way from there. -/
def Kept (w : Walk) (here below : List Bytes) : Prop :=
  w.passes (here ++ below) false = false ∧
    ∀ k < below.length, w.passes (here ++ below.take k) true = false ∧ w.lists (here ++ below.take k) = true

theorem kept_nil {w : Walk} {here : List Bytes} : Kept w here [] ↔ w.passes here false = false := by
  simp [Kept]

theorem kept_cons {w : Walk} {here rest : List Bytes} {name : Bytes} :
    Kept w here (name :: rest) ↔
      (w.passes here true = false ∧ w.lists here = true) ∧ Kept w (here ++ [name]) rest := by
  unfold Kept
  rw [List.length_cons, Nat.forall_lt_succ_left]
  simp only [List.take_zero, List.append_nil, List.take_succ_cons, List.append_assoc, List.singleton_append]
  constructor
  · rintro ⟨hfile, hhere, hway⟩
    exact ⟨hhere, hfile, hway⟩
  · rintro ⟨hhere, hfile, hway⟩
    exact ⟨hfile, hhere, hway⟩

/-! ### Visits -/

/-- What a crawl lists about a file. -/
def CrawledFile.ofSniff (path : String) (s : Sniff) : CrawledFile :=
  ⟨path, s.size, s.binary, s.language⟩

section

variable {w : Walk} {f : CrawledFile}

/-- The file `f` is one that is reached through the entry `e` at the place `here`, and a walk comes to it. -/
def Reached (w : Walk) (here : List Bytes) (e : Entry) (f : CrawledFile) : Prop :=
  ∃ below content, e.at? below = some (.file content) ∧ Kept w here below ∧
    f = .ofSniff (shownPath (here ++ below)) (w.sniffs (here ++ below))

theorem reached_file {here : List Bytes} {content : ByteArray} :
    Reached w here (.file content) f ↔
      w.passes here false = false ∧ f = .ofSniff (shownPath here) (w.sniffs here) := by
  constructor
  · rintro ⟨below, content', hat, hkept, rfl⟩
    cases below with
    | nil =>
        rw [List.append_nil]
        exact ⟨kept_nil.mp hkept, rfl⟩
    | cons name rest => cases hat
  · rintro ⟨hpasses, rfl⟩
    refine ⟨[], content, rfl, kept_nil.mpr hpasses, ?_⟩
    rw [List.append_nil]

theorem not_reached_link {here : List Bytes} {target : Bytes} : ¬Reached w here (.link target) f := by
  rintro ⟨below, content, hat, -, -⟩
  cases below with
  | nil => cases hat
  | cons name rest => cases hat

theorem reached_directory {here : List Bytes} {entries : List (Bytes × Entry)}
    (hnodup : (entries.map Prod.fst).Nodup) :
    Reached w here (.directory entries) f ↔ (w.passes here true = false ∧ w.lists here = true) ∧
      ∃ q ∈ entries, Reached w (here ++ [q.1]) q.2 f := by
  constructor
  · rintro ⟨below, content, hat, hkept, rfl⟩
    cases below with
    | nil => cases hat
    | cons name rest =>
        obtain ⟨child, hchild, hrest⟩ := Option.bind_eq_some_iff.mp hat
        obtain ⟨hhere, hkept⟩ := kept_cons.mp hkept
        refine ⟨hhere, (name, child), (Lists.lookup_eq_some_iff_of_nodup hnodup).mp hchild, rest, content, hrest,
          hkept, ?_⟩
        rw [List.append_assoc, List.singleton_append]
  · rintro ⟨hhere, ⟨name, child⟩, hq, below, content, hat, hkept, rfl⟩
    refine ⟨name :: below, content, ?_, kept_cons.mpr ⟨hhere, hkept⟩, ?_⟩
    · exact Option.bind_eq_some_iff.mpr ⟨child, (Lists.lookup_eq_some_iff_of_nodup hnodup).mpr hq, hat⟩
    · rw [List.append_assoc, List.singleton_append]

/-- **The files of a visit are those that are reached through its entry.** -/
theorem mem_visit?_files (e : Entry) : e.Distinct → ∀ (above : List Bytes) (name : Bytes),
    ((∃ v, visit? w above name e = some v ∧ f ∈ v.files) ↔ Reached w (above ++ [name]) e f) := by
  induction e using Entry.induction with
  | file content =>
      intro _ above name
      rw [reached_file]
      constructor
      · rintro ⟨v, hv, hf⟩
        obtain ⟨hpasses, rfl⟩ := visit?_file_eq_some.mp hv
        exact ⟨hpasses, List.mem_singleton.mp hf⟩
      · rintro ⟨hpasses, rfl⟩
        exact ⟨_, visit?_file_eq_some.mpr ⟨hpasses, rfl⟩, List.mem_singleton.mpr rfl⟩
  | link target =>
      intro _ above name
      simp only [visit?_link, not_reached_link, iff_false]
      rintro ⟨v, hv, -⟩
      cases hv
  | directory entries ih =>
      intro hdistinct above name
      obtain ⟨hnodup, hbelow⟩ := Entry.apartBy_directory.mp hdistinct
      rw [reached_directory hnodup]
      constructor
      · rintro ⟨v, hv, hf⟩
        obtain ⟨hpasses, rfl⟩ := visit?_directory_eq_some.mp hv
        obtain ⟨u, hu, hf⟩ := (mem_ofDirectory_files _ _).mp hf
        obtain ⟨hlists, q, hq, -, hvisit⟩ := mem_visitIn.mp hu
        exact ⟨⟨hpasses, hlists⟩, q, hq, (ih q hq (hbelow q hq) _ q.1).mp ⟨u.2, hvisit, hf⟩⟩
      · rintro ⟨⟨hpasses, hlists⟩, q, hq, hreached⟩
        obtain ⟨u, hvisit, hf⟩ := (ih q hq (hbelow q hq) _ q.1).mpr hreached
        refine ⟨_, visit?_directory_eq_some.mpr ⟨hpasses, rfl⟩, (mem_ofDirectory_files _ _).mpr ⟨(q.1, u), ?_, hf⟩⟩
        exact mem_visitIn.mpr ⟨hlists, q, hq, rfl, hvisit⟩

end

/-! ### Crawls -/

/-- The repository at `root` has a regular file with the given content under some names, and a walk comes to it: it can
list the root, it does not pass over the file, and it enters every directory that the file stands in. -/
inductive Included (s : Settings) (d : Disk) (root : Bytes) : List Bytes → ByteArray → Prop
  | intro {place : List Bytes} {entries : List (Bytes × Entry)} {rules : List Ignore.Rule} {names : List Bytes}
      {content : ByteArray}
      (reached : d.reach root = .ok (place, .directory entries))
      (listed : d.list root = .ok entries)
      (configured : Crawl.rules s d root = .ok rules)
      (stands : (Entry.directory entries).at? names = some (.file content))
      (file : (Walk.through d root place rules s.maxFileSize).passes names false = false)
      (above : ∀ k, 0 < k → k < names.length →
        (Walk.through d root place rules s.maxFileSize).passes (names.take k) true = false ∧
          (d.list (Path.below root (names.take k))).isOk = true) :
      Included s d root names content

/-- What a crawl lists about the file under some names. -/
def fileAt (d : Disk) (maxFileSize : Nat) (root : Bytes) (names : List Bytes) : CrawledFile :=
  .ofSniff (shownPath names) ((look d maxFileSize (Path.below root names)).toOption.getD unknown)

/-- The way to a file is kept if it is so after its first step: the root is not passed over. -/
theorem kept_iff {w : Walk} {name : Bytes} {rest : List Bytes} :
    Kept w [name] rest ↔ w.passes (name :: rest) false = false ∧
      ∀ k, 0 < k → k < (name :: rest).length →
        w.passes ((name :: rest).take k) true = false ∧ w.lists ((name :: rest).take k) = true := by
  unfold Kept
  simp only [List.singleton_append]
  refine and_congr_right fun _ => ?_
  constructor
  · intro h k hpos hk
    obtain ⟨j, rfl⟩ := Nat.exists_eq_succ_of_ne_zero (Nat.ne_of_gt hpos)
    exact h j (Nat.lt_of_succ_lt_succ hk)
  · intro h j hj
    exact h (j + 1) (Nat.succ_pos j) (Nat.succ_lt_succ hj)

/-- **A crawl lists exactly the files that are included**, with what a look at them tells. -/
theorem mem_files_iff {s : Settings} {d : Disk} {root : Bytes} {c : Crawl} (hdistinct : d.root.Distinct)
    (h : run s d root = .ok c) {f : CrawledFile} :
    f ∈ c.files ↔ ∃ names content, Included s d root names content ∧ f = fileAt d s.maxFileSize root names := by
  obtain ⟨place, entries, rules, hreach, hlist, hrules, rfl⟩ := run_eq_ok h
  obtain ⟨hnodup, hbelow⟩ := Entry.apartBy_directory.mp (apartBy_of_reach hdistinct hreach)
  have hfile : ∀ q ∈ entries, _ := fun q hq =>
    mem_visit?_files (w := .through d root place rules s.maxFileSize) (f := f) q.2 (hbelow q hq) [] q.1
  rw [mem_visitRoot_files root]
  constructor
  · rintro ⟨⟨name, child⟩, hq, hvisited⟩
    obtain ⟨below, content, hat, hkept, rfl⟩ := (hfile _ hq).mp hvisited
    obtain ⟨hpasses, habove⟩ := kept_iff.mp hkept
    refine ⟨name :: below, content, .intro hreach hlist hrules ?_ hpasses habove, rfl⟩
    exact Option.bind_eq_some_iff.mpr ⟨child, (Lists.lookup_eq_some_iff_of_nodup hnodup).mpr hq, hat⟩
  · rintro ⟨names, content, @⟨place', entries', rules', _, _, hreach', -, hrules', hat, hpasses, habove⟩, rfl⟩
    cases hreach.symm.trans hreach'
    cases hrules.symm.trans hrules'
    cases names with
    | nil => cases hat
    | cons name rest =>
        obtain ⟨child, hchild, hrest⟩ := Option.bind_eq_some_iff.mp hat
        have hq := (Lists.lookup_eq_some_iff_of_nodup hnodup).mp hchild
        exact ⟨(name, child), hq, (hfile _ hq).mpr ⟨rest, content, hrest, kept_iff.mpr ⟨hpasses, habove⟩, rfl⟩⟩

/-! ### What is known of listed files -/

section

variable {s : Settings} {d : Disk} {root : Bytes} {names : List Bytes} {content : ByteArray}

theorem Included.names_ne_nil (h : Included s d root names content) : names ≠ [] := by
  obtain ⟨-, -, -, hat, -, -⟩ := h
  rintro rfl
  cases hat

theorem Included.allowed (hd : d.root.Allowed) (h : Included s d root names content) :
    ∀ n ∈ names, AllowedName n := by
  obtain ⟨hreach, -, -, hat, -, -⟩ := h
  exact (names_of_reach hd hreach).of_at? hat

theorem Included.proper (hd : d.root.Allowed) (h : Included s d root names content) : ∀ n ∈ names, ProperName n :=
  fun n hn => (h.allowed hd n hn).proper

theorem Included.at?_eq {entries : List (Bytes × Entry)} (hlist : d.list root = .ok entries)
    (h : Included s d root names content) : (Entry.directory entries).at? names = some (.file content) := by
  obtain ⟨-, hlist', -, hat, -, -⟩ := h
  cases hlist.symm.trans hlist'
  exact hat

/-- What is read of an included file is its content. -/
theorem Included.eq_of_read (hd : d.root.Allowed) (h : Included s d root names content) {found : ByteArray}
    (hread : d.read (Path.below root names) = .ok found) : found = content := by
  obtain ⟨hreach, -, -, hat, -, -⟩ := h
  exact eq_of_read_below hreach (names_of_reach hd hreach) hat hread

/-- A look at a file that can be read does not fail. -/
theorem look_isOk_of_read {path : Bytes} (h : d.read path = .ok content) (maxFileSize : Nat) :
    (look d maxFileSize path).isOk = true := by
  obtain ⟨place, hreach, -⟩ := read_eq_ok h
  unfold look Disk.entry
  rw [hreach, h]
  simp only [Except.map]
  split
  · rfl
  · rfl

/-- **A look at an included file tells what its path and its content tell**, or it fails. -/
theorem Included.look_eq (hd : d.root.Allowed) (h : Included s d root names content) (maxFileSize : Nat) :
    look d maxFileSize (Path.below root names) = .ok (sniff maxFileSize (Path.below root names) content) ∨
      ∃ e, look d maxFileSize (Path.below root names) = .error e := by
  obtain ⟨hreach, -, -, hat, -, -⟩ := id h
  unfold look
  cases hentry : d.entry (Path.below root names) with
  | error e => exact .inr ⟨e, rfl⟩
  | ok e =>
      have hfile : e = .file content := by
        unfold Disk.entry at hentry
        cases hfound : d.reach (Path.below root names) with
        | error e => rw [hfound] at hentry; cases hentry
        | ok p =>
            obtain ⟨there, found⟩ := p
            rw [hfound] at hentry
            cases hentry
            have hstands := (at?_of_reach_below hreach h.names_ne_nil (h.proper hd)
              (fun k _ => Entry.at?_take_ne_link (Entry.file_ne_link content) hat k) hfound).2
            rw [hat] at hstands
            exact (Option.some.inj hstands).symm
      subst hfile
      by_cases hsize : maxFileSize < content.size
      · refine .inl ?_
        unfold sniff
        simp only [Entry.size, hsize, if_true]
      · simp only [Entry.size, hsize, if_false]
        cases hread : d.read (Path.below root names) with
        | error e => exact .inr ⟨e, rfl⟩
        | ok found =>
            rw [h.eq_of_read hd hread]
            exact .inl rfl

end

/-! ### Repositories with names that can be told apart -/

/-- The names in every directory of a repository are shown as different texts. -/
def ShownApart (d : Disk) (root : Bytes) : Prop :=
  ∀ entries, d.list root = .ok entries → (Entry.directory entries).ShownApart

/-- All names in a repository are texts. -/
def OnlyTexts (d : Disk) (root : Bytes) : Prop :=
  ∀ entries, d.list root = .ok entries → (Entry.directory entries).Texts

theorem OnlyTexts.shownApart {d : Disk} {root : Bytes} (hdistinct : d.root.Distinct) (h : OnlyTexts d root) :
    ShownApart d root := by
  intro entries hlist
  obtain ⟨place, hreach, -⟩ := list_eq_ok hlist
  exact Entry.Distinct.shownApart (apartBy_of_reach hdistinct hreach) (h entries hlist)

section

variable {s : Settings} {d : Disk} {root : Bytes} {names others : List Bytes} {content other : ByteArray}

/-- Files that are listed under one path are the same, if names are shown apart. -/
theorem Included.eq_of_shown (hallowed : d.root.Allowed) (hshown : ShownApart d root)
    (h : Included s d root names content) (h' : Included s d root others other)
    (heq : shownPath names = shownPath others) : names = others ∧ content = other := by
  obtain ⟨-, hlist, -, hat, -, -⟩ := id h
  have hat' := h'.at?_eq hlist
  have htexts := shown_eq_of_shownPath_eq h.names_ne_nil h'.names_ne_nil (h.allowed hallowed) (h'.allowed hallowed) heq
  have hsame := Entry.ShownApart.names_eq (hshown _ hlist) hat hat' htexts
  subst hsame
  cases hat.symm.trans hat'
  exact ⟨rfl, rfl⟩

end

/-- As many files are read in a language as its statistics count. -/
theorem length_codeFilesOf (c : Crawl) (language : String) :
    (c.codeFilesOf language).length = (c.codeFiles.filterMap (·.language)).count language := by
  rw [List.count_filterMap, List.countP_eq_length_filter]
  rfl

/-! ### Rules -/

/-- The rules of some lines, none if a line is malformed. -/
def rulesOf (lines : List String) : List Ignore.Rule :=
  (Ignore.Rule.ofLines lines).toOption.getD []

/-- The rules that a user gives are all there are, if the repository itself is not asked. -/
theorem rules_eq_rulesOf {s : Settings} (hown : s.useGitignore = false)
    (h : (Ignore.Rule.ofLines s.ignorePatterns).isOk = true) (d : Disk) (root : Bytes) :
    Crawl.rules s d root = .ok (rulesOf s.ignorePatterns) := by
  unfold Crawl.rules rulesOf
  cases hlines : Ignore.Rule.ofLines s.ignorePatterns with
  | error e =>
      rw [hlines] at h
      cases h
  | ok rules => simp [hown, Except.map, Except.toOption]

/-! ### Disks with a single directory -/

section

variable {s : Settings} {entries : List (Bytes × Entry)} {rules : List Ignore.Rule} {names : List Bytes}
  {content : ByteArray}

/-- A crawl through the directory of such a disk. -/
theorem run_holding (hrules : Crawl.rules s (holding entries) (bytes "repo") = .ok rules) :
    ∃ c, run s (holding entries) (bytes "repo") = .ok c :=
  ⟨_, run_of_directory (holding_reach entries) (holding_list entries) hrules⟩

/-- A file is included if the rules pass neither over it nor over a directory that it stands in. -/
theorem Included.of_holding (hallowed : (Entry.directory entries).Allowed)
    (hrules : Crawl.rules s (holding entries) (bytes "repo") = .ok rules)
    (hat : (Entry.directory entries).at? names = some (.file content))
    (hlength : (Path.below (bytes "repo") names).length ≤ maxPath)
    (hfile : Ignore.ignores rules (pathForRules (bytes "repo") (Path.ofNames names)) false = false)
    (habove : ∀ k < names.length, 0 < k →
      Ignore.ignores rules (pathForRules (bytes "repo") (Path.ofNames (names.take k))) true = false) :
    Included s (holding entries) (bytes "repo") names content :=
  .intro (holding_reach entries) (holding_list entries) hrules hat hfile fun k hpos hk =>
    ⟨habove k hk hpos, holding_list_take hallowed hat hlength hpos hk⟩

/-- What is listed of a file there is what its path and its content tell. -/
theorem fileAt_holding (hallowed : (Entry.directory entries).Allowed)
    (hat : (Entry.directory entries).at? names = some (.file content)) (hne : names ≠ [])
    (hlength : (Path.below (bytes "repo") names).length ≤ maxPath) (maxFileSize : Nat) :
    fileAt (holding entries) maxFileSize (bytes "repo") names =
      .ofSniff (shownPath names) (sniff maxFileSize (Path.below (bytes "repo") names) content) := by
  have hentry : (holding entries).entry (Path.below (bytes "repo") names) = .ok (.file content) := by
    unfold Disk.entry
    rw [holding_reach_below hallowed hat (Entry.file_ne_link content) hne hlength]
    rfl
  have hlook : look (holding entries) maxFileSize (Path.below (bytes "repo") names) =
      .ok (sniff maxFileSize (Path.below (bytes "repo") names) content) := by
    unfold look
    rw [hentry, holding_read hallowed hat hne hlength]
    by_cases hsize : maxFileSize < content.size
    · simp [Entry.size, sniff, hsize]
    · simp [Entry.size, hsize, Except.map]
  unfold fileAt
  rw [hlook]
  rfl

end

/-! ### Directories of files -/

/-- Files under names that a file system allows, in the order of these. -/
structure InOrder (files : List (Bytes × ByteArray)) : Prop where
  allowed : ∀ f ∈ files, AllowedName f.1
  sorted : (files.map Prod.fst).Pairwise (· < ·)

instance (files : List (Bytes × ByteArray)) : Decidable (InOrder files) :=
  decidable_of_iff (_ ∧ _) ⟨fun h => ⟨h.1, h.2⟩, fun h => ⟨h.allowed, h.sorted⟩⟩

/-- The entries of a directory with nothing but some files in it. -/
def fileEntries (files : List (Bytes × ByteArray)) : List (Bytes × Entry) :=
  files.map fun f => (f.1, .file f.2)

namespace InOrder

variable {files : List (Bytes × ByteArray)} {f : Bytes × ByteArray}

theorem entries_allowed (h : InOrder files) : (Entry.directory (fileEntries files)).Allowed := by
  refine Entry.names_directory.mpr fun q hq => ?_
  obtain ⟨f, hf, rfl⟩ := List.mem_map.mp hq
  exact ⟨h.allowed f hf, Entry.names_file _⟩

theorem entries_nodup (h : InOrder files) : ((fileEntries files).map Prod.fst).Nodup := by
  have hnames : (fileEntries files).map Prod.fst = files.map Prod.fst := by
    rw [fileEntries, List.map_map]
    rfl
  rw [hnames]
  refine h.sorted.imp ?_
  rintro a _ hlt rfl
  exact List.lt_irrefl a hlt

theorem entries_distinct (h : InOrder files) : (Entry.directory (fileEntries files)).Distinct := by
  refine Entry.apartBy_directory.mpr ⟨h.entries_nodup, fun q hq => ?_⟩
  obtain ⟨f, -, rfl⟩ := List.mem_map.mp hq
  exact Entry.apartBy_file _

theorem shownApart (h : InOrder files) (htexts : ∀ f ∈ files, IsText f.1) :
    ShownApart (holding (fileEntries files)) (bytes "repo") := by
  intro entries hlist
  rw [holding_list] at hlist
  cases hlist
  refine Entry.Distinct.shownApart h.entries_distinct (Entry.names_directory.mpr fun q hq => ?_)
  obtain ⟨f, hf, rfl⟩ := List.mem_map.mp hq
  exact ⟨htexts f hf, Entry.names_file _⟩

theorem at?_eq (h : InOrder files) (hf : f ∈ files) :
    (Entry.directory (fileEntries files)).at? [f.1] = some (.file f.2) := by
  have hlookup : (fileEntries files).lookup f.1 = some (.file f.2) :=
    (Lists.lookup_eq_some_iff_of_nodup h.entries_nodup).mpr (List.mem_map.mpr ⟨f, hf, rfl⟩)
  exact Option.bind_eq_some_iff.mpr ⟨_, hlookup, rfl⟩

theorem below_eq (h : InOrder files) (hf : f ∈ files) :
    Path.below (bytes "repo") [f.1] = bytes "repo" ++ Path.slash :: f.1 := by
  have habsolute : Path.isAbsolute f.1 = false := by
    simpa using Path.isAbsolute_of_proper (h.allowed f hf).proper []
  show Path.join (bytes "repo") f.1 = _
  unfold Path.join
  rw [habsolute]
  rfl

theorem length_below_le (h : InOrder files) (hf : f ∈ files) :
    (Path.below (bytes "repo") [f.1]).length ≤ maxPath := by
  have hrepo : (bytes "repo").length = 4 := by decide
  obtain ⟨-, -, -, -, hname⟩ := h.allowed f hf
  rw [h.below_eq hf, List.length_append, List.length_cons, hrepo]
  unfold maxName at hname
  unfold maxPath
  omega

theorem read_eq (h : InOrder files) (hf : f ∈ files) :
    (holding (fileEntries files)).read (Path.below (bytes "repo") [f.1]) = .ok f.2 :=
  holding_read h.entries_allowed (h.at?_eq hf) (by simp) (h.length_below_le hf)

end InOrder

/-- There is no file under a name that is none of theirs. -/
theorem read_fileEntries_of_not_mem {files : List (Bytes × ByteArray)} {name : Bytes} (hname : AllowedName name)
    (hmem : name ∉ files.map Prod.fst) :
    ∃ e, (holding (fileEntries files)).read (Path.below (bytes "repo") [name]) = .error e := by
  have hnone : (Entry.directory (fileEntries files)).at? [name] = none := by
    have hlookup : (fileEntries files).lookup name = none := by
      rw [List.lookup_eq_none_iff]
      intro q hq
      obtain ⟨f, hf, rfl⟩ := List.mem_map.mp hq
      exact bne_iff_ne.mpr fun heq => hmem (heq ▸ List.mem_map_of_mem hf)
    exact Option.bind_eq_none_iff.mpr fun child hchild => nomatch hlookup.symm.trans hchild
  have hlinks : ∀ k ≤ [name].length, ∀ target,
      (Entry.directory (fileEntries files)).at? ([name].take k) ≠ some (.link target) := by
    intro k hk target
    cases k with
    | zero => exact fun h => nomatch h
    | succ k =>
        rw [List.take_of_length_le (by simp), hnone]
        exact fun h => nomatch h
  cases hread : (holding (fileEntries files)).read (Path.below (bytes "repo") [name]) with
  | error e => exact ⟨e, rfl⟩
  | ok content =>
      obtain ⟨place, hreach, -⟩ := read_eq_ok hread
      have hfound := (at?_of_reach_below (holding_reach _) (by simp) (by simpa using hname.proper) hlinks hreach).2
      cases hnone.symm.trans hfound

section

variable {w : Walk} (hpasses : ∀ name, w.passes [name] false = false) {files : List (Bytes × ByteArray)}
  (h : InOrder files)

include hpasses

theorem visitAll_fileEntries : visitAll w [] (fileEntries files) = files.map fun f => (f.1, visitFile w [] f.1) := by
  induction files with
  | nil => rfl
  | cons f rest ih =>
      have hvisit : visit? w [] f.1 (.file f.2) = some (visitFile w [] f.1) := visit?_file_eq_some.mpr ⟨hpasses _, rfl⟩
      show (visit? w [] f.1 (.file f.2)).toList.map (f.1, ·) ++ visitAll w [] (fileEntries rest) = _
      rw [hvisit, ih]
      rfl

include h

/-- Files that stand in the order of their names are seen in this order. -/
theorem visitRoot_fileEntries (root : Bytes) :
    (visitRoot w root (fileEntries files)).node.children = files.map (fun f => (visitFile w [] f.1).node) ∧
      (visitRoot w root (fileEntries files)).files = files.map fun f => .ofSniff (ofBytes f.1) (w.sniffs [f.1]) := by
  have hsorted : (files.map fun f => (f.1, visitFile w [] f.1)).mergeSort (fun a b => a.1 ≤ b.1) =
      files.map fun f => (f.1, visitFile w [] f.1) := by
    refine List.mergeSort_of_pairwise ?_
    rw [List.pairwise_map]
    exact (List.pairwise_map.mp h.sorted).imp fun hlt => decide_eq_true (List.le_of_lt hlt)
  unfold visitRoot Visit.ofDirectory
  rw [visitAll_fileEntries hpasses]
  simp only [hsorted, FileNode.children]
  refine ⟨?_, ?_⟩
  · rw [List.map_map, List.map_map]
    rfl
  · rw [List.map_map, List.flatMap_map]
    exact List.map_eq_flatMap.symm

end

/-- What a crawl without rules sees of a directory with some files in it. -/
structure Sees (files : List (Bytes × ByteArray)) (c : Crawl) : Prop where
  root : c.root = bytes "repo"
  maxFileSize : c.maxFileSize = 1000
  names : c.tree.children.map FileNode.name = files.map fun f => ofBytes f.1
  files : c.files = files.map fun f => .ofSniff (ofBytes f.1) (sniff 1000 (Path.below (bytes "repo") [f.1]) f.2)

/-- A file whose name is a text is looked for under this name. -/
theorem Sees.pathOf_eq {files : List (Bytes × ByteArray)} {c : Crawl} (h : Sees files c) {name : Bytes}
    (htext : IsText name) : c.pathOf (ofBytes name) = Path.below (bytes "repo") [name] := by
  unfold Crawl.pathOf
  rw [h.root, htext]
  rfl

/-- What is seen of the files that may be read for their declarations. -/
def seenCode (files : List (Bytes × ByteArray)) : List CrawledFile :=
  (files.map fun f => .ofSniff (ofBytes f.1) (sniff 1000 (Path.below (bytes "repo") [f.1]) f.2)).filter
    fun f => f.language.isSome && !f.binary && f.size ≤ 1000

theorem Sees.codeFiles_eq {files : List (Bytes × ByteArray)} {c : Crawl} (h : Sees files c) :
    c.codeFiles = seenCode files := by
  unfold Crawl.codeFiles
  rw [h.files, h.maxFileSize]
  rfl

/-- **A crawl without rules sees all files of such a directory, in their order.** -/
theorem run_fileEntries {files : List (Bytes × ByteArray)} (h : InOrder files) :
    ∃ c, run ⟨[], 1000, false⟩ (holding (fileEntries files)) (bytes "repo") = .ok c ∧ Sees files c := by
  have hrules : Crawl.rules ⟨[], 1000, false⟩ (holding (fileEntries files)) (bytes "repo") = .ok [] := rfl
  refine ⟨_, run_of_directory (holding_reach _) (holding_list _) hrules, rfl, rfl, ?_, ?_⟩
  · rw [(visitRoot_fileEntries (fun _ => rfl) h _).1, List.map_map]
    rfl
  · rw [(visitRoot_fileEntries (fun _ => rfl) h _).2]
    refine List.map_congr_left fun f hf => ?_
    exact fileAt_holding h.entries_allowed (h.at?_eq hf) (by simp) (h.length_below_le hf) 1000

end CodeAtlas.Crawl

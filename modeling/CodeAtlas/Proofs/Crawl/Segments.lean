/-
Which files a crawl lists when all rules are about segments.

A walk asks about one path after the other, and what is passed over is not entered.
If all rules are about single segments, every question is about the last segment of a
path only.  On the way to a file each of its segments comes last once, so that in the
end the file is listed if no rule is about any of them and nothing keeps the walk out of
the directories above it.

Links are not followed.  A file that can be read under a path is therefore left out
as well if a segment of the path is a link, although the rules say nothing about it.
So is a file in a directory that cannot be listed: that can be because it is not
allowed, or just because the path of the directory has become too long.
-/
import CodeAtlas.Proofs.Crawl.Files
import CodeAtlas.Proofs.Ignore.Segments

namespace CodeAtlas.Crawl

open CodeAtlas.Disk
open CodeAtlas.Ignore
open CodeAtlas.Text

/-! ### The last segment of a path -/

theorem endsWith_below (before : Bytes) {path segment : Bytes} (h : EndsWith path segment) :
    EndsWith (before ++ Path.slash :: path) segment := by
  rcases h with rfl | ⟨more, rfl⟩
  · exact Or.inr ⟨before, rfl⟩
  · refine Or.inr ⟨before ++ Path.slash :: more, ?_⟩
    rw [List.append_assoc, List.cons_append]

theorem endsWith_names (before : List Bytes) (name : Bytes) : EndsWith (Path.ofNames (before ++ [name])) name := by
  by_cases hne : before = []
  · subst hne
    exact Or.inl rfl
  · rw [Path.ofNames_concat hne]
    exact Or.inr ⟨_, rfl⟩

/-- However the root is written, the rules see the same last segment. -/
theorem endsWith_pathForRules (root : Bytes) {path segment : Bytes} (hpath : Path.isAbsolute path = false)
    (h : EndsWith path segment) : EndsWith (pathForRules root path) segment := by
  unfold pathForRules
  split
  · next b rest =>
    simp only []
    split
    · obtain ⟨a, hjoin, -, -⟩ := Path.join_eq (List.cons_ne_nil b rest) hpath
      rw [hjoin]
      exact endsWith_below a h
    · exact h
  · exact h

/-- Rules about segments are asked about the last name only. -/
theorem ignores_names_iff (root : Bytes) {patterns : List SegmentPattern} {before : List Bytes} {name : Bytes}
    (hallowed : ∀ n ∈ before ++ [name], AllowedName n) (isDirectory : Bool) :
    ignores (patterns.map SegmentPattern.rule) (pathForRules root (Path.ofNames (before ++ [name]))) isDirectory = true ↔
      ∃ p ∈ patterns, p.Fits name := by
  have hname : AllowedName name := hallowed name (by simp)
  have hends := endsWith_pathForRules root (Path.isAbsolute_ofNames fun n hn => (hallowed n hn).proper) (endsWith_names before name)
  exact ignores_rules_iff hends hname.2.2.2.1 isDirectory

/-! ### All segments of a path -/

/-- The rules do not pass over an entry, whatever its kind, if none is about its name. -/
theorem not_ignores_names_iff (root : Bytes) {patterns : List SegmentPattern} {before : List Bytes} {name : Bytes}
    (isDirectory : Bool) (hallowed : ∀ n ∈ before ++ [name], AllowedName n) :
    ignores (patterns.map SegmentPattern.rule) (pathForRules root (Path.ofNames (before ++ [name]))) isDirectory =
      false ↔ ∀ p ∈ patterns, ¬p.Fits name := by
  rw [← Bool.not_eq_true, ignores_names_iff root hallowed]
  simp

/-- No rule passes over a file and the directories above it if none is about a segment of its path. -/
theorem kept_iff_segments (root : Bytes) {patterns : List SegmentPattern} {names : List Bytes} (hne : names ≠ [])
    (hallowed : ∀ n ∈ names, AllowedName n) :
    (ignores (patterns.map SegmentPattern.rule) (pathForRules root (Path.ofNames names)) false = false ∧
      ∀ k, 0 < k → k < names.length →
        ignores (patterns.map SegmentPattern.rule) (pathForRules root (Path.ofNames (names.take k))) true = false) ↔
      ∀ n ∈ names, ∀ p ∈ patterns, ¬p.Fits n := by
  constructor
  · rintro ⟨hfile, habove⟩ n hn
    obtain ⟨before, after, rfl⟩ := List.append_of_mem hn
    -- The segment is that of the file or of a directory above it.
    cases after with
    | nil => exact (not_ignores_names_iff root false hallowed).mp hfile
    | cons m after =>
        have htake : (before ++ n :: m :: after).take (before.length + 1) = before ++ [n] := by
          rw [List.take_length_add_append]
          rfl
        have hbegins : ∀ k ∈ before ++ [n], AllowedName k := by
          intro k hk
          rw [← htake] at hk
          exact hallowed k (List.mem_of_mem_take hk)
        have hlength : before.length + 1 < (before ++ n :: m :: after).length := by
          rw [List.length_append, List.length_cons, List.length_cons]
          omega
        have hdirectory := habove (before.length + 1) (Nat.succ_pos _) hlength
        rw [htake] at hdirectory
        exact (not_ignores_names_iff root true hbegins).mp hdirectory
  · intro h
    have hpart : ∀ (part : List Bytes) (isDirectory : Bool), part ≠ [] → part ⊆ names →
        ignores (patterns.map SegmentPattern.rule) (pathForRules root (Path.ofNames part)) isDirectory = false := by
      intro part isDirectory hpart hsub
      have hsplit := List.dropLast_concat_getLast hpart
      rw [← hsplit]
      refine (not_ignores_names_iff root isDirectory ?_).mpr (h _ (hsub (List.getLast_mem hpart)))
      rw [hsplit]
      exact fun n hn => hallowed n (hsub hn)
    refine ⟨hpart names false hne (List.Subset.refl _), ?_⟩
    intro k hpos hk
    refine hpart (names.take k) true ?_ (List.take_subset _ _)
    intro hnil
    have hlength := congrArg List.length hnil
    rw [List.length_take, List.length_nil] at hlength
    omega

/-! ### Crawls -/

/-- Nothing keeps a walk from coming to what stands under some names: it can tell the kind of every entry on the way,
and list every directory. -/
structure Accessible (d : Disk) (root : Bytes) (place names : List Bytes) : Prop where
  identified : ∀ k, 0 < k → k ≤ names.length → d.refusal .identify (place ++ names.take k) = none
  listed : ∀ k, 0 < k → k < names.length → (d.list (Path.below root (names.take k))).isOk = true

section

variable {s : Settings} {d : Disk} {root : Bytes} {patterns : List SegmentPattern} {place : List Bytes}
  {entries : List (Bytes × Entry)}

theorem rules_of_segments (hown : s.useGitignore = false)
    (hpatterns : s.ignorePatterns = patterns.map SegmentPattern.line) :
    Crawl.rules s d root = .ok (patterns.map SegmentPattern.rule) := by
  unfold Crawl.rules
  rw [hown, hpatterns, ofLines_lines]
  rfl

theorem through_passes_eq_false {rules : List Rule} {maxFileSize : Nat} {names : List Bytes} {isDirectory : Bool} :
    (Walk.through d root place rules maxFileSize).passes names isDirectory = false ↔
      d.refusal .identify (place ++ names) = none ∧
        ignores rules (pathForRules root (Path.ofNames names)) isDirectory = false := by
  simp [Walk.through]

/-- What is included, if all rules are about segments. -/
theorem included_iff_segments (hallowed : d.root.Allowed) (hreach : d.reach root = .ok (place, .directory entries))
    (hlist : d.list root = .ok entries) (hrules : Crawl.rules s d root = .ok (patterns.map SegmentPattern.rule))
    {names : List Bytes} {content : ByteArray} :
    Included s d root names content ↔ (Entry.directory entries).at? names = some (.file content) ∧
      (∀ n ∈ names, ∀ p ∈ patterns, ¬p.Fits n) ∧ Accessible d root place names := by
  have hnames : ∀ {names : List Bytes}, (Entry.directory entries).at? names = some (.file content) →
      names ≠ [] ∧ ∀ n ∈ names, AllowedName n := by
    intro names hat
    refine ⟨?_, (names_of_reach hallowed hreach).of_at? hat⟩
    rintro rfl
    cases hat
  constructor
  · rintro @⟨place', entries', rules', _, _, hreach', -, hrules', hat, hfile, habove⟩
    cases hreach.symm.trans hreach'
    cases hrules.symm.trans hrules'
    obtain ⟨hne, hok⟩ := hnames hat
    simp only [through_passes_eq_false] at hfile habove
    have hsegments := (kept_iff_segments root hne hok).mp ⟨hfile.2, fun k hpos hk => (habove k hpos hk).1.2⟩
    refine ⟨hat, hsegments, fun k hpos hk => ?_, fun k hpos hk => (habove k hpos hk).2⟩
    rcases Nat.lt_or_eq_of_le hk with hlt | rfl
    · exact (habove k hpos hlt).1.1
    · rw [List.take_length]
      exact hfile.1
  · rintro ⟨hat, hsegments, haccess⟩
    obtain ⟨hne, hok⟩ := hnames hat
    obtain ⟨hfile, habove⟩ := (kept_iff_segments root hne hok).mpr hsegments
    have hlast := haccess.identified names.length (List.length_pos_iff.mpr hne) (Nat.le_refl _)
    rw [List.take_length] at hlast
    refine .intro hreach hlist hrules hat (through_passes_eq_false.mpr ⟨hlast, hfile⟩) fun k hpos hk => ?_
    exact ⟨through_passes_eq_false.mpr ⟨haccess.identified k hpos (Nat.le_of_lt hk), habove k hpos hk⟩,
      haccess.listed k hpos hk⟩

/-- What a crawl lists, if all rules are about segments. -/
theorem mem_files_iff_segments (hallowed : d.root.Allowed) (hdistinct : d.root.Distinct)
    (hreach : d.reach root = .ok (place, .directory entries)) (hlist : d.list root = .ok entries)
    (hrules : Crawl.rules s d root = .ok (patterns.map SegmentPattern.rule)) {c : Crawl} (hrun : run s d root = .ok c)
    {f : CrawledFile} : f ∈ c.files ↔ ∃ names content, (Entry.directory entries).at? names = some (.file content) ∧
      (∀ n ∈ names, ∀ p ∈ patterns, ¬p.Fits n) ∧ Accessible d root place names ∧
      f = fileAt d s.maxFileSize root names := by
  rw [mem_files_iff hdistinct hrun]
  simp only [included_iff_segments hallowed hreach hlist hrules, and_assoc]

end

/-- Names that are texts can be told from the path that is shown for them. -/
theorem eq_of_shownPath_eq {a b : List Bytes} (hane : a ≠ []) (hbne : b ≠ [])
    (ha : ∀ n ∈ a, AllowedName n ∧ IsText n) (hb : ∀ n ∈ b, AllowedName n ∧ IsText n)
    (h : shownPath a = shownPath b) : a = b := by
  have htexts : ∀ {names : List Bytes}, (∀ n ∈ names, AllowedName n ∧ IsText n) →
      (names.map ofBytes).map bytes = names := by
    intro names hnames
    rw [List.map_map]
    exact (List.map_congr_left fun n hn => (hnames n hn).2).trans (List.map_id names)
  have hshown := shown_eq_of_shownPath_eq hane hbne (fun n hn => (ha n hn).1) (fun n hn => (hb n hn).1) h
  rw [← htexts ha, hshown, htexts hb]

/--
**A file is listed if no segment of its path is a link or one that a rule is about**,
and nothing keeps the walk out of the directories above it, when all rules are names or
endings of names and the repository's own rules are not used.  The crawl succeeds, and
it lists such files and nothing else.  Where all names are texts, a file that is found
under some names is listed under the path that is shown for them.
-/
theorem files_by_segments (s : Settings) (d : Disk) (root : Bytes) (patterns : List SegmentPattern)
    (place : List Bytes) (entries : List (Bytes × Entry)) (hallowed : d.root.Allowed) (hdistinct : d.root.Distinct)
    (hreach : d.reach root = .ok (place, .directory entries)) (hlist : d.list root = .ok entries)
    (hown : s.useGitignore = false) (hpatterns : s.ignorePatterns = patterns.map SegmentPattern.line) :
    ∃ c, run s d root = .ok c ∧
      (∀ f, f ∈ c.files ↔ ∃ names content, (Entry.directory entries).at? names = some (.file content) ∧
        (∀ n ∈ names, ∀ p ∈ patterns, ¬p.Fits n) ∧ Accessible d root place names ∧
        f = fileAt d s.maxFileSize root names) ∧
      ((Entry.directory entries).Texts → ∀ names there content, names ≠ [] →
        (∀ n ∈ names, AllowedName n ∧ IsText n) →
        d.reach (Path.below root names) = .ok (there, .file content) →
        ((∃ f ∈ c.files, f.path = shownPath names) ↔
          (∀ k ≤ names.length, ∀ target, (Entry.directory entries).at? (names.take k) ≠ some (.link target)) ∧
          (∀ n ∈ names, ∀ p ∈ patterns, ¬p.Fits n) ∧ Accessible d root place names)) := by
  have hrules : Crawl.rules s d root = .ok (patterns.map SegmentPattern.rule) := rules_of_segments hown hpatterns
  obtain ⟨c, hrun⟩ : ∃ c, run s d root = .ok c := ⟨_, run_of_directory hreach hlist hrules⟩
  have htop := names_of_reach hallowed hreach
  have hfiles := fun f => mem_files_iff_segments hallowed hdistinct hreach hlist hrules hrun (f := f)
  refine ⟨c, hrun, hfiles, ?_⟩
  intro htexts names there content hne hnames hfound
  constructor
  · rintro ⟨f, hf, hpath⟩
    obtain ⟨names', content', hat, hsegments, haccess, rfl⟩ := (hfiles f).mp hf
    have hne' : names' ≠ [] := by
      rintro rfl
      cases hat
    have hsame : names' = names :=
      eq_of_shownPath_eq hne' hne (fun n hn => ⟨htop.of_at? hat n hn, htexts.of_at? hat n hn⟩) hnames hpath
    subst hsame
    exact ⟨fun k _ => Entry.at?_take_ne_link (Entry.file_ne_link content') hat k, hsegments, haccess⟩
  · rintro ⟨hlinks, hsegments, haccess⟩
    have hat := (at?_of_reach_below hreach hne (fun n hn => (hnames n hn).1.proper) hlinks hfound).2
    exact ⟨_, (hfiles _).mpr ⟨names, content, hat, hsegments, haccess, rfl⟩, rfl⟩

/-! ### A link and a rule -/

/-- A repository with modules that are passed over, a compiled file beside its source, and a link to their directory. -/
def linkedEntries : List (Bytes × Entry) :=
  [(bytes "alias", .link (bytes "src")), (bytes "node_modules", .directory [(bytes "a.py", .file .empty)]),
    (bytes "src", .directory [(bytes "a.py", .file .empty), (bytes "a.pyc", .file .empty)])]

/-- The rules `node_modules` and `*.pyc`. -/
def modulesAndCompiled : List SegmentPattern :=
  [.name ⟨"node_modules", by decide, by decide, by decide, by decide⟩,
    .ending ⟨".pyc", by decide, by decide, by decide, by decide⟩]

theorem linkedEntries_names {P : Bytes → Prop} (h : ∀ n ∈ [bytes "alias", bytes "src", bytes "node_modules",
    bytes "a.py", bytes "a.pyc"], P n) : (Entry.directory linkedEntries).Names P := by
  simp only [List.forall_mem_cons, List.not_mem_nil, false_implies, implies_true, and_true] at h
  simp [linkedEntries, h]

theorem linkedEntries_allowed : (Entry.directory linkedEntries).Allowed :=
  linkedEntries_names (by decide)

theorem linkedEntries_distinct : (Entry.directory linkedEntries).Distinct := by
  simp only [linkedEntries, Entry.apartBy_directory, List.forall_mem_cons, List.not_mem_nil, false_implies,
    implies_true, Entry.apartBy_file, Entry.apartBy_link, and_true]
  decide

theorem linkedEntries_reach_alias :
    (holding linkedEntries).reach (Path.below (bytes "repo") [bytes "alias", bytes "a.py"]) =
      .ok ([bytes "repo", bytes "src", bytes "a.py"], .file .empty) := by
  have hat : (holding linkedEntries).root.at? [bytes "repo"] = some (.directory linkedEntries) := rfl
  have hfile : (Entry.directory linkedEntries).at? [bytes "src", bytes "a.py"] = some (.file .empty) := rfl
  have hsteps : Path.steps (Path.below (bytes "repo") [bytes "alias", bytes "a.py"]) =
      [bytes "repo", bytes "alias", bytes "a.py"] := by decide +kernel
  have hnames : ∀ n ∈ [bytes "src", bytes "a.py"], AllowedName n := by decide
  -- From the root to the directory, through the link, and on from there.
  have hfollow : (holding linkedEntries).follow maxLinks [] [bytes "repo", bytes "alias", bytes "a.py"] =
      .ok [bytes "repo", bytes "src", bytes "a.py"] := by
    have hrepo : (holding linkedEntries).root.child? (bytes "repo") = some (.directory linkedEntries) := rfl
    have hgo : (holding linkedEntries).follow 39 [bytes "repo"] [bytes "src", bytes "a.py"] =
        .ok [bytes "repo", bytes "src", bytes "a.py"] :=
      follow_names (holding_open linkedEntries) (Entry.file_ne_link _) hat hnames hfile
    rw [follow_name rfl (by decide) (by decide) hrepo (Entry.directory_ne_link _), follow]
    exact hgo
  have hlocate : (holding linkedEntries).locate (Path.below (bytes "repo") [bytes "alias", bytes "a.py"]) =
      .ok [bytes "repo", bytes "src", bytes "a.py"] := by
    unfold locate
    rw [hsteps]
    exact hfollow
  have hwants : wantsDirectory (Path.below (bytes "repo") [bytes "alias", bytes "a.py"]) = false := by decide +kernel
  unfold reach
  rw [hlocate, hwants]
  rfl

/-- Of four paths under which there is a file, one is listed: the others end as a rule says, lead through a directory
that is passed over, and lead through a link. -/
theorem files_of_linked_entries :
    ∃ c, run ⟨["node_modules", "*.pyc"], 1000, false⟩ (holding linkedEntries) (bytes "repo") = .ok c ∧
      (∃ f ∈ c.files, f.path = shownPath [bytes "src", bytes "a.py"]) ∧
      (¬∃ f ∈ c.files, f.path = shownPath [bytes "src", bytes "a.pyc"]) ∧
      (¬∃ f ∈ c.files, f.path = shownPath [bytes "node_modules", bytes "a.py"]) ∧
      ¬∃ f ∈ c.files, f.path = shownPath [bytes "alias", bytes "a.py"] := by
  obtain ⟨c, hrun, -, hlisted⟩ := files_by_segments ⟨["node_modules", "*.pyc"], 1000, false⟩ (holding linkedEntries)
    (bytes "repo") modulesAndCompiled _ linkedEntries (holding_allowed linkedEntries_allowed)
    (holding_apartBy linkedEntries_distinct) (holding_reach _) (holding_list _) rfl (by decide +kernel)
  have hlisted := hlisted (linkedEntries_names (by decide +kernel))
  have hfound : ∀ {names : List Bytes}, names ≠ [] →
      (Path.below (bytes "repo") names).length ≤ maxPath →
      (Entry.directory linkedEntries).at? names = some (.file .empty) →
        (holding linkedEntries).reach (Path.below (bytes "repo") names) = .ok (bytes "repo" :: names, .file .empty) :=
    fun hne hlength hat => holding_reach_below linkedEntries_allowed hat (Entry.file_ne_link _) hne hlength
  refine ⟨c, hrun, ?_, ?_, ?_, ?_⟩
  · have hat : (Entry.directory linkedEntries).at? [bytes "src", bytes "a.py"] = some (.file .empty) := rfl
    have hlength : (Path.below (bytes "repo") [bytes "src", bytes "a.py"]).length ≤ maxPath := by decide +kernel
    refine (hlisted _ _ .empty (by decide) (by decide +kernel) (hfound (by decide) hlength hat)).mpr
      ⟨fun k _ => Entry.at?_take_ne_link (Entry.file_ne_link _) hat k, by decide +kernel, fun _ _ _ => rfl, ?_⟩
    intro k hpos hk
    exact holding_list_take linkedEntries_allowed hat hlength hpos hk
  · intro h
    have hsegments := ((hlisted [bytes "src", bytes "a.pyc"] _ .empty (by decide) (by decide +kernel)
      (hfound (by decide) (by decide +kernel) rfl)).mp h).2.1
    revert hsegments
    decide +kernel
  · intro h
    have hsegments := ((hlisted [bytes "node_modules", bytes "a.py"] _ .empty (by decide) (by decide +kernel)
      (hfound (by decide) (by decide +kernel) rfl)).mp h).2.1
    revert hsegments
    decide +kernel
  · intro h
    have hlinks := ((hlisted [bytes "alias", bytes "a.py"] _ .empty (by decide) (by decide +kernel)
      linkedEntries_reach_alias).mp h).1
    exact hlinks 1 (by decide) (bytes "src") rfl

/-! ### A path that is too long -/

/-- A path to the repository that begins with `k` steps to the working directory. -/
def roundabout : Nat → Bytes
  | 0 => bytes "repo"
  | k + 1 => Path.point :: Path.slash :: roundabout k

theorem length_roundabout (k : Nat) : (roundabout k).length = 2 * k + 4 := by
  induction k with
  | zero => rfl
  | succ k ih =>
      rw [roundabout, List.length_cons, List.length_cons, ih]
      omega

theorem reach_roundabout (entries : List (Bytes × Entry)) {k : Nat} (hk : 2 * k + 4 ≤ maxPath) :
    (holding entries).reach (roundabout k) = .ok ([bytes "repo"], .directory entries) := by
  have hstep : ∀ k, roundabout (k + 1) = [Path.point] ++ Path.slash :: roundabout k := fun k => rfl
  have hsteps : Path.steps (roundabout k) = Path.steps (bytes "repo") := by
    clear hk
    induction k with
    | zero => rfl
    | succ k ih =>
        have hpoint : Path.steps [Path.point] = [] := by decide
        rw [hstep, Path.steps_append, hpoint, List.nil_append, ih]
  have hwants : wantsDirectory (roundabout k) = wantsDirectory (bytes "repo") := by
    clear hk hsteps
    induction k with
    | zero => rfl
    | succ k ih =>
        have hne : Path.segments (roundabout k) ≠ [] := Path.segmentsFrom_ne_nil _ []
        rw [← ih]
        unfold wantsDirectory
        rw [hstep, Path.segments_append, List.getLast?_append, List.getLast?_eq_some_getLast hne, Option.some_or]
  have hstart : (holding entries).start (roundabout k) = (holding entries).start (bytes "repo") := by
    cases k <;> rfl
  have hlength := length_roundabout k
  have hlocate : (holding entries).locate (roundabout k) = (holding entries).locate (bytes "repo") := by
    have hempty : (roundabout k).isEmpty = false := by
      rw [List.isEmpty_eq_false_iff, ← List.length_pos_iff]
      omega
    have hlong : ¬maxPath < (roundabout k).length := by omega
    unfold locate
    rw [hempty, if_neg hlong, hsteps, hstart]
    rfl
  rw [← holding_reach entries]
  unfold reach
  rw [hlocate, hwants]

/-- A repository with a file and another one in a directory of the given name. -/
def deepEntries (name : Bytes) : List (Bytes × Entry) :=
  [(bytes "a.py", .file "x = 1\n".toUTF8), (name, .directory [(bytes "b.py", .file "y = 1\n".toUTF8)])]

/-- A file is not listed if the path of its directory has become too long, although the path of the root is not. -/
theorem not_listed_behind_long_path {name : Bytes} (hname : AllowedName name ∧ IsText name) (hne : name ≠ bytes "a.py")
    {k : Nat} (hshort : 2 * k + 4 ≤ maxPath) (hlong : maxPath < 2 * k + 4 + name.length) :
    (Entry.directory (deepEntries name)).at? [name, bytes "b.py"] = some (.file "y = 1\n".toUTF8) ∧
    ∃ c, run ⟨[], Classify.defaultMaxFileSize, false⟩ (holding (deepEntries name)) (roundabout k) = .ok c ∧
      ¬∃ f ∈ c.files, f.path = shownPath [name, bytes "b.py"] := by
  have hfile : ∀ n ∈ [bytes "a.py", bytes "b.py"], AllowedName n ∧ IsText n := by decide +kernel
  simp only [List.forall_mem_cons, List.not_mem_nil, false_implies, implies_true, and_true] at hfile
  have hallowed : (Entry.directory (deepEntries name)).Allowed := by simp [deepEntries, hname.1, hfile]
  have htexts : (Entry.directory (deepEntries name)).Texts := by simp [deepEntries, hname.2, hfile]
  have hdistinct : (Entry.directory (deepEntries name)).Distinct := by simp [deepEntries, Ne.symm hne]
  have hat : (Entry.directory (deepEntries name)).at? [name, bytes "b.py"] = some (.file "y = 1\n".toUTF8) := by
    have hlookup : (deepEntries name).lookup name = some (.directory [(bytes "b.py", .file "y = 1\n".toUTF8)]) := by
      rw [Lists.lookup_eq_some_iff_of_nodup (Entry.apartBy_directory.mp hdistinct).1]
      simp [deepEntries]
    rw [Entry.at?, Entry.child?, hlookup]
    rfl
  have hreach := reach_roundabout (deepEntries name) hshort
  have hlist : (holding (deepEntries name)).list (roundabout k) = .ok (deepEntries name) := by
    unfold list
    rw [hreach]
    rfl
  obtain ⟨c, hrun⟩ : ∃ c, run ⟨[], Classify.defaultMaxFileSize, false⟩ (holding (deepEntries name)) (roundabout k) =
      .ok c := ⟨_, run_of_directory hreach hlist rfl⟩
  refine ⟨hat, c, hrun, ?_⟩
  rintro ⟨f, hf, hpath⟩
  obtain ⟨names, content, hincluded, rfl⟩ := (mem_files_iff (holding_apartBy hdistinct) hrun).mp hf
  obtain ⟨hreach', -, -, hat, -, habove⟩ := id hincluded
  cases hreach.symm.trans hreach'
  have hsame : names = [name, bytes "b.py"] :=
    eq_of_shownPath_eq hincluded.names_ne_nil (List.cons_ne_nil _ _)
      (fun n hn => ⟨hallowed.of_at? hat n hn, htexts.of_at? hat n hn⟩) (by simp [hname, hfile]) hpath
  subst hsame
  -- The directory would have to be listed under its own path.
  have htooLong : maxPath < (Path.below (roundabout k) [name]).length := by
    have habsolute : Path.isAbsolute name = false := List.append_nil name ▸ Path.isAbsolute_of_proper hname.1.proper []
    have hle : (roundabout k).length + name.length ≤ (Path.below (roundabout k) [name]).length :=
      Path.length_add_le_length_join habsolute
    rw [length_roundabout] at hle
    omega
  have hlisted := (habove 1 (by decide) (by simp)).2
  rw [List.take_succ_cons, List.take_zero, isOk_list_of_too_long htooLong] at hlisted
  cases hlisted

/-- A name of two hundred letters `d`. -/
def longName : Bytes :=
  List.replicate 200 100

theorem longName_allowed : AllowedName longName ∧ IsText longName := by
  -- All is said of any number of letters, so that nothing has to be written out.
  have hletters : ∀ n, 2 < n → n ≤ maxName → AllowedName (List.replicate n 100) ∧ IsText (List.replicate n 100) := by
    intro n hmin hmax
    have hshort : ∀ b : Bytes, b.length ≤ 2 → List.replicate n 100 ≠ b := by
      rintro b hb rfl
      rw [List.length_replicate] at hb
      omega
    have htext : List.replicate n 100 = bytes (String.ofList (List.replicate n 'd')) := by
      rw [bytes_ofList]
      clear hshort hmin hmax
      induction n with
      | zero => rfl
      | succ n ih =>
          rw [List.replicate_succ, List.replicate_succ, List.flatMap_cons, ← ih]
          rfl
    refine ⟨⟨hshort _ (by decide), hshort _ (by decide), hshort _ (by decide), ?_, ?_⟩, htext ▸ isText_bytes _⟩
    · rw [List.mem_replicate]
      rintro ⟨-, heq⟩
      exact absurd heq (by decide)
    · rwa [List.length_replicate]
  exact hletters 200 (by decide) (by decide)

/-- **A file in a directory that cannot be listed is not listed either**, although no segment of its path is a link and
there are no rules at all. -/
theorem file_behind_long_path :
    (Entry.directory (deepEntries longName)).at? [longName, bytes "b.py"] = some (.file "y = 1\n".toUTF8) ∧
    ∃ c, run ⟨[], Classify.defaultMaxFileSize, false⟩ (holding (deepEntries longName)) (roundabout 1973) = .ok c ∧
      ¬∃ f ∈ c.files, f.path = shownPath [longName, bytes "b.py"] := by
  have hlength : longName.length = 200 := List.length_replicate
  have hne : longName ≠ bytes "a.py" := by
    intro h
    have hfour : longName.length = 4 := by rw [h]; rfl
    omega
  refine not_listed_behind_long_path longName_allowed hne (by decide) ?_
  rw [hlength]
  decide

end CodeAtlas.Crawl

/-
How the paths of a crawl are written.

What a visit of an entry yields is said once for each kind of entry, and then what a
crawl has done that succeeded; all that is known of walks rests on these.

A walk writes the path of an entry as the texts of the names that lead to it, with
slashes between them, and the root itself is a point.  A file system has no entries
that are named by points, and nothing else is shown as a point, so no path that a crawl
lists begins with a point and a slash.  This matters where such beginnings are taken
away from what a user writes: a path of the crawl comes through unchanged.
-/
import CodeAtlas.Crawl.Basic
import CodeAtlas.Proofs.Disk.Follow

namespace CodeAtlas.Crawl

open CodeAtlas.Disk
open CodeAtlas.Text

/-! ### Shown names and paths -/

/-- A text as it is shown for the name of an entry. -/
def ShownName (name : String) : Prop :=
  name ≠ "" ∧ name ≠ "." ∧ '/' ∉ name.toList

theorem shownName_of_allowed {name : Bytes} (h : AllowedName name) : ShownName (ofBytes name) := by
  obtain ⟨hempty, hpoint, -, hslash, -⟩ := h
  exact ⟨fun heq => hempty (eq_nil_of_shown heq), fun heq => hpoint (eq_point_of_shown heq),
    fun hmem => hslash (slash_mem_of_shown hmem)⟩

theorem shownPath_singleton (name : Bytes) : shownPath [name] = ofBytes name :=
  String.intercalate_singleton

theorem shownPath_concat {above : List Bytes} (hne : above ≠ []) (name : Bytes) :
    shownPath (above ++ [name]) = shownPath above ++ "/" ++ ofBytes name := by
  unfold shownPath
  rw [List.map_append, String.intercalate_append_of_ne_nil (by simpa using hne) (by simp), List.map_singleton,
    String.intercalate_singleton]

theorem bytes_intercalate : ∀ texts : List String,
    bytes ("/".intercalate texts) = Path.ofNames (texts.map bytes) := by
  intro texts
  induction texts with
  | nil => rfl
  | cons t rest ih =>
      cases rest with
      | nil => rw [String.intercalate_singleton]; rfl
      | cons u rest =>
          have hslash : bytes "/" = [Path.slash] := by decide
          rw [String.intercalate_cons_cons, bytes_append, bytes_append, ih, hslash, List.append_assoc,
            List.singleton_append]
          rfl

/-- The texts of the names can be told from the path that is shown. -/
theorem shown_eq_of_shownPath_eq {a b : List Bytes} (hane : a ≠ []) (hbne : b ≠ []) (ha : ∀ n ∈ a, AllowedName n)
    (hb : ∀ n ∈ b, AllowedName n) (h : shownPath a = shownPath b) : a.map ofBytes = b.map ofBytes := by
  have hsegments : ∀ {names : List Bytes}, names ≠ [] → (∀ n ∈ names, AllowedName n) →
      (Path.segments (bytes (shownPath names))).map ofBytes = names.map ofBytes := by
    intro names hne hnames
    have hfree : ∀ n ∈ (names.map ofBytes).map bytes, Path.slash ∉ n := by
      intro n hn hslash
      obtain ⟨t, ht, rfl⟩ := List.mem_map.mp hn
      obtain ⟨m, hm, rfl⟩ := List.mem_map.mp ht
      exact (shownName_of_allowed (hnames m hm)).2.2 ((ascii_mem_bytes (c := '/') (by decide)).mp hslash)
    rw [shownPath, bytes_intercalate, Path.segments_ofNames (by simpa using hne) hfree]
    simp
  rw [← hsegments hane ha, h, hsegments hbne hb]

/-- A path below the root: it is not the root, and it does not begin with a step to the root. -/
def Plain (path : String) : Prop :=
  path ≠ "" ∧ path ≠ "." ∧ ∀ rest, path.toList ≠ '.' :: '/' :: rest

theorem ShownName.plain {name : String} (h : ShownName name) : Plain name := by
  refine ⟨h.1, h.2.1, ?_⟩
  intro rest heq
  exact h.2.2 (by simp [heq])

/-- What is below a path that begins plainly begins so too. -/
theorem Plain.child {path : String} (h : Plain path) (name : String) : Plain (path ++ "/" ++ name) := by
  obtain ⟨hempty, hpoint, hstep⟩ := h
  have hne : ∃ c cs, path.toList = c :: cs := by
    cases hp : path.toList with
    | nil => exact absurd (String.toList_eq_nil_iff.mp hp) hempty
    | cons c cs => exact ⟨c, cs, rfl⟩
  obtain ⟨c, cs, hp⟩ := hne
  have happend : (path ++ "/" ++ name).toList = c :: (cs ++ '/' :: name.toList) := by simp [hp]
  refine ⟨?_, ?_, ?_⟩
  · intro heq
    rw [heq] at happend
    simp at happend
  · intro heq
    rw [heq] at happend
    simp at happend
  · intro rest heq
    rw [happend, List.cons.injEq] at heq
    obtain ⟨rfl, hrest⟩ := heq
    cases cs with
    | nil => exact hpoint (String.toList_inj.mp (by rw [hp]; rfl))
    | cons c' cs' =>
        rw [List.cons_append, List.cons.injEq] at hrest
        exact hstep cs' (by rw [hp, hrest.1])

theorem plain_shownPath (first : Bytes) (hfirst : AllowedName first) : ∀ rest : List Bytes,
    Plain (shownPath (first :: rest)) := by
  intro rest
  have hplain := (shownName_of_allowed hfirst).plain
  cases rest with
  | nil => exact (shownPath_singleton first).symm ▸ hplain
  | cons next rest =>
      have hpath : shownPath (first :: next :: rest) = ofBytes first ++ "/" ++ shownPath (next :: rest) :=
        String.intercalate_cons_cons
      rw [hpath]
      exact hplain.child _

/-! ### Visits -/

theorem mem_ofDirectory_files (name path : String) {visits : List (Bytes × Visit)} {f : CrawledFile} :
    f ∈ (Visit.ofDirectory name path visits).files ↔ ∃ v ∈ visits, f ∈ v.2.files := by
  unfold Visit.ofDirectory
  simp only [List.mem_flatMap, List.mem_map, List.mem_mergeSort]
  constructor
  · rintro ⟨-, ⟨v, hv, rfl⟩, hf⟩
    exact ⟨v, hv, hf⟩
  · rintro ⟨v, hv, hf⟩
    exact ⟨v.2, ⟨v, hv, rfl⟩, hf⟩

section

variable {w : Walk} {above : List Bytes} {name : Bytes} {v : Visit}

theorem visit?_file_eq_some {content : ByteArray} :
    visit? w above name (.file content) = some v ↔
      w.passes (above ++ [name]) false = false ∧ visitFile w above name = v := by
  rw [visit?]
  cases w.passes (above ++ [name]) false <;> simp

theorem visit?_link (target : Bytes) : visit? w above name (.link target) = none := by
  rw [visit?]

/-- What is visited in a directory, which seems to be empty if it cannot be listed. -/
def visitIn (w : Walk) (names : List Bytes) (entries : List (Bytes × Entry)) : List (Bytes × Visit) :=
  if w.lists names then visitAll w names entries else []

theorem visit?_directory_eq_some {entries : List (Bytes × Entry)} :
    visit? w above name (.directory entries) = some v ↔ w.passes (above ++ [name]) true = false ∧
      Visit.ofDirectory (ofBytes name) (shownPath (above ++ [name])) (visitIn w (above ++ [name]) entries) = v := by
  rw [visit?]
  cases w.passes (above ++ [name]) true <;> simp [visitIn]

theorem visitAll_eq (w : Walk) (above : List Bytes) : ∀ entries : List (Bytes × Entry),
    visitAll w above entries = entries.filterMap fun q => (visit? w above q.1 q.2).map (q.1, ·) := by
  intro entries
  induction entries with
  | nil => rw [visitAll, List.filterMap_nil]
  | cons q rest ih =>
      obtain ⟨name, e⟩ := q
      rw [visitAll, ih, List.filterMap_cons]
      cases visit? w above name e <;> rfl

theorem mem_visitAll {entries : List (Bytes × Entry)} {v : Bytes × Visit} : v ∈ visitAll w above entries ↔
    ∃ q ∈ entries, v.1 = q.1 ∧ visit? w above q.1 q.2 = some v.2 := by
  rw [visitAll_eq, List.mem_filterMap]
  constructor
  · rintro ⟨q, hq, hv⟩
    obtain ⟨found, hfound, rfl⟩ := Option.map_eq_some_iff.mp hv
    exact ⟨q, hq, rfl, hfound⟩
  · rintro ⟨q, hq, hname, hfound⟩
    refine ⟨q, hq, Option.map_eq_some_iff.mpr ⟨v.2, hfound, ?_⟩⟩
    rw [← hname]

/-- What is visited in a directory is an entry of it, and the directory was listed. -/
theorem mem_visitIn {names : List Bytes} {entries : List (Bytes × Entry)} {v : Bytes × Visit} :
    v ∈ visitIn w names entries ↔
      w.lists names = true ∧ ∃ q ∈ entries, v.1 = q.1 ∧ visit? w names q.1 q.2 = some v.2 := by
  unfold visitIn
  cases w.lists names with
  | false => simp
  | true => simp [mem_visitAll]

end

/-! ### Crawls -/

theorem mem_visitRoot_files {w : Walk} (root : Bytes) {entries : List (Bytes × Entry)} {f : CrawledFile} :
    f ∈ (visitRoot w root entries).files ↔ ∃ q ∈ entries, ∃ v, visit? w [] q.1 q.2 = some v ∧ f ∈ v.files := by
  unfold visitRoot
  rw [mem_ofDirectory_files]
  constructor
  · rintro ⟨v, hv, hf⟩
    obtain ⟨q, hq, -, hvisit⟩ := mem_visitAll.mp hv
    exact ⟨q, hq, v.2, hvisit, hf⟩
  · rintro ⟨q, hq, v, hvisit, hf⟩
    exact ⟨(q.1, v), mem_visitAll.mpr ⟨q, hq, rfl, hvisit⟩, hf⟩

/-- A walk that succeeds has begun at a directory that can be listed, and has read the rules. -/
theorem run_eq_ok {s : Settings} {d : Disk} {root : Bytes} {c : Crawl} (h : run s d root = .ok c) :
    ∃ place entries rules, d.reach root = .ok (place, .directory entries) ∧ d.list root = .ok entries ∧
      Crawl.rules s d root = .ok rules ∧
      c = ⟨root, (visitRoot (.through d root place rules s.maxFileSize) root entries).node,
        (visitRoot (.through d root place rules s.maxFileSize) root entries).files, s.maxFileSize⟩ := by
  unfold run at h
  split at h
  · cases h
  · next place entries hreach =>
    split at h
    · cases h
    · next entries' hlist =>
      split at h
      · cases h
      · next rules hrules =>
        obtain ⟨place', hreach', -⟩ := list_eq_ok hlist
        cases hreach.symm.trans hreach'
        cases h
        exact ⟨place, entries, rules, hreach, hlist, hrules, rfl⟩
  · cases h

theorem run_of_directory {s : Settings} {d : Disk} {root : Bytes} {place : List Bytes}
    {entries : List (Bytes × Entry)} {rules : List Ignore.Rule}
    (hreach : d.reach root = .ok (place, .directory entries)) (hlist : d.list root = .ok entries)
    (hrules : Crawl.rules s d root = .ok rules) : run s d root =
      .ok ⟨root, (visitRoot (.through d root place rules s.maxFileSize) root entries).node,
        (visitRoot (.through d root place rules s.maxFileSize) root entries).files, s.maxFileSize⟩ := by
  unfold run
  rw [hreach, hlist]
  simp only [hrules]

/-- What is read of a crawl is looked for from its own root. -/
theorem run_root {s : Settings} {d : Disk} {root : Bytes} {c : Crawl} (h : run s d root = .ok c) : c.root = root := by
  obtain ⟨place, entries, rules, -, -, -, rfl⟩ := run_eq_ok h
  rfl

/-- Going down from somewhere, only what is below it is listed. -/
theorem visit?_shown {w : Walk} (e : Entry) : ∀ {above : List Bytes} {name : Bytes} {v : Visit},
    visit? w above name e = some v → ∀ f ∈ v.files, ∃ below, f.path = shownPath (above ++ name :: below) := by
  induction e using Entry.induction with
  | file content =>
      intro above name v hv f hf
      obtain ⟨-, rfl⟩ := visit?_file_eq_some.mp hv
      rw [List.mem_singleton.mp hf]
      exact ⟨[], rfl⟩
  | link target =>
      intro above name v hv
      rw [visit?_link] at hv
      cases hv
  | directory entries ih =>
      intro above name v hv f hf
      obtain ⟨-, rfl⟩ := visit?_directory_eq_some.mp hv
      obtain ⟨u, hu, hf⟩ := (mem_ofDirectory_files _ _).mp hf
      obtain ⟨-, q, hq, -, hvisit⟩ := mem_visitIn.mp hu
      obtain ⟨below, hpath⟩ := ih q hq hvisit f hf
      refine ⟨q.1 :: below, ?_⟩
      rw [hpath, List.append_assoc, List.singleton_append]

/-- **The paths of a crawl are plain**, if the names on the disk are such as a file system allows. -/
theorem run_plain {s : Settings} {d : Disk} {root : Bytes} {c : Crawl} (hd : d.root.Allowed)
    (h : run s d root = .ok c) : ∀ f ∈ c.files, Plain f.path := by
  obtain ⟨place, entries, rules, hreach, -, -, rfl⟩ := run_eq_ok h
  intro f hf
  obtain ⟨q, hq, v, hvisit, hf⟩ := (mem_visitRoot_files root).mp hf
  obtain ⟨below, hpath⟩ := visit?_shown q.2 hvisit f hf
  rw [hpath, List.nil_append]
  exact plain_shownPath q.1 (Entry.names_directory.mp (names_of_reach hd hreach) q hq).1 below

theorem codeFilesOf_plain {c : Crawl} (h : ∀ f ∈ c.files, Plain f.path) (language : String) :
    ∀ path ∈ (c.codeFilesOf language).map (·.path), Plain path := by
  intro path hpath
  obtain ⟨f, hf, rfl⟩ := List.mem_map.mp hpath
  exact h f (List.mem_filter.mp (List.mem_filter.mp hf).1).1

end CodeAtlas.Crawl

/-
Which files are taken for the beginning of a program.

A name or a construct near its beginning makes a file an entry point, and binary files
are left out.  But the answer whether a file is binary is that of the crawl, and a
crawl does not look into files above its limit, and cannot look into files that it may
not read: it takes all of them for text.  Their names are heard nevertheless, and their
beginnings are read again.  So what is left out are the binary files up to the limit
that can be read, and apart from these there are no exceptions.

`mem_entryPoints_iff` says this of a single path in terms of the disk.  The order is
that of the crawl, which meets no path twice if names are shown apart.
-/
import CodeAtlas.Crawl.EntryPoints
import CodeAtlas.Proofs.Crawl.Tree

namespace CodeAtlas.Classify

open CodeAtlas.Text

/-- No byte is zero in the part of a file that is looked at. -/
def BeginsAsText (content : ByteArray) : Prop :=
  ∀ i < 1024, content.data[i]? ≠ some 0

/-- A file above the limit is taken for text unseen. -/
theorem sniff_binary_eq_false_iff (maxFileSize : Nat) (path : Bytes) {content : ByteArray} :
    (sniff maxFileSize path content).binary = false ↔ (content.size ≤ maxFileSize → BeginsAsText content) := by
  unfold sniff
  by_cases hsize : maxFileSize < content.size
  · rw [if_pos hsize]
    simp [Nat.not_le.mpr hsize]
  · rw [if_neg hsize]
    simp only [Nat.not_lt.mp hsize, forall_const]
    exact isBinary_headOf_eq_false_iff

end CodeAtlas.Classify

namespace CodeAtlas.Crawl

open CodeAtlas.Classify
open CodeAtlas.Disk
open CodeAtlas.Text

/-! ### Signals -/

/-- What is found under a path of a repository signals that a program in a language starts in it. -/
inductive Signals (d : Disk) (root : Bytes) (language path : String) : Prop
  | name {name : String} (usual : name ∈ entryNamesOf language)
      (last : path = name ∨ ∃ above, path = above ++ "/" ++ name)
  | construct {content : ByteArray} (read : d.read (Path.join root (bytes path)) = .ok content)
      (main : hasMain language (decodeLossy (headOf content)) = true)

/-- A crawl takes a file for text: it has no zero near its beginning, or the crawl does not look into it, since it is
above the limit or cannot be read. -/
def TakenForText (d : Disk) (maxFileSize : Nat) (root : Bytes) (names : List Bytes) (content : ByteArray) : Prop :=
  (look d maxFileSize (Path.below root names)).isOk = true → content.size ≤ maxFileSize → BeginsAsText content

theorem entryNamesOf_plain {language name : String} (h : name ∈ entryNamesOf language) : '/' ∉ name.toList := by
  have hall : ∀ q ∈ entryNames, ∀ n ∈ q.2, '/' ∉ n.toList := by decide +kernel
  unfold entryNamesOf at h
  cases hlookup : entryNames.lookup language with
  | none => simp [hlookup] at h
  | some names =>
      rw [hlookup, Option.getD_some] at h
      exact hall _ ((Lists.lookup_eq_some_iff_of_nodup (by decide +kernel)).mp hlookup) name h

theorem knowsMain_of_hasMain {language head : String} (h : hasMain language head = true) :
    knowsMain language = true := by
  unfold hasMain at h
  unfold knowsMain
  cases hlookup : mainPatterns.lookup language with
  | none => simp [hlookup] at h
  | some patterns => rfl

section

variable {s : Settings} {d : Disk} {root : Bytes} {language path : String} {c : Crawl}

/-- A file is an entry point if its path signals so, unless it was found to be binary. -/
theorem isEntryPoint_iff {f : CrawledFile} : isEntryPoint d c language f = true ↔
    f.binary = false ∧ Signals d c.root language f.path := by
  have hnamed : f.name ∈ entryNamesOf language ↔
      ∃ name ∈ entryNamesOf language, f.path = name ∨ ∃ above, f.path = above ++ "/" ++ name := by
    constructor
    · intro hmem
      exact ⟨_, hmem, (CrawledFile.name_eq_iff (entryNamesOf_plain hmem)).mp rfl⟩
    · rintro ⟨name, hmem, hpath⟩
      rw [(CrawledFile.name_eq_iff (entryNamesOf_plain hmem)).mpr hpath]
      exact hmem
  have hstarts : startsProgram d (c.pathOf f.path) language = true ↔
      ∃ content, d.read (Path.join c.root (bytes f.path)) = .ok content ∧
        hasMain language (decodeLossy (headOf content)) = true := by
    unfold startsProgram pathOf
    cases d.read (Path.join c.root (bytes f.path)) with
    | error e => simp
    | ok content => simp
  unfold isEntryPoint
  rw [Bool.and_eq_true, Bool.not_eq_true', Bool.or_eq_true, List.contains_iff_mem, hnamed, Bool.and_eq_true, hstarts]
  refine and_congr_right fun _ => ?_
  constructor
  · rintro (⟨name, hmem, hpath⟩ | ⟨-, content, hread, hmain⟩)
    · exact .name hmem hpath
    · exact .construct hread hmain
  · rintro (⟨hmem, hpath⟩ | ⟨hread, hmain⟩)
    · exact .inl ⟨_, hmem, hpath⟩
    · exact .inr ⟨knowsMain_of_hasMain hmain, _, hread, hmain⟩

/-- What a crawl writes down as binary are the files that it does not take for text. -/
theorem binary_fileAt (hallowed : d.root.Allowed) {names : List Bytes} {content : ByteArray}
    (h : Included s d root names content) : (fileAt d s.maxFileSize root names).binary = false ↔
      TakenForText d s.maxFileSize root names content := by
  unfold fileAt TakenForText
  rcases h.look_eq hallowed s.maxFileSize with hlook | ⟨e, hlook⟩
  · rw [hlook]
    exact (sniff_binary_eq_false_iff s.maxFileSize _).trans (by simp [Except.isOk, Except.toBool])
  · rw [hlook]
    simp [Except.isOk, Except.toBool, Except.toOption, CrawledFile.ofSniff, unknown]

/-- **A path is an entry point exactly if it signals so and belongs to an included file that was taken for text.** -/
theorem mem_entryPoints_iff (hallowed : d.root.Allowed) (hdistinct : d.root.Distinct) (hc : run s d root = .ok c) :
    path ∈ entryPoints d c language ↔ Signals d root language path ∧
      ∃ names content, Included s d root names content ∧ path = shownPath names ∧
        TakenForText d s.maxFileSize root names content := by
  have hroot := run_root hc
  constructor
  · intro hpath
    obtain ⟨f, hf, rfl⟩ := List.mem_map.mp hpath
    obtain ⟨hmem, hentry⟩ := List.mem_filter.mp hf
    obtain ⟨names, content, hincluded, rfl⟩ := (mem_files_iff hdistinct hc).mp hmem
    obtain ⟨hbinary, hsignals⟩ := isEntryPoint_iff.mp hentry
    exact ⟨hroot ▸ hsignals, names, content, hincluded, rfl, (binary_fileAt hallowed hincluded).mp hbinary⟩
  · rintro ⟨hsignals, names, content, hincluded, rfl, htext⟩
    have hmem := (mem_files_iff hdistinct hc).mpr ⟨names, content, hincluded, rfl⟩
    have hentry : isEntryPoint d c language (fileAt d s.maxFileSize root names) = true :=
      isEntryPoint_iff.mpr ⟨(binary_fileAt hallowed hincluded).mpr htext, hroot.symm ▸ hsignals⟩
    exact List.mem_map.mpr ⟨_, List.mem_filter.mpr ⟨hmem, hentry⟩, rfl⟩

end

theorem entryPoints_sublist (d : Disk) (c : Crawl) (language : String) :
    List.Sublist (entryPoints d c language) (c.files.map CrawledFile.path) :=
  List.filter_sublist.map _

/-- No entry point is found twice. -/
theorem nodup_entryPoints {c : Crawl} (h : (c.files.map CrawledFile.path).Nodup) (d : Disk) (language : String) :
    (entryPoints d c language).Nodup :=
  h.sublist (entryPoints_sublist d c language)

/-! ### All parts together -/

/--
**Entry points are binary only where the crawl did not look.**  For every crawl of a
disk, with any settings, and every language, the entry points are some of the paths of
the crawl in their order: those that signal a program and belong to an included file
that is text, is above the limit or cannot be read.  Where names are shown apart, none
of them comes twice, and no file that the crawl has looked into is an entry point and
binary; and then no entry point is binary at all exactly if this holds of the files
above the limit and of those that cannot be read, as far as they signal a program.
-/
theorem entry_points_binary_only_above_limit (s : Settings) (d : Disk) (hallowed : d.root.Allowed)
    (hdistinct : d.root.Distinct) (root : Bytes) (c : Crawl) (hc : run s d root = .ok c) (language : String) :
    List.Sublist (entryPoints d c language) (c.files.map CrawledFile.path) ∧
    (∀ path, path ∈ entryPoints d c language ↔ Signals d root language path ∧
      ∃ names content, Included s d root names content ∧ path = shownPath names ∧
        TakenForText d s.maxFileSize root names content) ∧
    (ShownApart d root → (entryPoints d c language).Nodup ∧
      (∀ names content, Included s d root names content → shownPath names ∈ entryPoints d c language →
        (look d s.maxFileSize (Path.below root names)).isOk = true → content.size ≤ s.maxFileSize →
          BeginsAsText content) ∧
      ((∀ names content, Included s d root names content → shownPath names ∈ entryPoints d c language →
          BeginsAsText content) ↔
        ∀ names content, Included s d root names content → Signals d root language (shownPath names) →
          s.maxFileSize < content.size ∨ (look d s.maxFileSize (Path.below root names)).isOk = false →
            BeginsAsText content)) := by
  have hmem : ∀ path, path ∈ entryPoints d c language ↔ Signals d root language path ∧
      ∃ names content, Included s d root names content ∧ path = shownPath names ∧
        TakenForText d s.maxFileSize root names content :=
    fun path => mem_entryPoints_iff hallowed hdistinct hc
  refine ⟨entryPoints_sublist d c language, hmem, fun hshown => ?_⟩
  -- The file that a path belongs to is the one that was taken for text.
  have htaken : ∀ names content, Included s d root names content → shownPath names ∈ entryPoints d c language →
      Signals d root language (shownPath names) ∧ TakenForText d s.maxFileSize root names content := by
    intro names content hincluded hpath
    obtain ⟨hsignals, names', content', hincluded', heq, htext⟩ := (hmem _).mp hpath
    obtain ⟨rfl, rfl⟩ := hincluded.eq_of_shown hallowed hshown hincluded' heq
    exact ⟨hsignals, htext⟩
  refine ⟨nodup_entryPoints (run_nodup_paths hallowed hdistinct hshown hc) d language, ?_, ?_, ?_⟩
  · intro names content hincluded hpath hlook hsize
    exact (htaken names content hincluded hpath).2 hlook hsize
  · intro h names content hincluded hsignals hunseen
    refine h names content hincluded ((hmem _).mpr ⟨hsignals, names, content, hincluded, rfl, ?_⟩)
    intro hlook hsize
    rcases hunseen with hlarge | hunreadable
    · exact absurd hlarge (Nat.not_lt.mpr hsize)
    · rw [hunreadable] at hlook
      cases hlook
  · intro h names content hincluded hpath
    obtain ⟨hsignals, htext⟩ := htaken names content hincluded hpath
    rcases Nat.lt_or_ge s.maxFileSize content.size with hlarge | hsmall
    · exact h names content hincluded hsignals (.inl hlarge)
    · cases hlook : (look d s.maxFileSize (Path.below root names)).isOk with
      | false => exact h names content hincluded hsignals (.inr hlook)
      | true => exact htext hlook hsmall

/-- A repository with two binary files whose names are usual for entry points, and a program in a text file. -/
def packed : List (Bytes × Entry) := [
  (bytes "main.py", .file "\x00 is the first byte of it\n".toUTF8),
  (bytes "run.py", .file "\x00".toUTF8),
  (bytes "tool.py", .file "def main(): pass\n".toUTF8)]

/-- A limit between the sizes of the two. -/
def packedSettings : Settings :=
  ⟨[], 20, false⟩

theorem packed_names {P : Bytes → Prop} (h : ∀ n ∈ [bytes "main.py", bytes "run.py", bytes "tool.py"], P n) :
    (Entry.directory packed).Names P := by
  simp only [List.forall_mem_cons, List.not_mem_nil, false_implies, implies_true, and_true] at h
  simp [packed, h]

theorem packed_allowed : (Entry.directory packed).Allowed :=
  packed_names (by decide)

theorem packed_distinct : (Entry.directory packed).Distinct := by
  simp only [packed, Entry.apartBy_directory, List.forall_mem_cons, List.not_mem_nil, false_implies, implies_true,
    Entry.apartBy_file, and_true]
  decide

theorem packed_shownApart : ShownApart (holding packed) (bytes "repo") := by
  intro entries hlist
  cases (holding_list packed).symm.trans hlist
  exact Entry.Distinct.shownApart packed_distinct (packed_names (by decide +kernel))

theorem packed_run : ∃ c, run packedSettings (holding packed) (bytes "repo") = .ok c :=
  run_holding rfl

theorem packed_included {name : Bytes} {content : ByteArray}
    (h : (Entry.directory packed).at? [name] = some (.file content))
    (hlength : (Path.below (bytes "repo") [name]).length ≤ maxPath) :
    Included packedSettings (holding packed) (bytes "repo") [name] content :=
  Included.of_holding packed_allowed rfl h hlength rfl fun _ hk hpos => absurd hk (Nat.not_lt.mpr hpos)

/-- The larger one has a usual name and a zero. -/
theorem packed_main : ∃ content, Included packedSettings (holding packed) (bytes "repo") [bytes "main.py"] content ∧
    packedSettings.maxFileSize < content.size ∧ ¬BeginsAsText content ∧
    Signals (holding packed) (bytes "repo") "python" (shownPath [bytes "main.py"]) := by
  have husual : "main.py" ∈ entryNamesOf "python" := by decide +kernel
  have hpath : shownPath [bytes "main.py"] = "main.py" := by simp [shownPath]
  refine ⟨_, packed_included rfl (by decide +kernel), by decide +kernel, ?_, .name husual (.inl hpath)⟩
  intro htext
  exact htext 0 (by decide) (by decide +kernel)

theorem entry_points_of_packed :
    (holding packed).root.Allowed ∧ (holding packed).root.Distinct ∧ ShownApart (holding packed) (bytes "repo") ∧
    ∃ c, run packedSettings (holding packed) (bytes "repo") = .ok c ∧
      List.Sublist (entryPoints (holding packed) c "python") (c.files.map CrawledFile.path) ∧
      (entryPoints (holding packed) c "python").Nodup ∧
      "main.py" ∈ entryPoints (holding packed) c "python" ∧
      "run.py" ∉ entryPoints (holding packed) c "python" ∧
      "tool.py" ∈ entryPoints (holding packed) c "python" := by
  have hallowed := holding_allowed packed_allowed
  have hdistinct := holding_apartBy packed_distinct
  obtain ⟨c, hc⟩ := packed_run
  obtain ⟨hsublist, hmem, hapart⟩ := entry_points_binary_only_above_limit packedSettings
    (holding packed) hallowed hdistinct (bytes "repo") c hc "python"
  obtain ⟨hnodup, hsmall, -⟩ := hapart packed_shownApart
  have hpath : ∀ name : String, name = shownPath [bytes name] := fun name => by simp [shownPath]
  refine ⟨hallowed, hdistinct, packed_shownApart, c, hc, hsublist, hnodup, ?_, ?_, ?_⟩
  · obtain ⟨content, hincluded, hlarge, -, hsignals⟩ := packed_main
    rw [hpath "main.py"]
    exact (hmem _).mpr ⟨hsignals, _, content, hincluded, rfl, fun _ h => absurd hlarge (Nat.not_lt.mpr h)⟩
  · have hat : (Entry.directory packed).at? [bytes "run.py"] = some (.file "\x00".toUTF8) := rfl
    have hread := holding_read packed_allowed hat (List.cons_ne_nil _ _) (by decide +kernel)
    have hlook := look_isOk_of_read hread packedSettings.maxFileSize
    rw [hpath "run.py"]
    intro hrun
    exact hsmall _ _ (packed_included hat (by decide +kernel)) hrun hlook (by decide +kernel) 0 (by decide)
      (by decide +kernel)
  · have hat : (Entry.directory packed).at? [bytes "tool.py"] = some (.file "def main(): pass\n".toUTF8) := rfl
    have hread := holding_read packed_allowed hat (List.cons_ne_nil _ _) (by decide +kernel)
    have hsignals : Signals (holding packed) (bytes "repo") "python" "tool.py" := .construct hread (by decide +kernel)
    refine (hmem _).mpr ⟨hsignals, _, _, packed_included hat (by decide +kernel), hpath "tool.py", fun _ _ => ?_⟩
    exact isBinary_headOf_eq_false_iff.mp (by decide +kernel)

/-- A binary file above the limit is an entry point by its name. -/
theorem binary_entry_point_above_limit :
    ∃ c content, run packedSettings (holding packed) (bytes "repo") = .ok c ∧
      "main.py" ∈ entryPoints (holding packed) c "python" ∧
      (holding packed).read (Path.join (bytes "repo") (bytes "main.py")) = .ok content ∧ ¬BeginsAsText content := by
  obtain ⟨c, hc⟩ := packed_run
  obtain ⟨content, hincluded, hlarge, hbinary, hsignals⟩ := packed_main
  have hpath : "main.py" = shownPath [bytes "main.py"] := by simp [shownPath]
  have hread := holding_read packed_allowed (hincluded.at?_eq (holding_list packed)) (List.cons_ne_nil _ _)
    (by decide +kernel)
  refine ⟨c, content, hc, ?_, hread, hbinary⟩
  rw [hpath]
  exact (mem_entryPoints_iff (holding_allowed packed_allowed) (holding_apartBy packed_distinct) hc).mpr
    ⟨hsignals, _, content, hincluded, rfl, fun _ h => absurd hlarge (Nat.not_lt.mpr h)⟩

end CodeAtlas.Crawl

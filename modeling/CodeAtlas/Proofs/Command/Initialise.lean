/-
What becomes of a configuration that is to be overwritten.

The configuration that counts is loaded, its log is opened and it is checked before any
command is run, and in a directory with a configuration of its own that is this one.
So a command that would overwrite it is not even reached if it cannot be loaded: the
file stays as it is, and only a file that could have been used as it was is replaced by
one with the defaults.

The nearest configuration is looked for under the path of the working directory, and
what is written goes to a path that is relative to it.  `reach_own` says that both lead
to the same place, whatever links there are on the way.  The first path can lead nowhere
although the second one leads to a file, if it is too long or something on the way may
not be entered; then another configuration counts.
-/
import CodeAtlas.Command.Run
import CodeAtlas.Proofs.Disk.Change
import CodeAtlas.Proofs.Settings.Nearest

namespace CodeAtlas.Command

open CodeAtlas.Disk
open CodeAtlas.Path
open CodeAtlas.Settings
open CodeAtlas.Text

/-! ### The working directory and its configuration -/

/-- The file with the configuration of the working directory. -/
def ownFile : Bytes := fileIn directoryName

/-- The directory with the configuration of the working directory, under the path of that one. -/
def ownDirectory (d : Disk) : Bytes := directoryIn (workingPath d)

theorem isAbsolute_directoryName : isAbsolute directoryName = false := by decide

theorem isAbsolute_fileName : isAbsolute fileName = false := by decide

theorem steps_directoryName : steps directoryName = [directoryName] := by decide

theorem steps_fileName : steps fileName = [fileName] := by decide

theorem wantsDirectory_fileName : wantsDirectory fileName = false := by decide

theorem steps_workingPath {d : Disk} (hnames : ∀ n ∈ d.workingDirectory, AllowedName n) :
    steps (workingPath d) = d.workingDirectory := by
  have hnone : steps [] = [] := rfl
  have hsplit : workingPath d = [] ++ slash :: ofNames d.workingDirectory := rfl
  rw [hsplit, steps_append, hnone, List.nil_append]
  by_cases hroot : d.workingDirectory = []
  · rw [hroot]
    rfl
  · exact steps_ofNames hroot fun n hn => (hnames n hn).proper

theorem wantsDirectory_fileIn {directory : Bytes} (h : directory ≠ []) : wantsDirectory (fileIn directory) = false := by
  unfold fileIn
  rw [wantsDirectory_join h isAbsolute_fileName, wantsDirectory_fileName]

section

variable {d : Disk} {content : ByteArray}

theorem locate_ownFile : d.locate ownFile = d.follow maxLinks d.workingDirectory [directoryName, fileName] := by
  have hempty : ownFile.isEmpty = false := by decide
  have hlength : ¬maxPath < ownFile.length := by decide
  have habsolute : isAbsolute ownFile = false := by decide
  have hsteps : steps ownFile = [directoryName, fileName] := by decide
  unfold locate start
  rw [hempty, if_neg hlength, habsolute, hsteps]
  rfl

theorem locate_directoryName : d.locate directoryName = d.follow maxLinks d.workingDirectory [directoryName] := by
  have hempty : directoryName.isEmpty = false := by decide
  have hlength : ¬maxPath < directoryName.length := by decide
  unfold locate start
  rw [hempty, if_neg hlength, isAbsolute_directoryName, steps_directoryName]
  rfl

theorem follow_of_read_ownFile (h : d.read ownFile = .ok content) :
    ∃ place, d.follow maxLinks d.workingDirectory [directoryName, fileName] = .ok place := by
  obtain ⟨place, hreach, -⟩ := read_eq_ok h
  exact ⟨place, locate_ownFile.symm.trans (reach_eq_ok hreach).1⟩

/-- A working directory with a configuration is a directory. -/
theorem directory_of_read_ownFile (h : d.read ownFile = .ok content) :
    ∃ entries, d.root.at? d.workingDirectory = some (.directory entries) := by
  obtain ⟨place, hfollow⟩ := follow_of_read_ownFile h
  obtain ⟨mid, entries, hmid, hat⟩ := follow_through [] hfollow (by simp)
  rw [follow] at hmid
  cases hmid
  exact ⟨entries, hat⟩

theorem root_of_read_ownFile (h : d.read ownFile = .ok content) : ∃ top, d.root = .directory top := by
  obtain ⟨entries, hat⟩ := directory_of_read_ownFile h
  by_cases hroot : d.workingDirectory = []
  · rw [hroot, Entry.at?] at hat
    exact ⟨entries, Option.some.inj hat⟩
  · obtain ⟨top, htop⟩ := Entry.directory_of_at?_append (p := []) hat hroot
    rw [Entry.at?] at htop
    exact ⟨top, Option.some.inj htop⟩

theorem pathExists_directoryName (h : d.read ownFile = .ok content) : d.pathExists directoryName = true := by
  obtain ⟨place, hfollow⟩ := follow_of_read_ownFile h
  obtain ⟨mid, entries, hmid, hat⟩ := follow_through [directoryName] hfollow (by simp)
  have hreach : d.reach directoryName = .ok (mid, .directory entries) :=
    reach_eq_ok_iff.mpr ⟨locate_directoryName.trans hmid, hat, fun _ => rfl⟩
  unfold pathExists
  rw [hreach]

/-- **What is found under the path of the working directory is the configuration there.** -/
theorem reach_own (hnames : ∀ n ∈ d.workingDirectory, AllowedName n) {entries : List (Bytes × Entry)}
    (hhere : d.root.at? d.workingDirectory = some (.directory entries)) {place : List Bytes} {e : Entry}
    (h : d.reach (fileIn (ownDirectory d)) = .ok (place, e)) : d.reach ownFile = .ok (place, e) := by
  have hbase : workingPath d ≠ [] := List.cons_ne_nil _ _
  have hdirectory : ownDirectory d ≠ [] := join_ne_nil hbase isAbsolute_directoryName
  have hsteps : steps (fileIn (ownDirectory d)) = d.workingDirectory ++ [directoryName, fileName] := by
    unfold fileIn
    rw [steps_join hdirectory isAbsolute_fileName]
    unfold ownDirectory directoryIn
    rw [steps_join hbase isAbsolute_directoryName, steps_workingPath hnames, steps_directoryName, steps_fileName,
      List.append_assoc]
    rfl
  have hstart : d.start (fileIn (ownDirectory d)) = [] := by
    unfold start fileIn
    rw [isAbsolute_join hdirectory isAbsolute_fileName]
    unfold ownDirectory directoryIn
    rw [isAbsolute_join hbase isAbsolute_directoryName]
    rfl
  obtain ⟨hlocate, hat, -⟩ := reach_eq_ok_iff.mp h
  obtain ⟨-, hfollow⟩ := locate_eq_ok hlocate
  rw [hstart, hsteps] at hfollow
  have hgo := follow_of_names_append rfl hnames hhere hfollow
  have hwants : wantsDirectory ownFile = false := wantsDirectory_fileIn (by decide +kernel)
  refine reach_eq_ok_iff.mpr ⟨locate_ownFile.trans hgo, hat, fun hw => ?_⟩
  rw [hwants] at hw
  cases hw

/-- In a directory whose configuration is found under its path, this is the one that counts. -/
theorem loadConfiguration_own (h : d.read (fileIn (ownDirectory d)) = .ok content) {c : Configuration}
    {directory : Option Bytes} : loadConfiguration d none = .ok (c, directory) ↔
      Describes content c ∧ directory = some (ownDirectory d) := by
  have hhas : HasConfiguration d (workingPath d) := pathExists_of_read h
  have hfind : find d (workingPath d) = (load d (fileIn (ownDirectory d))).map fun c => some (c, ownDirectory d) :=
    find_here hhas
  rw [← load_eq_ok_iff_describes h]
  unfold loadConfiguration
  simp only [hfind]
  cases load d (fileIn (ownDirectory d)) with
  | error e => simp [Except.map]
  | ok other => simp [Except.map, eq_comm]

end

/-! ### The log -/

/-- Opening a log leaves all files alone. -/
def LogsApart (m : Machine) : Prop :=
  ∀ d directory opened, m.openLog d directory = .ok opened → Grows d opened

/-- A log can be opened in a directory, unless there is none or it cannot be made. -/
def LogOpens (m : Machine) (d : Disk) (directory : Option Bytes) : Prop :=
  ∀ path made, directory = some path → d.makeDirectories path = .ok made → ∃ opened, m.openLog made path = .ok opened

section

variable {m : Machine} {d : Disk} {content : ByteArray} {directory : Option Bytes}

theorem makeDirectories_apart (h : d.read ownFile = .ok content) {path : Bytes} {made : Disk}
    (hmade : d.makeDirectories path = .ok made) : Grows d made := by
  obtain ⟨entries, hhere⟩ := directory_of_read_ownFile h
  obtain ⟨top, hroot⟩ := root_of_read_ownFile h
  exact makeDirectories_grows hroot hhere hmade

/-- Where the log can be opened, all files are left alone. -/
theorem prepareLog_of_opens (hm : LogsApart m) (h : d.read ownFile = .ok content) (hopens : LogOpens m d directory) :
    ∃ changes ready, prepareLog m d directory = (changes, some ready) ∧ Change.applyAll m changes d = ready ∧
      Grows d ready := by
  cases directory with
  | none => exact ⟨[], d, rfl, rfl, .refl d⟩
  | some path =>
      cases hmade : d.makeDirectories path with
      | error e => exact ⟨[], d, by simp [prepareLog, hmade], rfl, .refl d⟩
      | ok made =>
          obtain ⟨opened, hopened⟩ := hopens path made rfl hmade
          refine ⟨[.makeDirectories path, .openLog path], opened, by simp [prepareLog, hmade, hopened], ?_, ?_⟩
          · simp [Change.applyAll, Change.apply, hmade, hopened, Except.toOption]
          · exact (makeDirectories_apart h hmade).trans (hm made path opened hopened)

/-- Where it cannot, there is no going on. -/
theorem prepareLog_of_not_opens (h : d.read ownFile = .ok content) (hopens : ¬LogOpens m d directory) :
    ∃ changes, prepareLog m d directory = (changes, none) ∧ Grows d (Change.applyAll m changes d) := by
  unfold LogOpens at hopens
  push Not at hopens
  obtain ⟨path, made, rfl, hmade, hrefused⟩ := hopens
  cases hopened : m.openLog made path with
  | ok opened => exact absurd hopened (hrefused opened)
  | error e =>
      refine ⟨[.makeDirectories path], by simp [prepareLog, hmade, hopened], ?_⟩
      have hafter : Change.applyAll m [.makeDirectories path] d = made := by
        simp [Change.applyAll, Change.apply, hmade, Except.toOption]
      rw [hafter]
      exact makeDirectories_apart h hmade

end

/-! ### Running -/

/-- The file with the configuration of the working directory may be written. -/
def Writable (d : Disk) : Prop :=
  ∃ written, d.write ownFile defaultText.toUTF8 = .ok written

section

variable {d : Disk} {content : ByteArray}

/-- Where there is a configuration already, it is overwritten if that is asked for. -/
theorem initialise_force (h : d.read ownFile = .ok content) (hwritable : Writable d) :
    initialise d true = { changes := [.write ownFile defaultText] } := by
  obtain ⟨written, hwrite⟩ := hwritable
  have hwrite' : d.write (fileIn directoryName) defaultText.toUTF8 = .ok written := hwrite
  unfold initialise
  rw [pathExists_directoryName h]
  simp only [Bool.not_true, Bool.and_false, Bool.false_eq_true, if_false, if_true, hwrite']
  rfl

theorem initialise_force_refused (h : d.read ownFile = .ok content) (hwritable : ¬Writable d) :
    ∃ causes, causes ≠ [] ∧ initialise d true = .failed causes := by
  cases hwrite : d.write ownFile defaultText.toUTF8 with
  | ok written => exact absurd ⟨written, hwrite⟩ hwritable
  | error e =>
      have hwrite' : d.write (fileIn directoryName) defaultText.toUTF8 = .error e := hwrite
      refine ⟨["Failed to write " ++ ofBytes ownFile, e.message], List.cons_ne_nil _ _, ?_⟩
      unfold initialise
      rw [pathExists_directoryName h]
      simp only [Bool.not_true, Bool.and_false, Bool.false_eq_true, if_false, if_true, hwrite']
      rfl

/-- The file may still be written after the disk has grown. -/
theorem writable_iff_of_grows {ready : Disk} (hgrows : Grows d ready) (h : d.read ownFile = .ok content) :
    Writable ready ↔ Writable d := by
  obtain ⟨place, hreach, -⟩ := read_eq_ok h
  unfold Writable
  simp only [write_eq_ok_iff hreach, write_eq_ok_iff (hgrows.reach_file hreach), exists_and_left, exists_eq, and_true,
    hgrows.refusal]

end

/-- What can come of overwriting the configuration of the working directory. -/
inductive Ending (m : Machine) (d : Disk) (result : Result) : Prop
  /-- The configuration that counts cannot be loaded. -/
  | notLoaded (e : LoadError) (hload : loadConfiguration d none = .error e) (hcode : result.exitCode = 1)
      (hgrows : Grows d (Change.applyAll m result.changes d))
  /-- Its log cannot be opened. -/
  | noLog (c : Configuration) (directory : Option Bytes) (hload : loadConfiguration d none = .ok (c, directory))
      (hlog : ¬LogOpens m d (c.logPath? directory)) (hcode : result.exitCode = 101)
      (hgrows : Grows d (Change.applyAll m result.changes d))
  /-- It has errors, or the file may not be written. -/
  | failed (c : Configuration) (directory : Option Bytes) (hload : loadConfiguration d none = .ok (c, directory))
      (hlog : LogOpens m d (c.logPath? directory)) (hfault : c.validate ≠ [] ∨ ¬Writable d)
      (hcode : result.exitCode = 1) (hgrows : Grows d (Change.applyAll m result.changes d))
  /-- The file is written, at the end of all that is done. -/
  | overwritten (c : Configuration) (directory : Option Bytes) (hload : loadConfiguration d none = .ok (c, directory))
      (hlog : LogOpens m d (c.logPath? directory)) (hvalid : c.validate = []) (hwritable : Writable d)
      (hcode : result.exitCode = 0) (ready : Disk) (hgrows : Grows d ready)
      (hwrite : ready.write ownFile defaultText.toUTF8 = .ok (Change.applyAll m result.changes d))

section

variable {m : Machine} {d : Disk} {content : ByteArray} {args : List String} {i : Invocation}

theorem result_of_outcome (hargs : Invocation.ofArguments args = .ok i) :
    (run m d args).exitCode =
        (if (i.run m d).crashed then 101 else if (i.run m d).causes.isEmpty then 0 else 1) ∧
      (run m d args).changes = (i.run m d).changes := by
  unfold run
  rw [hargs]
  simp only []
  by_cases hcrashed : (i.run m d).crashed
  · rw [if_pos hcrashed, if_pos hcrashed]
    exact ⟨rfl, rfl⟩
  · rw [if_neg hcrashed, if_neg hcrashed]
    by_cases hcauses : (i.run m d).causes.isEmpty
    · rw [if_pos hcauses, if_pos hcauses]
      exact ⟨rfl, rfl⟩
    · rw [if_neg hcauses, if_neg hcauses]
      exact ⟨rfl, rfl⟩

theorem applyAll_concat (changes : List Change) (last : Change) :
    Change.applyAll m (changes ++ [last]) d =
      ((last.apply m (Change.applyAll m changes d)).toOption).getD (Change.applyAll m changes d) := by
  unfold Change.applyAll
  rw [List.foldl_append]
  rfl

theorem run_of_load_error (hconfig : i.config = none) {e : LoadError} (hload : loadConfiguration d none = .error e) :
    i.run m d = .failed e.causes := by
  unfold Invocation.run
  rw [hconfig, hload]

/-- What a run does after the configuration that counts was loaded. -/
theorem run_of_load (hconfig : i.config = none) {c : Configuration} {directory : Option Bytes}
    (hload : loadConfiguration d none = .ok (c, directory)) :
    (∀ changes, prepareLog m d (c.logPath? directory) = (changes, none) →
      i.run m d = { changes, crashed := true }) ∧
    ∀ changes ready, prepareLog m d (c.logPath? directory) = (changes, some ready) →
      ∃ outcome, i.run m d = { outcome with changes := changes ++ outcome.changes } ∧
        (c.validate = [] → outcome = i.command.run m ready c) ∧
        (c.validate ≠ [] → ∃ cause, outcome = .failed [cause]) := by
  unfold Invocation.run
  rw [hconfig, hload]
  refine ⟨fun changes hprepare => by simp only [hprepare], fun changes ready hprepare => ?_⟩
  simp only [hprepare]
  refine ⟨_, rfl, fun hvalid => ?_, fun herrors => ?_⟩
  · rw [hvalid]
    rfl
  · rw [if_neg (by simpa using herrors)]
    exact ⟨_, rfl⟩

variable (hargs : Invocation.ofArguments args = .ok i) (hconfig : i.config = none)
include hargs hconfig

theorem ending_of_load_error {e : LoadError} (hload : loadConfiguration d none = .error e) :
    Ending m d (run m d args) := by
  obtain ⟨hcode, hchanges⟩ := result_of_outcome (m := m) (d := d) hargs
  rw [run_of_load_error hconfig hload] at hcode hchanges
  have hcauses : e.causes.isEmpty = false := by cases e <;> rfl
  refine .notLoaded e hload ?_ ?_
  · simpa [Outcome.failed, hcauses] using hcode
  · rw [hchanges]
    exact .refl d

variable (h : d.read ownFile = .ok content) {c : Configuration} {directory : Option Bytes}
  (hload : loadConfiguration d none = .ok (c, directory))
include h hload

theorem ending_of_no_log (hlog : ¬LogOpens m d (c.logPath? directory)) : Ending m d (run m d args) := by
  obtain ⟨hcode, hchanges⟩ := result_of_outcome (m := m) (d := d) hargs
  obtain ⟨changes, hprepare, hgrows⟩ := prepareLog_of_not_opens h hlog
  rw [(run_of_load hconfig hload).1 changes hprepare] at hcode hchanges
  refine .noLog c directory hload hlog hcode ?_
  rw [hchanges]
  exact hgrows

/-- Once the log is open, all depends on the configuration and on whether the file may be written. -/
theorem ending_of_log (hm : LogsApart m) (hinit : i.command = .init true)
    (hlog : LogOpens m d (c.logPath? directory)) : Ending m d (run m d args) := by
  obtain ⟨hcode, hchanges⟩ := result_of_outcome (m := m) (d := d) hargs
  obtain ⟨changes, ready, hprepare, hready, hgrows⟩ := prepareLog_of_opens hm h hlog
  obtain ⟨outcome, hrun, hvalidRun, hinvalidRun⟩ := (run_of_load hconfig hload).2 changes ready hprepare
  have hread := hgrows.read h
  have hsame := writable_iff_of_grows hgrows h
  have hinitRun : i.command.run m ready c = initialise ready true := by rw [hinit]; rfl
  rw [hrun] at hcode hchanges
  by_cases hvalid : c.validate = []
  · rw [hvalidRun hvalid, hinitRun] at hcode hchanges
    by_cases hwritable : Writable d
    · obtain ⟨written, hwrite⟩ := hsame.mpr hwritable
      have happly : (Change.write ownFile defaultText).apply m ready = .ok written := hwrite
      rw [initialise_force hread (hsame.mpr hwritable)] at hcode hchanges
      have hafter : Change.applyAll m (run m d args).changes d = written := by
        rw [hchanges, applyAll_concat, hready, happly]
        rfl
      exact .overwritten c directory hload hlog hvalid hwritable hcode ready hgrows (hafter ▸ hwrite)
    · obtain ⟨causes, hne, hinitialise⟩ := initialise_force_refused hread (mt hsame.mp hwritable)
      rw [hinitialise] at hcode hchanges
      refine .failed c directory hload hlog (Or.inr hwritable) (by simpa [Outcome.failed, hne] using hcode) ?_
      rw [hchanges, Outcome.failed, List.append_nil, hready]
      exact hgrows
  · obtain ⟨cause, houtcome⟩ := hinvalidRun hvalid
    rw [houtcome] at hcode hchanges
    refine .failed c directory hload hlog (Or.inl hvalid) hcode ?_
    rw [hchanges, Outcome.failed, List.append_nil, hready]
    exact hgrows

end

/-- **Every run that is to overwrite a configuration ends in one of these ways.** -/
theorem run_ending {m : Machine} (hm : LogsApart m) {d : Disk} {content : ByteArray}
    (h : d.read ownFile = .ok content) {args : List String} {i : Invocation}
    (hargs : Invocation.ofArguments args = .ok i) (hinit : i.command = .init true) (hconfig : i.config = none) :
    Ending m d (run m d args) := by
  cases hload : loadConfiguration d none with
  | error e => exact ending_of_load_error hargs hconfig hload
  | ok loaded =>
      by_cases hlog : LogOpens m d (loaded.1.logPath? loaded.2)
      · exact ending_of_log hargs hconfig h hload hm hinit hlog
      · exact ending_of_no_log hargs hconfig h hload hlog

/-- The configuration that counts can be used: it is loaded, its log can be opened, and it has no errors. -/
def Usable (m : Machine) (d : Disk) : Prop :=
  ∃ c directory, loadConfiguration d none = .ok (c, directory) ∧ LogOpens m d (c.logPath? directory) ∧ c.validate = []

/-- A log that has to be opened for the configuration that counts cannot be opened. -/
def LogFails (m : Machine) (d : Disk) : Prop :=
  ∃ c directory, loadConfiguration d none = .ok (c, directory) ∧ ¬LogOpens m d (c.logPath? directory)

section

variable {m : Machine} {d : Disk} {content : ByteArray} {result : Result}

theorem Usable.not_logFails (h : Usable m d) : ¬LogFails m d := by
  rintro ⟨c, directory, hload, hfails⟩
  obtain ⟨c', directory', hload', hopens, -⟩ := h
  cases hload.symm.trans hload'
  exact hfails hopens

theorem Ending.exitCode_eq_zero_iff (h : Ending m d result) : result.exitCode = 0 ↔ Usable m d ∧ Writable d := by
  cases h with
  | notLoaded e hload hcode hgrows =>
      rw [hcode]
      refine ⟨fun hzero => absurd hzero (by decide), fun ⟨⟨c, directory, hok, _, _⟩, _⟩ => ?_⟩
      cases hload.symm.trans hok
  | noLog c directory hload hlog hcode hgrows =>
      rw [hcode]
      exact ⟨fun hzero => absurd hzero (by decide), fun husable => absurd ⟨c, directory, hload, hlog⟩ husable.1.not_logFails⟩
  | failed c directory hload hlog hfault hcode hgrows =>
      rw [hcode]
      refine ⟨fun hzero => absurd hzero (by decide), fun ⟨⟨c', directory', hload', _, hvalid⟩, hwritable⟩ => ?_⟩
      cases hload.symm.trans hload'
      exact hfault.elim (absurd hvalid) (absurd hwritable)
  | overwritten c directory hload hlog hvalid hwritable hcode ready hgrows hwrite =>
      exact ⟨fun _ => ⟨⟨c, directory, hload, hlog, hvalid⟩, hwritable⟩, fun _ => hcode⟩

theorem Ending.exitCode_eq_crash_iff (h : Ending m d result) : result.exitCode = 101 ↔ LogFails m d := by
  cases h with
  | notLoaded e hload hcode hgrows =>
      rw [hcode]
      refine ⟨fun hcrash => absurd hcrash (by decide), fun ⟨c, directory, hok, _⟩ => ?_⟩
      cases hload.symm.trans hok
  | noLog c directory hload hlog hcode hgrows => exact ⟨fun _ => ⟨c, directory, hload, hlog⟩, fun _ => hcode⟩
  | failed c directory hload hlog hfault hcode hgrows =>
      rw [hcode]
      refine ⟨fun hcrash => absurd hcrash (by decide), fun ⟨c', directory', hload', hfails⟩ => ?_⟩
      cases hload.symm.trans hload'
      exact absurd hlog hfails
  | overwritten c directory hload hlog hvalid hwritable hcode ready hgrows hwrite =>
      rw [hcode]
      have husable : Usable m d := ⟨c, directory, hload, hlog, hvalid⟩
      exact ⟨fun hcrash => absurd hcrash (by decide), fun hfails => absurd hfails husable.not_logFails⟩

/-- Without success, nothing is lost. -/
theorem Ending.grows (h : Ending m d result) (hne : result.exitCode ≠ 0) :
    (result.exitCode = 1 ∨ result.exitCode = 101) ∧ Grows d (Change.applyAll m result.changes d) := by
  cases h with
  | notLoaded e hload hcode hgrows => exact ⟨Or.inl hcode, hgrows⟩
  | noLog c directory hload hlog hcode hgrows => exact ⟨Or.inr hcode, hgrows⟩
  | failed c directory hload hlog hfault hcode hgrows => exact ⟨Or.inl hcode, hgrows⟩
  | overwritten c directory hload hlog hvalid hwritable hcode ready hgrows hwrite => exact absurd hcode hne

/-- After success, the defaults are in the place of the configuration, under every path that led to it. -/
theorem Ending.read_default (h : Ending m d result) (hzero : result.exitCode = 0) {place : List Bytes}
    (hown : d.reach ownFile = .ok (place, .file content)) {path : Bytes}
    (hreach : d.reach path = .ok (place, .file content)) (hrefused : d.refusal .read place = none) :
    (Change.applyAll m result.changes d).workingDirectory = d.workingDirectory ∧
      (Change.applyAll m result.changes d).read path = .ok defaultText.toUTF8 := by
  cases h with
  | notLoaded e hload hcode hgrows => rw [hcode] at hzero; cases hzero
  | noLog c directory hload hlog hcode hgrows => rw [hcode] at hzero; cases hzero
  | failed c directory hload hlog hfault hcode hgrows => rw [hcode] at hzero; cases hzero
  | overwritten c directory hload hlog hvalid hwritable hcode ready hgrows hwrite =>
      obtain ⟨-, hafter⟩ := (write_eq_ok_iff (hgrows.reach_file hown)).mp hwrite
      rw [hafter]
      refine ⟨hgrows.workingDirectory, read_putAt (hgrows.reach_file hreach) ?_ _⟩
      rw [hgrows.refusal, hrefused]

/-- After success, the defaults are what is loaded next. -/
theorem Ending.loads_default (h : Ending m d result) (hzero : result.exitCode = 0)
    (hnames : ∀ n ∈ d.workingDirectory, AllowedName n) {entries : List (Bytes × Entry)}
    (hhere : d.root.at? d.workingDirectory = some (.directory entries))
    (hread : d.read (fileIn (ownDirectory d)) = .ok content) :
    loadConfiguration (Change.applyAll m result.changes d) none = .ok (.standard, some (ownDirectory d)) := by
  obtain ⟨place, hreach, hrefused⟩ := read_eq_ok hread
  obtain ⟨hsame, hdefault⟩ := h.read_default hzero (reach_own hnames hhere hreach) hreach hrefused
  have hdirectory : ownDirectory d = ownDirectory (Change.applyAll m result.changes d) := by
    unfold ownDirectory workingPath
    rw [hsame]
  rw [hdirectory] at hdefault ⊢
  exact (loadConfiguration_own hdefault).mpr ⟨describes_defaultText, rfl⟩

end

/--
**Only a configuration that can be used is overwritten.**  The command succeeds if and
only if the configuration that counts can be loaded, its log can be opened, it has no
errors and the file may be written; then the defaults are in its place.  It crashes if
and only if a log cannot be opened that has to be, and otherwise it fails; then the file
is left as it was.  If the file is also found under the path of the working directory,
then it is its content that counts, and after success the defaults are loaded next.
-/
theorem init_force_overwrites_usable {m : Machine} (hm : LogsApart m) {d : Disk} (hd : d.root.Allowed)
    {content : ByteArray} (h : d.read (fileIn directoryName) = .ok content) {args : List String} {i : Invocation}
    (hargs : Invocation.ofArguments args = .ok i) (hinit : i.command = .init true) (hconfig : i.config = none) :
    let result := run m d args
    let after := Change.applyAll m result.changes d
    (result.exitCode = 0 ↔ Usable m d ∧ Writable d) ∧
    (result.exitCode = 101 ↔ LogFails m d) ∧
    (result.exitCode = 0 → after.read (fileIn directoryName) = .ok defaultText.toUTF8) ∧
    (result.exitCode ≠ 0 → (result.exitCode = 1 ∨ result.exitCode = 101) ∧
      after.read (fileIn directoryName) = .ok content) ∧
    (d.read (fileIn (directoryIn (workingPath d))) = .ok content →
      (∀ c directory, loadConfiguration d none = .ok (c, directory) ↔
        Describes content c ∧ directory = some (directoryIn (workingPath d))) ∧
      (result.exitCode = 0 → loadConfiguration after none = .ok (.standard, some (directoryIn (workingPath d))))) := by
  intro result after
  have hending : Ending m d result := run_ending hm h hargs hinit hconfig
  obtain ⟨entries, hhere⟩ := directory_of_read_ownFile h
  have hnames := Entry.Names.of_at? hd hhere
  refine ⟨hending.exitCode_eq_zero_iff, hending.exitCode_eq_crash_iff, fun hzero => ?_, fun hne => ?_, fun hseen => ?_⟩
  · obtain ⟨place, hreach, hrefused⟩ := read_eq_ok h
    exact (hending.read_default hzero hreach hreach hrefused).2
  · obtain ⟨hcode, hgrows⟩ := hending.grows hne
    exact ⟨hcode, hgrows.read h⟩
  · exact ⟨fun c directory => loadConfiguration_own hseen,
      fun hzero => hending.loads_default hzero hnames hhere hseen⟩

/-- A disk whose working directory has a configuration with the given bytes. -/
def configured (content : ByteArray) : Disk :=
  { holding [(directoryName, .directory [(fileName, .file content)])] with workingDirectory := [bytes "repo"] }

theorem configured_allowed (content : ByteArray) : (configured content).root.Allowed := by
  have hnames : AllowedName directoryName ∧ AllowedName fileName := by decide
  refine holding_allowed ?_
  simp [hnames]

/-- The configuration is found under the path of the working directory. -/
theorem configured_reach (content : ByteArray) : (configured content).reach (fileIn (ownDirectory (configured content))) =
    .ok ([bytes "repo", directoryName, fileName], .file content) := by
  have hpath : fileIn (ownDirectory (configured content)) = bytes "/repo/.strata/config.toml" := by
    show fileIn (directoryIn (slash :: ofNames [bytes "repo"])) = _
    decide +kernel
  have hnames : ∀ n ∈ [bytes "repo", directoryName, fileName], AllowedName n := by decide
  have hat : (configured content).root.at? [bytes "repo", directoryName, fileName] = some (.file content) := by
    simp [configured, holding, Entry.at?, Entry.child?]
  have hempty : (bytes "/repo/.strata/config.toml").isEmpty = false := by decide
  have hlength : ¬maxPath < (bytes "/repo/.strata/config.toml").length := by decide
  have hstart : (configured content).start (bytes "/repo/.strata/config.toml") = [] := by
    unfold start
    rw [if_pos (by decide +kernel)]
  have hsteps : steps (bytes "/repo/.strata/config.toml") = [bytes "repo", directoryName, fileName] := by
    decide +kernel
  have hwants : wantsDirectory (bytes "/repo/.strata/config.toml") = false := by decide
  rw [hpath]
  refine reach_eq_ok_iff.mpr ⟨?_, hat, fun hw => ?_⟩
  · unfold locate
    rw [hempty, if_neg hlength, hstart, hsteps]
    exact follow_names (fun _ _ => rfl) (Entry.file_ne_link content) rfl hnames hat
  · rw [hwants] at hw
    cases hw

theorem configured_read (content : ByteArray) :
    (configured content).read (fileIn (ownDirectory (configured content))) = .ok content :=
  read_of_reach (configured_reach content) rfl

theorem configured_reach_own (content : ByteArray) : (configured content).reach ownFile =
    .ok ([bytes "repo", directoryName, fileName], .file content) := by
  have hnames : ∀ n ∈ [bytes "repo"], AllowedName n := by decide
  have hhere : (configured content).root.at? [bytes "repo"] =
      some (.directory [(directoryName, .directory [(fileName, .file content)])]) := by
    simp [configured, holding, Entry.at?, Entry.child?]
  exact reach_own hnames hhere (configured_reach content)

theorem configured_read_own (content : ByteArray) : (configured content).read ownFile = .ok content :=
  read_of_reach (configured_reach_own content) rfl

theorem configured_writable (content : ByteArray) : Writable (configured content) :=
  ⟨_, (write_eq_ok_iff (configured_reach_own content)).mpr ⟨rfl, rfl⟩⟩

/-- A log for which there is no file leaves all files alone. -/
theorem ready_logsApart : LogsApart .ready := by
  intro d directory opened h
  cases h
  exact .refl d

theorem ready_logOpens (d : Disk) (directory : Option Bytes) : LogOpens .ready d directory :=
  fun _ made _ _ => ⟨made, rfl⟩

/-- A configuration of one thread, with a log. -/
def oneThread : String := "[analysis]\nthreads = 1\n[logging]\ndirectory = \"logs\"\n"

theorem init_force_overwrites_one_thread :
    let d := configured oneThread.toUTF8
    let result := run .ready d ["init", "--force"]
    let after := Change.applyAll .ready result.changes d
    Invocation.ofArguments ["init", "--force"] = .ok ⟨none, false, .init true⟩ ∧
      d.read (fileIn directoryName) = .ok oneThread.toUTF8 ∧ Usable .ready d ∧ Writable d ∧
      result.exitCode = 0 ∧ after.read (fileIn directoryName) = .ok defaultText.toUTF8 ∧
      loadConfiguration after none = .ok (.standard, some (directoryIn (workingPath d))) := by
  intro d result after
  have hargs : Invocation.ofArguments ["init", "--force"] = .ok ⟨none, false, .init true⟩ := by rfl
  have hread : d.read (fileIn directoryName) = .ok oneThread.toUTF8 := configured_read_own _
  have hwritable : Writable d := configured_writable _
  obtain ⟨hcode, -, hdefault, -, hseen⟩ :=
    init_force_overwrites_usable ready_logsApart (configured_allowed oneThread.toUTF8) hread hargs rfl rfl
  obtain ⟨hcounts, hnext⟩ := hseen (configured_read _)
  have hdescribes : Describes oneThread.toUTF8
      { Configuration.standard with threads := 1, logDirectory := some "logs" } :=
    ⟨oneThread, fromUTF8?_toUTF8 _, by decide +kernel⟩
  have husable : Usable .ready d :=
    ⟨_, _, (hcounts _ _).mpr ⟨hdescribes, rfl⟩, ready_logOpens _ _, by decide +kernel⟩
  have hzero := hcode.mpr ⟨husable, hwritable⟩
  exact ⟨hargs, hread, husable, hwritable, hzero, hdefault hzero, hnext hzero⟩

/-- **A malformed configuration is not repaired**: the command fails and the file stays malformed. -/
theorem init_force_leaves_malformed :
    let d := configured "[".toUTF8
    let result := run .ready d ["init", "--force"]
    result.exitCode = 1 ∧
      (Change.applyAll .ready result.changes d).read (fileIn directoryName) = .ok "[".toUTF8 ∧
      "[".toUTF8 ≠ defaultText.toUTF8 := by
  intro d result
  have hargs : Invocation.ofArguments ["init", "--force"] = .ok ⟨none, false, .init true⟩ := by rfl
  have hmalformed : Configuration.ofString? "[" = none := by decide
  have hnothing : ∀ c, ¬Describes "[".toUTF8 c := by
    rintro c ⟨text, htext, hc⟩
    rw [fromUTF8?_toUTF8, Option.some.injEq] at htext
    rw [← htext, hmalformed] at hc
    cases hc
  have hread : d.read ownFile = .ok "[".toUTF8 := configured_read_own _
  have hending : Ending .ready d result := run_ending ready_logsApart hread hargs rfl rfl
  have hne : result.exitCode ≠ 0 := by
    intro hzero
    obtain ⟨⟨c, directory, hload, -, -⟩, -⟩ := hending.exitCode_eq_zero_iff.mp hzero
    exact hnothing c ((loadConfiguration_own (configured_read _)).mp hload).1
  have hnocrash : result.exitCode ≠ 101 := by
    intro hcrash
    obtain ⟨c, directory, -, hfails⟩ := hending.exitCode_eq_crash_iff.mp hcrash
    exact hfails (ready_logOpens _ _)
  obtain ⟨hcode, hgrows⟩ := hending.grows hne
  exact ⟨hcode.resolve_right hnocrash, hgrows.read hread, fun heq => hnothing .standard (heq ▸ describes_defaultText)⟩

end CodeAtlas.Command

/-
The nearest configuration counts.

A configuration is looked for in a directory and in those around it, as far as the path
of the directory tells.  Each parent has a shorter path, so there are only so many of
them, and they end at the root or, for a relative path, at the working directory.  The
search goes up one parent at a time (`find_here`, `find_above`, `find_nowhere`) and
stops at the first that has a file.  What is in that file decides alone: if it cannot
be read or is malformed, no directory farther up is asked.
-/
import CodeAtlas.Proofs.Disk.Change
import CodeAtlas.Proofs.Settings.Loading
import Mathlib.Data.List.DropRight

namespace CodeAtlas.Path

open CodeAtlas.Text

/-! ### Parents -/

theorem getLast?_trimTail (bs : Bytes) : (trimTail bs).getLast? = bs.getLast? := by
  fun_induction trimTail bs with
  | case1 => rfl
  | case2 rest hrest ih =>
      have hne : rest ≠ [] := by simpa using hrest
      rw [ih, List.getLast?_cons_of_ne_nil hne]
  | case3 rest hrest =>
      have hnil : rest = [] := by simpa using hrest
      rw [hnil]
      rfl
  | case4 rest hrest ih => rw [ih, List.getLast?_cons_cons]
  | case5 bs => rfl

theorem steps_trimTail (bs : Bytes) : steps (trimTail bs).reverse = steps bs.reverse := by
  have hslash : ∀ rest : Bytes, steps (slash :: rest).reverse = steps rest.reverse := by
    intro rest
    have hnone : steps [] = [] := rfl
    rw [List.reverse_cons, steps_append, hnone, List.append_nil]
  have hpoint : ∀ rest : Bytes, steps (point :: slash :: rest).reverse = steps rest.reverse := by
    intro rest
    have hnone : steps [point] = [] := by decide
    rw [List.reverse_cons, List.reverse_cons, List.append_assoc, List.singleton_append, steps_append, hnone,
      List.append_nil]
  fun_induction trimTail bs with
  | case1 => rfl
  | case2 rest hrest ih => exact ih.trans (hslash rest).symm
  | case3 rest hrest =>
      have hnil : rest = [] := by simpa using hrest
      rw [hnil]
      decide
  | case4 rest hrest ih => exact ih.trans ((hslash rest).trans (hpoint rest).symm)
  | case5 bs => rfl

theorem isAbsolute_eq (path : Bytes) : isAbsolute path = (path.reverse.getLast? == some slash) := by
  unfold isAbsolute
  rw [List.getLast?_reverse]

theorem getLast?_dropWhile_slash (bs : Bytes) :
    ((bs.dropWhile (· != slash)).getLast? == some slash) = (bs.getLast? == some slash) := by
  by_cases hslash : slash ∈ bs
  · have hne : bs.dropWhile (· != slash) ≠ [] := by
      intro hnil
      simpa using List.dropWhile_eq_nil_iff.mp hnil slash hslash
    conv => rhs; rw [← List.takeWhile_append_dropWhile (p := (· != slash)) (l := bs)]
    rw [List.getLast?_append_of_ne_nil _ hne]
  · have hnil : bs.dropWhile (· != slash) = [] := by
      rw [List.dropWhile_eq_nil_iff]
      intro b hb
      have hne : b ≠ slash := fun heq => hslash (heq ▸ hb)
      simpa using hne
    have hlast : bs.getLast? ≠ some slash := fun heq => hslash (List.mem_of_getLast? heq)
    rw [hnil, beq_false_of_ne hlast]
    rfl

/-- A path and its parent begin both at the root or both not. -/
theorem isAbsolute_parent? {path parent : Bytes} (h : parent? path = some parent) :
    isAbsolute parent = isAbsolute path := by
  have hparent : parent = (trimTail ((trimTail path.reverse).dropWhile (· != slash))).reverse := by
    unfold parent? at h
    split at h
    · cases h
    · cases h
    · simpa using h.symm
  rw [isAbsolute_eq path, ← getLast?_trimTail, isAbsolute_eq parent, hparent, List.reverse_reverse, getLast?_trimTail]
  exact getLast?_dropWhile_slash _

/-- Only the root and the empty path have no parent. -/
theorem eq_of_parent?_none {path : Bytes} (h : parent? path = none) :
    path = [] ∨ isAbsolute path = true ∧ steps path = [] := by
  unfold parent? at h
  split at h
  · next hnil =>
    have hlast := getLast?_trimTail path.reverse
    rw [hnil, List.getLast?_nil, eq_comm, List.getLast?_eq_none_iff, List.reverse_eq_nil_iff] at hlast
    exact Or.inl hlast
  · next hroot =>
    refine Or.inr ⟨?_, ?_⟩
    · rw [isAbsolute_eq, ← getLast?_trimTail, hroot]
      rfl
    · have hsteps := steps_trimTail path.reverse
      rw [hroot, List.reverse_reverse] at hsteps
      rw [← hsteps]
      decide
  · cases h

end CodeAtlas.Path

namespace CodeAtlas.Settings

open CodeAtlas.Disk
open CodeAtlas.Path
open CodeAtlas.Text

/-! ### The directories that are asked -/

/-- The directory that is left after going up `n` times. -/
def above? : Nat → Bytes → Option Bytes
  | 0, path => some path
  | n + 1, path => (parent? path).bind (above? n)

theorem above?_succ {path parent : Bytes} (h : parent? path = some parent) (n : Nat) :
    above? (n + 1) path = above? n parent := by
  rw [above?, h, Option.bind_some]

theorem parent?_of_above? : ∀ (n : Nat) {path last : Bytes}, above? n path = some last →
    above? (n + 1) path = parent? last := by
  intro n
  induction n with
  | zero =>
      intro path last h
      cases h
      rw [above?]
      cases parent? path with
      | none => rfl
      | some parent => rfl
  | succ n ih =>
      intro path last h
      obtain ⟨parent, hparent, hlast⟩ := Option.bind_eq_some_iff.mp h
      rw [above?_succ hparent, ih hlast]

/-- Going up comes to an end after at most as many steps as the path has bytes. -/
theorem exists_last (path : Bytes) : ∃ n ≤ path.length, ∃ last,
    above? n path = some last ∧ parent? last = none ∧ isAbsolute last = isAbsolute path := by
  induction hlength : path.length using Nat.strong_induction_on generalizing path with
  | _ length ih =>
      cases hparent : parent? path with
      | none => exact ⟨0, Nat.zero_le _, path, rfl, hparent, rfl⟩
      | some parent =>
          have hlt := length_lt_of_parent? hparent
          obtain ⟨n, hn, last, habove, hlast, habsolute⟩ := ih parent.length (by omega) parent rfl
          refine ⟨n + 1, by omega, last, ?_, hlast, ?_⟩
          · rw [above?_succ hparent, habove]
          · rw [habsolute, isAbsolute_parent? hparent]

/-! ### The search -/

/-- There is a configuration in a directory. -/
def HasConfiguration (d : Disk) (directory : Bytes) : Prop :=
  d.pathExists (fileIn (directoryIn directory)) = true

/-- A directory has a configuration, and no directory that comes before it on the way up from `start` has one. -/
def IsNearest (d : Disk) (start directory : Bytes) : Prop :=
  ∃ n, above? n start = some directory ∧ HasConfiguration d directory ∧
    ∀ m < n, ∀ near, above? m start = some near → ¬HasConfiguration d near

section

variable {d : Disk} {start : Bytes}

theorem ancestors_of_parent? {parent : Bytes} (h : parent? start = some parent) :
    ancestors start = start :: ancestors parent := by
  rw [ancestors]
  split
  · next hnone => rw [h] at hnone; cases hnone
  · next other hother => rw [h] at hother; cases hother; rfl

theorem ancestors_of_no_parent (h : parent? start = none) : ancestors start = [start] := by
  rw [ancestors]
  split
  · rfl
  · next other hother => rw [h] at hother; cases hother

/-- A configuration in the directory itself is loaded. -/
theorem find_here (h : HasConfiguration d start) :
    find d start = (load d (fileIn (directoryIn start))).map fun c => some (c, directoryIn start) := by
  obtain ⟨rest, hrest⟩ : ∃ rest, ancestors start = start :: rest := by
    cases hparent : parent? start with
    | none => exact ⟨[], ancestors_of_no_parent hparent⟩
    | some parent => exact ⟨_, ancestors_of_parent? hparent⟩
  unfold find
  rw [hrest, List.map_cons, List.find?_cons_of_pos (p := fun dir => d.pathExists (fileIn dir)) h]

/-- Without one, the search goes on in the parent. -/
theorem find_above (h : ¬HasConfiguration d start) {parent : Bytes} (hparent : parent? start = some parent) :
    find d start = find d parent := by
  unfold find
  rw [ancestors_of_parent? hparent, List.map_cons,
    List.find?_cons_of_neg (p := fun dir => d.pathExists (fileIn dir)) h]

theorem find_nowhere (h : ¬HasConfiguration d start) (hparent : parent? start = none) : find d start = .ok none := by
  unfold find
  rw [ancestors_of_no_parent hparent, List.map_cons,
    List.find?_cons_of_neg (p := fun dir => d.pathExists (fileIn dir)) h]
  rfl

/-- **The nearest configuration is loaded**, and nothing beyond it matters. -/
theorem find_of_isNearest {directory : Bytes} (h : IsNearest d start directory) :
    find d start = (load d (fileIn (directoryIn directory))).map fun c => some (c, directoryIn directory) := by
  obtain ⟨n, habove, hhas, hnearer⟩ := h
  induction n generalizing start with
  | zero =>
      cases habove
      exact find_here hhas
  | succ n ih =>
      obtain ⟨parent, hparent, hdirectory⟩ := Option.bind_eq_some_iff.mp habove
      rw [find_above (hnearer 0 (Nat.succ_pos n) start rfl) hparent]
      refine ih hdirectory fun m hm near hnear => hnearer (m + 1) (Nat.succ_lt_succ hm) near ?_
      rw [above?_succ hparent, hnear]

theorem find_of_none (h : ∀ n directory, above? n start = some directory → ¬HasConfiguration d directory) :
    find d start = .ok none := by
  induction hlength : start.length using Nat.strong_induction_on generalizing start with
  | _ length ih =>
      cases hparent : parent? start with
      | none => exact find_nowhere (h 0 start rfl) hparent
      | some parent =>
          have hlt := length_lt_of_parent? hparent
          rw [find_above (h 0 start rfl) hparent]
          refine ih parent.length (by omega) (fun n directory hn => h (n + 1) directory ?_) rfl
          rw [above?_succ hparent, hn]

/-- If there is a configuration on the way up, one of them is the nearest. -/
theorem exists_isNearest {n : Nat} {directory : Bytes} (habove : above? n start = some directory)
    (hhas : HasConfiguration d directory) : ∃ nearest, IsNearest d start nearest := by
  induction n using Nat.strong_induction_on generalizing directory with
  | _ n ih =>
      by_cases hnearer : ∀ m < n, ∀ near, above? m start = some near → ¬HasConfiguration d near
      · exact ⟨directory, n, habove, hhas, hnearer⟩
      · push Not at hnearer
        obtain ⟨m, hm, near, hnear, hnearHas⟩ := hnearer
        exact ih m hm hnear hnearHas

/-- Either there is no configuration, or the nearest one is loaded, or it is the one that cannot be loaded. -/
theorem find_cases (d : Disk) (start : Bytes) :
    ((∀ n directory, above? n start = some directory → ¬HasConfiguration d directory) ∧ find d start = .ok none) ∨
      (∃ nearest c, IsNearest d start nearest ∧ load d (fileIn (directoryIn nearest)) = .ok c ∧
        find d start = .ok (some (c, directoryIn nearest))) ∨
      ∃ nearest e, IsNearest d start nearest ∧ load d (fileIn (directoryIn nearest)) = .error e ∧
        find d start = .error e := by
  by_cases h : ∀ n directory, above? n start = some directory → ¬HasConfiguration d directory
  · exact Or.inl ⟨h, find_of_none h⟩
  · push Not at h
    obtain ⟨n, directory, habove, hhas⟩ := h
    obtain ⟨nearest, hnearest⟩ := exists_isNearest habove hhas
    have hfind := find_of_isNearest hnearest
    cases hload : load d (fileIn (directoryIn nearest)) with
    | ok c =>
        rw [hload] at hfind
        exact Or.inr (Or.inl ⟨nearest, c, hnearest, hload, hfind⟩)
    | error e =>
        rw [hload] at hfind
        exact Or.inr (Or.inr ⟨nearest, e, hnearest, hload, hfind⟩)

end

/-! ### What comes of it -/

section

variable {d : Disk} {start : Bytes}

theorem find_eq_none_iff : find d start = .ok none ↔
    ∀ n directory, above? n start = some directory → ¬HasConfiguration d directory := by
  refine ⟨fun h => ?_, find_of_none⟩
  rcases find_cases d start with ⟨hnone, -⟩ | ⟨nearest, c, -, -, hfind⟩ | ⟨nearest, e, -, -, hfind⟩
  · exact hnone
  · rw [h] at hfind; cases hfind
  · rw [h] at hfind; cases hfind

theorem find_eq_some_iff {c : Configuration} {directory : Bytes} : find d start = .ok (some (c, directory)) ↔
    ∃ nearest, IsNearest d start nearest ∧ directory = directoryIn nearest ∧ load d (fileIn directory) = .ok c := by
  constructor
  · intro h
    rcases find_cases d start with ⟨-, hfind⟩ | ⟨nearest, c', hnearest, hload, hfind⟩ | ⟨nearest, e, -, -, hfind⟩
    · rw [h] at hfind; cases hfind
    · rw [h] at hfind
      cases hfind
      exact ⟨nearest, hnearest, rfl, hload⟩
    · rw [h] at hfind; cases hfind
  · rintro ⟨nearest, hnearest, rfl, hload⟩
    rw [find_of_isNearest hnearest, hload]
    rfl

theorem find_eq_error_iff {e : LoadError} : find d start = .error e ↔
    ∃ nearest, IsNearest d start nearest ∧ load d (fileIn (directoryIn nearest)) = .error e := by
  constructor
  · intro h
    rcases find_cases d start with ⟨-, hfind⟩ | ⟨nearest, c, -, -, hfind⟩ | ⟨nearest, e', hnearest, hload, hfind⟩
    · rw [h] at hfind; cases hfind
    · rw [h] at hfind; cases hfind
    · rw [h] at hfind
      cases hfind
      exact ⟨nearest, hnearest, hload⟩
  · rintro ⟨nearest, hnearest, hload⟩
    rw [find_of_isNearest hnearest, hload]
    rfl

end

/-- **The nearest configuration counts.**  Going up from a directory ends at the root or at the working directory; if
no directory on the way has a configuration there is none, and otherwise the nearest one is loaded or the search
fails as it does. -/
theorem find_nearest (d : Disk) (start : Bytes) :
    (∃ n ≤ start.length, ∃ last, above? n start = some last ∧ above? (n + 1) start = none ∧
      if isAbsolute start then isAbsolute last = true ∧ steps last = [] else last = []) ∧
    (find d start = .ok none ↔ ∀ n directory, above? n start = some directory → ¬HasConfiguration d directory) ∧
    (∀ c directory, find d start = .ok (some (c, directory)) ↔
      ∃ nearest, IsNearest d start nearest ∧ directory = directoryIn nearest ∧
        ∃ text, d.readText (fileIn directory) = .ok text ∧ Configuration.ofString? text = some c) ∧
    ∀ e, find d start = .error e ↔
      ∃ nearest, IsNearest d start nearest ∧ e.Of d (fileIn (directoryIn nearest)) := by
  refine ⟨?_, find_eq_none_iff, fun c directory => ?_, fun e => ?_⟩
  · obtain ⟨n, hn, last, habove, hlast, habsolute⟩ := exists_last start
    refine ⟨n, hn, last, habove, by rw [parent?_of_above? n habove, hlast], ?_⟩
    rw [← habsolute]
    rcases eq_of_parent?_none hlast with hempty | hroot
    · rw [hempty]
      decide
    · rw [if_pos hroot.1]
      exact hroot
  · simp only [find_eq_some_iff, load_eq_ok_iff]
  · simp only [find_eq_error_iff, load_eq_error_iff]

/-- A directory whose configuration can be loaded, around one whose configuration is malformed. -/
def shadowed : List (Bytes × Entry) :=
  [(directoryName, .directory [(fileName, .file "".toUTF8)]),
    (bytes "src", .directory [(directoryName, .directory [(fileName, .file "[".toUTF8)])])]

theorem shadowed_allowed : (Entry.directory shadowed).Allowed := by
  have hallowed : AllowedName directoryName ∧ AllowedName fileName ∧ AllowedName (bytes "src") := by decide
  simp [shadowed, hallowed]

/-- A malformed configuration is not passed over for the one around it. -/
theorem find_fails_below_loadable :
    above? 1 (bytes "repo/src") = some (bytes "repo") ∧
      load (holding shadowed) (fileIn (directoryIn (bytes "repo"))) = .ok .standard ∧
      find (holding shadowed) (bytes "repo/src") = .error (.malformed (fileIn (directoryIn (bytes "repo/src")))) := by
  have hparent : above? 1 (bytes "repo/src") = some (bytes "repo") := by decide +kernel
  have hinner : fileIn (directoryIn (bytes "repo/src")) =
      below (bytes "repo") [bytes "src", directoryName, fileName] := by
    decide +kernel
  have houter : fileIn (directoryIn (bytes "repo")) = below (bytes "repo") [directoryName, fileName] := rfl
  have hreadOuter : (holding shadowed).read (fileIn (directoryIn (bytes "repo"))) = .ok "".toUTF8 := by
    rw [houter]
    exact holding_read shadowed_allowed rfl (by simp) (by decide +kernel)
  have hreadInner : (holding shadowed).read (fileIn (directoryIn (bytes "repo/src"))) = .ok "[".toUTF8 := by
    rw [hinner]
    exact holding_read shadowed_allowed rfl (by simp) (by decide +kernel)
  have hstandard : Configuration.ofString? "" = some .standard := by decide +kernel
  have hnearest : IsNearest (holding shadowed) (bytes "repo/src") (bytes "repo/src") :=
    ⟨0, rfl, pathExists_of_read hreadInner, fun m hm => absurd hm (Nat.not_lt_zero m)⟩
  have hmalformed : Configuration.ofString? "[" = none := by decide +kernel
  obtain ⟨-, -, -, herror⟩ := find_nearest (holding shadowed) (bytes "repo/src")
  exact ⟨hparent, load_eq_ok_iff.mpr ⟨"", readText_of_read hreadOuter, hstandard⟩, (herror _).mpr
    ⟨bytes "repo/src", hnearest, Or.inr ⟨"[", readText_of_read hreadInner, hmalformed, rfl⟩⟩⟩

end CodeAtlas.Settings

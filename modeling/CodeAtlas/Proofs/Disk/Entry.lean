/-
Disks as file systems have them.

An entry is a tree, and its directories are lists of names with entries.  Two things
are true of every file system and not of every such list: no name is empty, a single
point, two points, too long or has a slash in it, and no directory holds one name
twice.  Both are kept on the way down from the root, so they hold of whatever a path
leads to.

Names are bytes, and what is shown of them are texts.  Names that are texts are shown
as they are.  Of other names two can look alike, so that the names in a directory are
`ShownApart` is something that a disk may or may not have.
-/
import CodeAtlas.Disk.Basic
import CodeAtlas.Proofs.Lists
import CodeAtlas.Proofs.Text.Shown

namespace CodeAtlas.Disk

open CodeAtlas.Path (point slash toParent)
open CodeAtlas.Text

/-- **Induction over entries**: what holds of a directory whenever it holds of all that stands in it, holds of every
entry. -/
theorem Entry.induction {P : Entry → Prop} (file : ∀ content, P (.file content)) (link : ∀ target, P (.link target))
    (directory : ∀ entries : List (Bytes × Entry), (∀ q ∈ entries, P q.2) → P (.directory entries)) :
    ∀ e : Entry, P e
  | .file content => file content
  | .link target => link target
  | .directory entries => directory entries fun q _ => Entry.induction file link directory q.2
decreasing_by
  rename_i hq
  have hlt := List.sizeOf_lt_of_mem hq
  obtain ⟨name, e⟩ := q
  simp only [Prod.mk.sizeOf_spec, Entry.directory.sizeOf_spec] at hlt ⊢
  omega

/-- What going down to a child keeps holds of everything below. -/
theorem Entry.at?_induction {P : Entry → Prop}
    (hchild : ∀ {e child : Entry} {name : Bytes}, P e → e.child? name = some child → P child) :
    ∀ {names : List Bytes} {e found : Entry}, P e → e.at? names = some found → P found := by
  intro names
  induction names with
  | nil =>
      intro e found h hat
      cases hat
      exact h
  | cons name rest ih =>
      intro e found h hat
      obtain ⟨child, hname, hrest⟩ := Option.bind_eq_some_iff.mp hat
      exact ih (hchild h hname) hrest

/-! ### Names -/

/-- All names below an entry have a property. -/
inductive Entry.Names (P : Bytes → Prop) : Entry → Prop
  | file {content : ByteArray} : Names P (.file content)
  | link {target : Bytes} : Names P (.link target)
  | directory {entries : List (Bytes × Entry)} (names : ∀ q ∈ entries, P q.1)
      (below : ∀ q ∈ entries, Names P q.2) : Names P (.directory entries)

section

variable {P : Bytes → Prop}

@[simp] theorem Entry.names_file (content : ByteArray) : (Entry.file content).Names P :=
  .file

@[simp] theorem Entry.names_link (target : Bytes) : (Entry.link target).Names P :=
  .link

@[simp] theorem Entry.names_directory {entries : List (Bytes × Entry)} :
    (Entry.directory entries).Names P ↔ ∀ q ∈ entries, P q.1 ∧ q.2.Names P := by
  constructor
  · intro h q hq
    cases h with
    | directory names below => exact ⟨names q hq, below q hq⟩
  · intro h
    exact .directory (fun q hq => (h q hq).1) (fun q hq => (h q hq).2)

theorem Entry.Names.child {e child : Entry} {name : Bytes} (h : e.Names P) (hchild : e.child? name = some child) :
    P name ∧ child.Names P := by
  cases h with
  | file => cases hchild
  | link => cases hchild
  | directory names below =>
      obtain ⟨before, after, rfl, -⟩ := List.lookup_eq_some_iff.mp hchild
      exact ⟨names (name, child) (by simp), below (name, child) (by simp)⟩

/-- The names on the way to an entry have it too. -/
theorem Entry.Names.of_at? {found : Entry} : ∀ {names : List Bytes} {e : Entry}, e.Names P →
    e.at? names = some found → ∀ n ∈ names, P n := by
  intro names
  induction names with
  | nil => intro e _ _ n hn; cases hn
  | cons name rest ih =>
      intro e h hat n hn
      obtain ⟨child, hchild, hrest⟩ := Option.bind_eq_some_iff.mp hat
      rcases List.mem_cons.mp hn with rfl | hn
      · exact (h.child hchild).1
      · exact ih (h.child hchild).2 hrest n hn

end

/-- A segment of a path that stands for a name. -/
structure ProperName (name : Bytes) : Prop where
  ne_nil : name ≠ []
  ne_point : name ≠ [point]
  ne_toParent : name ≠ toParent
  slash_not_mem : slash ∉ name

/-- A name that a file system allows for an entry. -/
def AllowedName (name : Bytes) : Prop :=
  name ≠ [] ∧ name ≠ [point] ∧ name ≠ toParent ∧ slash ∉ name ∧ name.length ≤ maxName

theorem AllowedName.proper {name : Bytes} (h : AllowedName name) : ProperName name :=
  ⟨h.1, h.2.1, h.2.2.1, h.2.2.2.1⟩

instance (name : Bytes) : Decidable (AllowedName name) :=
  inferInstanceAs (Decidable (_ ∧ _))

/-- All names below an entry are allowed. -/
abbrev Entry.Allowed (e : Entry) : Prop :=
  e.Names AllowedName

/-- All names below an entry are texts. -/
abbrev Entry.Texts (e : Entry) : Prop :=
  e.Names IsText

/-! ### Names next to each other -/

/-- The entries of every directory below an entry can be told apart by what `key` tells of their names. -/
inductive Entry.ApartBy {α : Type} (key : Bytes → α) : Entry → Prop
  | file {content : ByteArray} : ApartBy key (.file content)
  | link {target : Bytes} : ApartBy key (.link target)
  | directory {entries : List (Bytes × Entry)} (names : (entries.map fun q => key q.1).Nodup)
      (below : ∀ q ∈ entries, ApartBy key q.2) : ApartBy key (.directory entries)

section

variable {α : Type} {key : Bytes → α}

@[simp] theorem Entry.apartBy_file (content : ByteArray) : (Entry.file content).ApartBy key :=
  .file

@[simp] theorem Entry.apartBy_link (target : Bytes) : (Entry.link target).ApartBy key :=
  .link

@[simp] theorem Entry.apartBy_directory {entries : List (Bytes × Entry)} :
    (Entry.directory entries).ApartBy key ↔
      (entries.map fun q => key q.1).Nodup ∧ ∀ q ∈ entries, q.2.ApartBy key := by
  constructor
  · intro h
    cases h with
    | directory names below => exact ⟨names, below⟩
  · rintro ⟨names, below⟩
    exact .directory names below

theorem Entry.ApartBy.child {e child : Entry} {name : Bytes} (h : e.ApartBy key)
    (hchild : e.child? name = some child) : child.ApartBy key := by
  cases h with
  | file => cases hchild
  | link => cases hchild
  | directory names below =>
      obtain ⟨before, after, rfl, -⟩ := List.lookup_eq_some_iff.mp hchild
      exact below (name, child) (by simp)

end

/-- No directory below an entry holds two entries of one name. -/
abbrev Entry.Distinct (e : Entry) : Prop :=
  e.ApartBy id

/-- No directory below an entry holds two entries whose names are shown as one text. -/
abbrev Entry.ShownApart (e : Entry) : Prop :=
  e.ApartBy ofBytes

/-- **Names that are texts are shown apart.** -/
theorem Entry.Distinct.shownApart {e : Entry} (h : e.Distinct) (htexts : e.Texts) : e.ShownApart := by
  induction e using Entry.induction with
  | file content => exact .file
  | link target => exact .link
  | directory entries ih =>
      obtain ⟨hnodup, hbelow⟩ := Entry.apartBy_directory.mp h
      have htexts := Entry.names_directory.mp htexts
      have hbytes : entries.map (fun q => id q.1) = (entries.map fun q => ofBytes q.1).map bytes := by
        rw [List.map_map]
        exact List.map_congr_left fun q hq => (htexts q hq).1.symm
      rw [hbytes] at hnodup
      have hshown := List.Pairwise.of_map bytes (fun _ _ hne heq => hne (congrArg bytes heq)) hnodup
      exact .directory hshown fun q hq => ih q hq (hbelow q hq) (htexts q hq).2

/-! ### What a path leads to -/

/-- What a path leads to stands at a place below the root, and is a directory if the path wants one. -/
theorem reach_eq_ok_iff {d : Disk} {path : Bytes} {place : List Bytes} {e : Entry} :
    d.reach path = .ok (place, e) ↔ d.locate path = .ok place ∧ d.root.at? place = some e ∧
      (wantsDirectory path = true → e.isDirectory = true) := by
  constructor
  · intro h
    unfold reach at h
    split at h
    · cases h
    · next hlocate =>
      split at h
      · cases h
      · next hat =>
        split at h
        · cases h
        · next hwants =>
          cases h
          exact ⟨hlocate, hat, by simpa using hwants⟩
  · rintro ⟨hlocate, hat, hwants⟩
    unfold reach
    simp only [hlocate, hat]
    rw [if_neg (by simpa using hwants)]

theorem reach_eq_ok {d : Disk} {path : Bytes} {place : List Bytes} {e : Entry} (h : d.reach path = .ok (place, e)) :
    d.locate path = .ok place ∧ d.root.at? place = some e :=
  ⟨(reach_eq_ok_iff.mp h).1, (reach_eq_ok_iff.mp h).2.1⟩

theorem names_of_reach {P : Bytes → Prop} {d : Disk} {path : Bytes} {place : List Bytes} {e : Entry}
    (h : d.root.Names P) (hreach : d.reach path = .ok (place, e)) : e.Names P :=
  Entry.at?_induction (fun h hchild => (h.child hchild).2) h (reach_eq_ok hreach).2

theorem apartBy_of_reach {α : Type} {key : Bytes → α} {d : Disk} {path : Bytes} {place : List Bytes} {e : Entry}
    (h : d.root.ApartBy key) (hreach : d.reach path = .ok (place, e)) : e.ApartBy key :=
  Entry.at?_induction (fun h => h.child) h (reach_eq_ok hreach).2

theorem list_eq_ok {d : Disk} {path : Bytes} {entries : List (Bytes × Entry)} (h : d.list path = .ok entries) :
    ∃ place, d.reach path = .ok (place, .directory entries) ∧ d.refusal .list place = none := by
  unfold list at h
  split at h
  · cases h
  · next place e hreach =>
    split at h
    · cases h
    · next hrefusal =>
      cases h
      exact ⟨place, hreach, hrefusal⟩
    · cases h

theorem read_eq_ok {d : Disk} {path : Bytes} {content : ByteArray} (h : d.read path = .ok content) :
    ∃ place, d.reach path = .ok (place, .file content) ∧ d.refusal .read place = none := by
  unfold read at h
  split at h
  · cases h
  · next place e hreach =>
    split at h
    · cases h
    · next hrefusal =>
      cases h
      exact ⟨place, hreach, hrefusal⟩
    · cases h

/-! ### Disks with a single directory -/

/-- A disk with one directory, which holds the given entries, and which refuses nothing. -/
def holding (entries : List (Bytes × Entry)) : Disk where
  root := .directory [(bytes "repo", .directory entries)]
  workingDirectory := []

theorem holding_allowed {entries : List (Bytes × Entry)} (h : (Entry.directory entries).Allowed) :
    (holding entries).root.Allowed := by
  have hname : AllowedName (bytes "repo") := by decide
  exact .directory (List.forall_mem_singleton.mpr hname) (List.forall_mem_singleton.mpr h)

theorem holding_apartBy {α : Type} {key : Bytes → α} {entries : List (Bytes × Entry)}
    (h : (Entry.directory entries).ApartBy key) : (holding entries).root.ApartBy key :=
  .directory (List.pairwise_singleton _ _) (List.forall_mem_singleton.mpr h)

end CodeAtlas.Disk

/-
What changes on a disk leave as it was.

Putting something at a place leaves all places alone that lie neither on the way there
nor beyond it (`at?_put_cases`).  Two changes are made in this way: a directory is put
where nothing was, and a file takes the place of another one.  Both leave every entry
with its kind, and every link with its target: that is `Keeps`.  Following a path looks
at nothing else but at what the disk refuses, which does not change, so a path that led
somewhere leads there still.
-/
import CodeAtlas.Disk.Change
import CodeAtlas.Proofs.Disk.Follow

namespace CodeAtlas.Disk

open CodeAtlas.Path
open CodeAtlas.Text

namespace Entry

/-! ### Putting something at a place -/

theorem lookup_cons_eq_if (n m : Bytes) (e : Entry) (rest : List (Bytes × Entry)) :
    ((m, e) :: rest).lookup n = if n = m then some e else rest.lookup n := by
  rw [List.lookup_cons]
  by_cases h : n = m
  · simp [h]
  · rw [if_neg h, beq_false_of_ne h]

theorem lookup_putIn (name n : Bytes) (new : Entry) (entries : List (Bytes × Entry)) :
    (putIn name new entries).lookup n = if n = name then some new else entries.lookup n := by
  induction entries with
  | nil => rw [putIn, lookup_cons_eq_if]
  | cons q rest ih =>
      obtain ⟨m, e⟩ := q
      rw [putIn]
      by_cases hm : m = name
      · rw [if_pos (by simpa using hm), lookup_cons_eq_if, lookup_cons_eq_if, hm]
        by_cases h : n = name
        · rw [if_pos h, if_pos h]
        · rw [if_neg h, if_neg h, if_neg h]
      · rw [if_neg (by simpa using hm), lookup_cons_eq_if, lookup_cons_eq_if, ih]
        by_cases h : n = m
        · rw [if_pos h, if_pos h, if_neg (h ▸ hm)]
        · rw [if_neg h, if_neg h]

theorem lookup_entries (e : Entry) (name : Bytes) : e.entries.lookup name = e.child? name := by
  cases e with
  | file content => rfl
  | directory entries => rfl
  | link target => rfl

theorem child?_put (e new : Entry) (name n : Bytes) (rest : List Bytes) :
    (e.put (name :: rest) new).child? n =
      if n = name then some (((e.child? name).getD (.directory [])).put rest new) else e.child? n := by
  rw [put, child?, lookup_putIn, lookup_entries]

/-- A place is beyond the one where something was put, on the way there, or neither. -/
theorem at?_put_cases (new : Entry) : ∀ (place p : List Bytes) (e : Entry),
    (∃ q, p = place ++ q ∧ (e.put place new).at? p = new.at? q) ∨
    (∃ q ≠ [], place = p ++ q ∧ ∃ entries, (e.put place new).at? p = some (.directory entries)) ∨
    (¬p <+: place ∧ (e.put place new).at? p = e.at? p) := by
  intro place
  induction place with
  | nil =>
      intro p e
      exact Or.inl ⟨p, rfl, by rw [put]⟩
  | cons name rest ih =>
      intro p e
      cases p with
      | nil => exact Or.inr (Or.inl ⟨name :: rest, by simp, rfl, _, by rw [put, at?]⟩)
      | cons n p =>
          rw [at?, child?_put]
          by_cases hn : n = name
          · subst hn
            rw [if_pos rfl, Option.bind_some]
            rcases ih p ((e.child? n).getD (.directory [])) with ⟨q, hq, hat⟩ | ⟨q, hne, hq, hat⟩ | ⟨happart, hat⟩
            · exact Or.inl ⟨q, by rw [hq, List.cons_append], hat⟩
            · exact Or.inr (Or.inl ⟨q, hne, by rw [hq, List.cons_append], hat⟩)
            · refine Or.inr (Or.inr ⟨by simpa using happart, ?_⟩)
              rw [hat, at?]
              cases hchild : e.child? n with
              | some child => rfl
              | none =>
                  -- Nothing was there, and nothing is in an empty directory either.
                  cases p with
                  | nil => simp at happart
                  | cons m p => rfl
          · rw [if_neg hn]
            exact Or.inr (Or.inr ⟨by simp [hn], rfl⟩)

theorem at?_put_self (e new : Entry) (place : List Bytes) : (e.put place new).at? place = some new := by
  rcases at?_put_cases new place place e with ⟨q, hq, hat⟩ | ⟨q, hne, hq, -⟩ | ⟨happart, -⟩
  · have hnil : q = [] := by simpa using hq
    rw [hat, hnil, at?]
  · exact absurd (by simpa using hq) hne
  · exact absurd List.prefix_rfl happart

/-! ### Kinds of entries -/

/-- Both are files, both are directories, or both are links to the same. -/
inductive SameKind : Entry → Entry → Prop
  | file {x y : ByteArray} : SameKind (.file x) (.file y)
  | directory {x y : List (Bytes × Entry)} : SameKind (.directory x) (.directory y)
  | link {target : Bytes} : SameKind (.link target) (.link target)

theorem SameKind.refl (e : Entry) : SameKind e e := by
  cases e with
  | file content => exact .file
  | directory entries => exact .directory
  | link target => exact .link

theorem SameKind.trans {a b c : Entry} (hab : SameKind a b) (hbc : SameKind b c) : SameKind a c := by
  cases hab with
  | file => cases hbc; exact .file
  | directory => cases hbc; exact .directory
  | link => cases hbc; exact .link

/-- Whatever stands in one tree stands in the other one too, and is of the same kind there. -/
def Keeps (a b : Entry) : Prop :=
  ∀ place e, a.at? place = some e → ∃ e', b.at? place = some e' ∧ SameKind e e'

theorem Keeps.trans {a b c : Entry} (hab : Keeps a b) (hbc : Keeps b c) : Keeps a c := by
  intro place e he
  obtain ⟨e', he', hkind⟩ := hab place e he
  obtain ⟨e'', he'', hkind'⟩ := hbc place e' he'
  exact ⟨e'', he'', hkind.trans hkind'⟩

/-- What is put at a place keeps the rest, if it keeps what stood there and does not go through anything else than
directories. -/
theorem keeps_put {e new : Entry} {place : List Bytes}
    (hway : ∀ p q, place = p ++ q → q ≠ [] → ∃ entries, e.at? p = some (.directory entries))
    (hplace : ∀ q found, e.at? (place ++ q) = some found → ∃ e', new.at? q = some e' ∧ SameKind found e') :
    Keeps e (e.put place new) := by
  intro p found hfound
  rcases at?_put_cases new place p e with ⟨q, rfl, hat⟩ | ⟨q, hne, hq, entries, hat⟩ | ⟨-, hat⟩
  · rw [hat]
    exact hplace q found hfound
  · obtain ⟨old, hold⟩ := hway p q hq hne
    rw [hfound] at hold
    cases hold
    exact ⟨_, hat, .directory⟩
  · exact ⟨found, hat.trans hfound, .refl found⟩

/-- A file can take the place of another one. -/
theorem keeps_put_file {e : Entry} {place : List Bytes} {content : ByteArray} (h : e.at? place = some (.file content))
    (new : ByteArray) : Keeps e (e.put place (.file new)) := by
  refine keeps_put (fun p q hq hne => directory_of_at?_append (hq ▸ h) hne) fun q found hfound => ?_
  rw [at?_append, h] at hfound
  cases q with
  | nil =>
      cases hfound
      exact ⟨_, rfl, .file⟩
  | cons name rest => cases hfound

end Entry

/-- Whatever stands on one disk stands on the other one too, and is of the same kind there. -/
structure Keeps (a b : Disk) : Prop where
  root : a.root.Keeps b.root
  workingDirectory : b.workingDirectory = a.workingDirectory
  refusal : b.refusal = a.refusal

/-- One disk has all that another one has, the files with the same content. -/
structure Grows (a b : Disk) : Prop extends keeps : Keeps a b where
  files : ∀ place content, a.root.at? place = some (.file content) → b.root.at? place = some (.file content)

theorem Grows.refl (d : Disk) : Grows d d where
  root _ e h := ⟨e, h, .refl e⟩
  workingDirectory := rfl
  refusal := rfl
  files _ _ h := h

theorem Grows.trans {a b c : Disk} (hab : Grows a b) (hbc : Grows b c) : Grows a c where
  root := hab.root.trans hbc.root
  workingDirectory := hbc.workingDirectory.trans hab.workingDirectory
  refusal := hbc.refusal.trans hab.refusal
  files place content h := hbc.files place content (hab.files place content h)

theorem keeps_putAt_file {d : Disk} {place : List Bytes} {content : ByteArray}
    (h : d.root.at? place = some (.file content)) (new : ByteArray) : Keeps d (d.putAt place (.file new)) :=
  ⟨Entry.keeps_put_file h new, rfl, rfl⟩

/-- A directory can be put where nothing was, in another directory. -/
theorem grows_putAt_directory {d : Disk} {here : List Bytes} {entries : List (Bytes × Entry)} {name : Bytes}
    (hhere : d.root.at? here = some (.directory entries)) (hnone : d.root.at? (here ++ [name]) = none) :
    Grows d (d.putAt (here ++ [name]) (.directory [])) := by
  have hway : ∀ p q, here ++ [name] = p ++ q → q ≠ [] → ∃ entries, d.root.at? p = some (.directory entries) := by
    intro p q hq hne
    obtain ⟨r, last, rfl⟩ := (List.eq_nil_or_concat q).resolve_left hne
    rw [List.concat_eq_append, ← List.append_assoc] at hq
    obtain ⟨hsplit, -⟩ := List.append_inj' hq rfl
    by_cases hr : r = []
    · rw [hsplit, hr, List.append_nil] at hhere
      exact ⟨entries, hhere⟩
    · exact Entry.directory_of_at?_append (hsplit ▸ hhere) hr
  have hbeyond : ∀ q, d.root.at? (here ++ [name] ++ q) = none := by
    intro q
    rw [Entry.at?_append, hnone]
    rfl
  refine ⟨⟨Entry.keeps_put hway fun q found hfound => ?_, rfl, rfl⟩, fun place content hfile => ?_⟩
  · rw [hbeyond] at hfound
    cases hfound
  · rcases Entry.at?_put_cases (.directory []) (here ++ [name]) place d.root with
      ⟨q, rfl, -⟩ | ⟨q, hne, hq, -⟩ | ⟨-, hat⟩
    · rw [hbeyond] at hfile
      cases hfile
    · obtain ⟨old, hold⟩ := hway place q hq hne
      rw [hfile] at hold
      cases hold
    · exact hat.trans hfile

/-! ### Following paths -/

section

variable {a b : Disk} (h : Keeps a b)
include h

theorem Keeps.directory {here : List Bytes} {entries : List (Bytes × Entry)}
    (hat : a.root.at? here = some (.directory entries)) : ∃ entries', b.root.at? here = some (.directory entries') ∧
      ∀ name e, entries.lookup name = some e → ∃ e', entries'.lookup name = some e' ∧ e.SameKind e' := by
  obtain ⟨e', he', hkind⟩ := h.root here _ hat
  cases hkind with
  | directory =>
      refine ⟨_, he', fun name e hlookup => ?_⟩
      obtain ⟨e'', he'', hkind'⟩ := h.root (here ++ [name]) e ((Entry.at?_concat hat).trans hlookup)
      exact ⟨e'', (Entry.at?_concat he').symm.trans he'', hkind'⟩

/-- A path that leads somewhere leads there still. -/
theorem Keeps.follow {links : Nat} {here steps place : List Bytes} (hfollow : a.follow links here steps = .ok place) :
    b.follow links here steps = .ok place := by
  fun_induction Disk.follow a links here steps with
  | case1 links here =>
      cases hfollow
      rw [Disk.follow]
  | case2 links here name rest hat => cases hfollow
  | case3 links here name rest content hat => cases hfollow
  | case4 links here name rest target hat => cases hfollow
  | case5 links here name rest entries hat refused hrefused => cases hfollow
  | case6 links here name rest entries hat hrefused hname ih =>
      obtain ⟨entries', hat', -⟩ := h.directory hat
      rw [Disk.follow, hat']
      simp only [h.refusal, hrefused, hname, if_true]
      exact ih hfollow
  | case7 links here name rest entries hat hrefused hname hlong => cases hfollow
  | case8 links here name rest entries hat hrefused hname hlong hlookup => cases hfollow
  | case9 here name rest entries hat hrefused hname hlong target hlookup => cases hfollow
  | case10 here name rest entries hat hrefused hname hlong target hlookup links ih =>
      obtain ⟨entries', hat', hentries⟩ := h.directory hat
      obtain ⟨e', hlookup', hkind⟩ := hentries name _ hlookup
      cases hkind
      rw [Disk.follow, hat']
      simp only [h.refusal, hrefused, hname, hlong, hlookup']
      exact ih hfollow
  | case11 links here name rest entries hat hrefused hname hlong child hlink hlookup ih =>
      obtain ⟨entries', hat', hentries⟩ := h.directory hat
      obtain ⟨e', hlookup', hkind⟩ := hentries name _ hlookup
      rw [Disk.follow, hat']
      simp only [h.refusal, hrefused, hname, hlong, hlookup']
      cases hkind with
      | file => exact ih hfollow
      | directory => exact ih hfollow
      | link => exact absurd rfl (hlink _)

theorem Keeps.locate {path : Bytes} {place : List Bytes} (hlocate : a.locate path = .ok place) :
    b.locate path = .ok place := by
  have hstart : b.start path = a.start path := by
    unfold start
    rw [h.workingDirectory]
  unfold Disk.locate at hlocate ⊢
  split at hlocate
  · cases hlocate
  · next hempty =>
    split at hlocate
    · cases hlocate
    · next hlength =>
      rw [if_neg hempty, if_neg hlength, hstart]
      exact h.follow hlocate

end

/-- A path that leads somewhere leads through directories. -/
theorem follow_through {d : Disk} {links : Nat} {here : List Bytes} (steps : List Bytes) {more place : List Bytes}
    (h : d.follow links here (steps ++ more) = .ok place) (hmore : more ≠ []) :
    ∃ mid entries, d.follow links here steps = .ok mid ∧ d.root.at? mid = some (.directory entries) := by
  fun_induction follow d links here steps with
  | case1 links here =>
      cases more with
      | nil => exact absurd rfl hmore
      | cons name rest =>
          rw [List.nil_append, follow] at h
          cases hat : d.root.at? here with
          | none => rw [hat] at h; cases h
          | some e =>
              rw [hat] at h
              cases e with
              | file content => cases h
              | link target => cases h
              | directory entries => exact ⟨here, entries, rfl, hat⟩
  | case2 links here name rest hat =>
      rw [List.cons_append, follow, hat] at h
      cases h
  | case3 links here name rest content hat =>
      rw [List.cons_append, follow, hat] at h
      cases h
  | case4 links here name rest target hat =>
      rw [List.cons_append, follow, hat] at h
      cases h
  | case5 links here name rest entries hat refused hrefused =>
      rw [List.cons_append, follow, hat] at h
      simp [hrefused] at h
  | case6 links here name rest entries hat hrefused hname ih =>
      rw [List.cons_append, follow, hat] at h
      simp only [hrefused, hname, if_true] at h
      exact ih h
  | case7 links here name rest entries hat hrefused hname hlong =>
      rw [List.cons_append, follow, hat] at h
      simp [hrefused, hname, hlong] at h
  | case8 links here name rest entries hat hrefused hname hlong hlookup =>
      rw [List.cons_append, follow, hat] at h
      simp [hrefused, hname, hlong, hlookup] at h
  | case9 here name rest entries hat hrefused hname hlong target hlookup =>
      rw [List.cons_append, follow, hat] at h
      simp [hrefused, hname, hlong, hlookup] at h
  | case10 here name rest entries hat hrefused hname hlong target hlookup links ih =>
      rw [List.cons_append, follow, hat] at h
      simp only [hrefused, hname, hlong, hlookup] at h
      exact ih (by simpa using h)
  | case11 links here name rest entries hat hrefused hname hlong child hlink hlookup ih =>
      rw [List.cons_append, follow, hat] at h
      simp only [hrefused, hname, hlong, hlookup] at h
      exact ih h

/-- The names on the way to a directory lead there without any link, and one goes on from there. -/
theorem follow_of_names_append {d : Disk} {links : Nat} {more place : List Bytes} {entries : List (Bytes × Entry)} :
    ∀ {names here : List Bytes} {e : Entry}, d.root.at? here = some e → (∀ n ∈ names, AllowedName n) →
      e.at? names = some (.directory entries) → d.follow links here (names ++ more) = .ok place →
        d.follow links (here ++ names) more = .ok place := by
  intro names
  induction names with
  | nil =>
      intro here e _ _ _ h
      rwa [List.append_nil]
  | cons name rest ih =>
      intro here e hhere hallowed hat h
      rw [List.forall_mem_cons] at hallowed
      obtain ⟨child, hchild, hrest⟩ := Option.bind_eq_some_iff.mp hat
      have hnolink : ∀ target, child ≠ .link target := by
        intro target
        have hne := Entry.at?_take_ne_link (Entry.directory_ne_link entries) hrest 0 target
        exact fun heq => hne (congrArg some heq)
      rw [List.cons_append, follow_name hhere hallowed.1.proper.ne_toParent hallowed.1.2.2.2.2 hchild hnolink] at h
      cases hrefused : d.refusal .find (here ++ [name]) with
      | some refused => rw [hrefused] at h; cases h
      | none =>
          rw [hrefused] at h
          have hgo := ih ((Entry.at?_concat hhere).trans hchild) hallowed.2 hrest h
          rwa [List.append_assoc, List.singleton_append] at hgo

/-! ### Making directories -/

theorem writeAt_eq_ok {d d' : Disk} {place : List Bytes} {e : Entry} :
    d.writeAt place e = .ok d' ↔ d.refusal .write place = none ∧ d' = d.putAt place e := by
  unfold writeAt
  cases d.refusal .write place with
  | none => simp [eq_comm]
  | some refused => simp

theorem makeSteps_grows : ∀ {steps here : List Bytes} {d d' : Disk} {entries : List (Bytes × Entry)},
    d.root.at? here = some (.directory entries) → d.makeSteps here steps = .ok d' → Grows d d' := by
  intro steps
  induction steps with
  | nil =>
      intro here d d' entries _ h
      cases h
      exact .refl d
  | cons name rest ih =>
      intro here d d' entries hhere h
      rw [makeSteps] at h
      split at h
      · split at h
        · next hat => exact ih hat h
        · cases h
      · by_cases hsome : (d.root.at? (here ++ [name])).isSome
        · rw [if_pos hsome] at h
          cases h
        · rw [if_neg hsome] at h
          have hnone : d.root.at? (here ++ [name]) = none := by simpa using hsome
          split at h
          · cases h
          · next made hmade =>
            obtain ⟨-, rfl⟩ := writeAt_eq_ok.mp hmade
            exact (grows_putAt_directory hhere hnone).trans (ih (Entry.at?_put_self _ _ _) h)
      · cases h
      · cases h
      · cases h

/-- **Making directories leaves all files alone.** -/
theorem makeDirectories_grows {d d' : Disk} {path : Bytes} {entries top : List (Bytes × Entry)}
    (hroot : d.root = .directory top) (hhere : d.root.at? d.workingDirectory = some (.directory entries))
    (h : d.makeDirectories path = .ok d') : Grows d d' := by
  have hstart : ∃ entries, d.root.at? (d.start path) = some (.directory entries) := by
    unfold start
    split
    · exact ⟨top, congrArg some hroot⟩
    · exact ⟨entries, hhere⟩
  obtain ⟨entries, hstart⟩ := hstart
  unfold makeDirectories at h
  split at h
  · cases h
  · exact makeSteps_grows hstart h

/-! ### Reading and writing -/

theorem read_of_reach {d : Disk} {path : Bytes} {place : List Bytes} {content : ByteArray}
    (h : d.reach path = .ok (place, .file content)) (hrefused : d.refusal .read place = none) :
    d.read path = .ok content := by
  unfold read
  simp only [h, hrefused]

theorem pathExists_of_read {d : Disk} {path : Bytes} {content : ByteArray} (h : d.read path = .ok content) :
    d.pathExists path = true := by
  obtain ⟨place, hreach, -⟩ := read_eq_ok h
  unfold pathExists
  rw [hreach]

/-- A path leads to what stands now where it led before. -/
theorem Keeps.reach {a b : Disk} (h : Keeps a b) {path : Bytes} {place : List Bytes} {e e' : Entry}
    (hreach : a.reach path = .ok (place, e)) (he' : b.root.at? place = some e')
    (hdirectory : e'.isDirectory = e.isDirectory) : b.reach path = .ok (place, e') := by
  obtain ⟨hlocate, hat, hwants⟩ := reach_eq_ok_iff.mp hreach
  exact reach_eq_ok_iff.mpr ⟨h.locate hlocate, he', fun hw => hdirectory.trans (hwants hw)⟩

section

variable {a b : Disk} (h : Grows a b) {path : Bytes} {content : ByteArray}
include h

theorem Grows.reach_file {place : List Bytes} (hreach : a.reach path = .ok (place, .file content)) :
    b.reach path = .ok (place, .file content) :=
  h.keeps.reach hreach (h.files place content (reach_eq_ok hreach).2) rfl

/-- What can be read can still be read after directories were made. -/
theorem Grows.read (hread : a.read path = .ok content) : b.read path = .ok content := by
  obtain ⟨place, hreach, hrefused⟩ := read_eq_ok hread
  exact read_of_reach (h.reach_file hreach) (by rw [h.refusal, hrefused])

end

/-- **A file that is there is written in its place**, unless the disk refuses that. -/
theorem write_eq_ok_iff {d d' : Disk} {path : Bytes} {place : List Bytes} {old : ByteArray}
    (h : d.reach path = .ok (place, .file old)) {new : ByteArray} :
    d.write path new = .ok d' ↔ d.refusal .write place = none ∧ d' = d.putAt place (.file new) := by
  unfold write
  rw [h]
  exact writeAt_eq_ok

/-- Every path that led to the file then leads to what was written. -/
theorem read_putAt {d : Disk} {path : Bytes} {place : List Bytes} {old : ByteArray}
    (h : d.reach path = .ok (place, .file old)) (hrefused : d.refusal .read place = none) (new : ByteArray) :
    (d.putAt place (.file new)).read path = .ok new := by
  have hkeeps := keeps_putAt_file (reach_eq_ok h).2 new
  exact read_of_reach (hkeeps.reach h (Entry.at?_put_self _ _ _) rfl) hrefused

end CodeAtlas.Disk

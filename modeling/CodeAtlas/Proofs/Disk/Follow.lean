/-
Where paths lead on a disk.

A path is followed step by step, so a path that was put together from two leads where
the second one leads from the end of the first.  The names of a file below a
directory lead to that file, as there are no links among them; hence what a walk has
seen in a directory is found again under the path of the directory and the names that
the walk went through.  It may also not be found, if the path is too long or the disk
refuses something on the way, but nothing else is found in its place.
-/
import CodeAtlas.Proofs.Disk.Entry

namespace CodeAtlas.Path

open CodeAtlas.Disk
open CodeAtlas.Text

/-! ### Steps of paths -/

theorem segmentsFrom_append (a b : Bytes) : ∀ segment : Bytes,
    segmentsFrom segment (a ++ slash :: b) = segmentsFrom segment a ++ segmentsFrom [] b := by
  induction a with
  | nil =>
      intro segment
      rw [List.nil_append, segmentsFrom, segmentsFrom]
      rfl
  | cons c rest ih =>
      intro segment
      rw [List.cons_append, segmentsFrom, segmentsFrom]
      by_cases hc : (c == slash) = true
      · rw [if_pos hc, if_pos hc, ih, List.cons_append]
      · rw [if_neg hc, if_neg hc, ih]

theorem segmentsFrom_of_not_mem {b : Bytes} (h : slash ∉ b) : ∀ segment : Bytes,
    segmentsFrom segment b = [segment.reverse ++ b] := by
  induction b with
  | nil => intro segment; rw [segmentsFrom, List.append_nil]
  | cons c rest ih =>
      intro segment
      have hc : c ≠ slash := fun heq => h (heq ▸ List.mem_cons_self)
      rw [segmentsFrom, if_neg (by simpa using hc), ih fun hr => h (List.mem_cons_of_mem _ hr)]
      simp

theorem segments_append (a b : Bytes) : segments (a ++ slash :: b) = segments a ++ segments b :=
  segmentsFrom_append a b []

theorem ofNames_cons_cons (name next : Bytes) (rest : List Bytes) :
    ofNames (name :: next :: rest) = name ++ slash :: ofNames (next :: rest) :=
  rfl

theorem segments_ofNames {names : List Bytes} (hne : names ≠ []) (h : ∀ n ∈ names, slash ∉ n) :
    segments (ofNames names) = names := by
  have hname : ∀ {name : Bytes}, slash ∉ name → segments name = [name] :=
    fun hfree => segmentsFrom_of_not_mem hfree []
  induction names with
  | nil => exact absurd rfl hne
  | cons n rest ih =>
      rw [List.forall_mem_cons] at h
      cases rest with
      | nil => exact hname h.1
      | cons m rest =>
          rw [ofNames_cons_cons, segments_append, hname h.1, ih (List.cons_ne_nil _ _) h.2]
          rfl

theorem steps_append (a b : Bytes) : steps (a ++ slash :: b) = steps a ++ steps b := by
  unfold steps
  rw [segments_append, List.filter_append]

theorem steps_ofNames {names : List Bytes} (hne : names ≠ []) (h : ∀ n ∈ names, ProperName n) :
    steps (ofNames names) = names := by
  unfold steps
  rw [segments_ofNames hne fun n hn => (h n hn).slash_not_mem, List.filter_eq_self]
  intro n hn
  simp [(h n hn).ne_nil, (h n hn).ne_point]

theorem ofNames_cons (name : Bytes) (rest : List Bytes) : ∃ more, ofNames (name :: rest) = name ++ more := by
  cases rest with
  | nil => exact ⟨[], (List.append_nil _).symm⟩
  | cons m rest => exact ⟨_, rfl⟩

theorem ofNames_concat {names : List Bytes} (hne : names ≠ []) (name : Bytes) :
    ofNames (names ++ [name]) = ofNames names ++ slash :: name := by
  induction names with
  | nil => exact absurd rfl hne
  | cons n rest ih =>
      cases rest with
      | nil => rfl
      | cons m rest =>
          rw [List.cons_append, List.cons_append, ofNames_cons_cons, ← List.cons_append, ih (List.cons_ne_nil _ _),
            ofNames_cons_cons, List.append_assoc, List.cons_append]

theorem isAbsolute_of_proper {name : Bytes} (h : ProperName name) (rest : Bytes) :
    isAbsolute (name ++ rest) = false := by
  cases name with
  | nil => exact absurd rfl h.ne_nil
  | cons b name =>
      have hb : b ≠ slash := fun heq => h.slash_not_mem (heq ▸ List.mem_cons_self)
      unfold isAbsolute
      simpa using hb

theorem isAbsolute_ofNames {names : List Bytes} (h : ∀ n ∈ names, ProperName n) :
    isAbsolute (ofNames names) = false := by
  cases names with
  | nil => rfl
  | cons n rest =>
      obtain ⟨more, hmore⟩ := ofNames_cons n rest
      rw [hmore]
      exact isAbsolute_of_proper (h n List.mem_cons_self) more

/-! ### Joined paths -/

/-- A joined path is one path, a slash and the other; the first one may have lost a slash at its end. -/
theorem join_eq {base path : Bytes} (hbase : base ≠ []) (hpath : isAbsolute path = false) :
    ∃ a, join base path = a ++ slash :: path ∧ steps a = steps base ∧
      isAbsolute (a ++ slash :: path) = isAbsolute base := by
  have hnonempty : base.isEmpty = false := by simpa using hbase
  unfold join
  rw [hpath, hnonempty]
  simp only [Bool.false_eq_true, if_false, Bool.false_or]
  by_cases hslash : base.getLast? = some slash
  · obtain ⟨front, hfront⟩ := List.getLast?_eq_some_iff.mp hslash
    have hempty : steps [] = [] := by decide
    refine ⟨front, ?_, ?_, ?_⟩
    · rw [if_pos (by simp [hslash]), hfront, List.append_assoc, List.singleton_append]
    · rw [hfront, steps_append, hempty, List.append_nil]
    · rw [hfront]
      unfold isAbsolute
      cases front <;> simp
  · refine ⟨base, ?_, rfl, ?_⟩
    · rw [if_neg (by simpa using hslash)]
    · unfold isAbsolute
      cases base with
      | nil => exact absurd rfl hbase
      | cons b rest => simp

theorem segmentsFrom_ne_nil (b : Bytes) : ∀ segment : Bytes, segmentsFrom segment b ≠ [] := by
  induction b with
  | nil => intro segment; simp [segmentsFrom]
  | cons c rest ih =>
      intro segment
      rw [segmentsFrom]
      by_cases hc : (c == slash) = true
      · simp [hc]
      · rw [if_neg hc]
        exact ih _

section

variable {base path : Bytes} (hbase : base ≠ []) (hpath : isAbsolute path = false)

include hbase hpath

theorem join_ne_nil : join base path ≠ [] := by
  obtain ⟨a, hjoin, -, -⟩ := join_eq hbase hpath
  simp [hjoin]

theorem isAbsolute_join : isAbsolute (join base path) = isAbsolute base := by
  obtain ⟨a, hjoin, -, habsolute⟩ := join_eq hbase hpath
  rw [hjoin, habsolute]

theorem steps_join : steps (join base path) = steps base ++ steps path := by
  obtain ⟨a, hjoin, hsteps, -⟩ := join_eq hbase hpath
  rw [hjoin, steps_append, hsteps]

theorem wantsDirectory_join : Disk.wantsDirectory (join base path) = Disk.wantsDirectory path := by
  obtain ⟨a, hjoin, -, -⟩ := join_eq hbase hpath
  have hne : segments path ≠ [] := segmentsFrom_ne_nil path []
  unfold Disk.wantsDirectory
  rw [hjoin, segments_append, List.getLast?_append, List.getLast?_eq_some_getLast hne, Option.some_or]

/-- Going on from a joined path, after a name. -/
theorem join_join {name : Bytes} (hlast : path ≠ [] ∧ path.getLast? ≠ some slash) (hname : isAbsolute name = false) :
    join (join base path) name = join base (path ++ slash :: name) := by
  have habsolute : isAbsolute (path ++ slash :: name) = false := by
    cases path with
    | nil => exact absurd rfl hlast.1
    | cons b rest =>
        unfold isAbsolute at hpath ⊢
        simpa using hpath
  have hend : (join base path).getLast? = path.getLast? := by
    obtain ⟨a, hjoin, -, -⟩ := join_eq hbase hpath
    rw [hjoin, List.getLast?_append, List.getLast?_cons, List.getLast?_eq_some_getLast hlast.1]
    rfl
  have hne : (join base path).isEmpty = false := by simpa using join_ne_nil hbase hpath
  have hslash : ((join base path).getLast? == some slash) = false := by
    rw [hend]
    simpa using hlast.2
  rw [join, hname, hne, hslash]
  simp only [Bool.or_self, Bool.false_eq_true, if_false]
  unfold join
  rw [hpath, habsolute]
  simp only [Bool.false_eq_true, if_false]
  split <;> simp

end

theorem length_add_le_length_join {base path : Bytes} (hpath : isAbsolute path = false) :
    base.length + path.length ≤ (join base path).length := by
  unfold join
  rw [hpath]
  simp only [Bool.false_eq_true, if_false]
  split
  · simp
  · simp

/-- Fewer names make a shorter path. -/
theorem length_below_take_le : ∀ {names : List Bytes} {base : Bytes}, (∀ n ∈ names, ProperName n) → ∀ k : Nat,
    (below base (names.take k)).length ≤ (below base names).length := by
  have hlonger : ∀ {names : List Bytes} {base : Bytes}, (∀ n ∈ names, ProperName n) →
      base.length ≤ (below base names).length := by
    intro names
    induction names with
    | nil => intro base _; exact Nat.le_refl _
    | cons n rest ih =>
        intro base h
        rw [List.forall_mem_cons] at h
        have hn : isAbsolute n = false := List.append_nil n ▸ isAbsolute_of_proper h.1 []
        exact Nat.le_trans (Nat.le_of_add_right_le (length_add_le_length_join hn)) (ih h.2)
  intro names
  induction names with
  | nil => intro base _ k; simp
  | cons n rest ih =>
      intro base h k
      cases k with
      | zero => exact hlonger h
      | succ k => exact ih (fun m hm => h m (List.mem_cons_of_mem _ hm)) k

/-- **Names are joined one after the other or all at once.** -/
theorem below_eq_join : ∀ {names : List Bytes} {base : Bytes}, base ≠ [] → names ≠ [] → (∀ n ∈ names, ProperName n) →
    below base names = join base (ofNames names) := by
  intro names
  induction names with
  | nil => intro base _ hne; exact absurd rfl hne
  | cons n rest ih =>
      intro base hbase _ h
      rw [List.forall_mem_cons] at h
      cases rest with
      | nil => rfl
      | cons m rest =>
          have hn : isAbsolute n = false := List.append_nil n ▸ isAbsolute_of_proper h.1 []
          have hlast : n ≠ [] ∧ n.getLast? ≠ some slash :=
            ⟨h.1.ne_nil, fun heq => h.1.slash_not_mem (List.mem_of_getLast? heq)⟩
          have hbelow : below base (n :: m :: rest) = below (join base n) (m :: rest) := rfl
          rw [hbelow, ih (join_ne_nil hbase hn) (List.cons_ne_nil _ _) h.2,
            join_join hbase hn hlast (isAbsolute_ofNames h.2), ofNames_cons_cons]

end CodeAtlas.Path

namespace CodeAtlas.Disk

open CodeAtlas.Path
open CodeAtlas.Text

/-! ### Following steps -/

theorem Entry.at?_append (a b : List Bytes) : ∀ e : Entry, e.at? (a ++ b) = (e.at? a).bind (Entry.at? b) := by
  induction a with
  | nil => intro e; rfl
  | cons name rest ih =>
      intro e
      rw [List.cons_append, Entry.at?, Entry.at?]
      cases e.child? name with
      | none => rfl
      | some child => exact ih child

theorem Entry.at?_concat {root e : Entry} {here : List Bytes} {name : Bytes} (hhere : root.at? here = some e) :
    root.at? (here ++ [name]) = e.child? name := by
  rw [Entry.at?_append, hhere]
  show (e.child? name).bind _ = _
  cases e.child? name <;> rfl

/-- Entries of a directory that are shown alike are the same. -/
theorem Entry.ShownApart.child_eq {e x y : Entry} {a b : Bytes} (h : e.ShownApart) (hx : e.child? a = some x)
    (hy : e.child? b = some y) (heq : ofBytes a = ofBytes b) : a = b := by
  cases e with
  | file content => cases hx
  | link target => cases hx
  | directory entries =>
      have hmem : ∀ {n : Bytes} {e : Entry}, entries.lookup n = some e → (n, e) ∈ entries := by
        intro n e hn
        obtain ⟨before, after, rfl, -⟩ := List.lookup_eq_some_iff.mp hn
        simp
      -- Of two different entries one stands before the other, and then they are shown apart.
      have hpairs := List.pairwise_map.mp (Entry.apartBy_directory.mp h).1
      by_cases hsame : ((a, x) : Bytes × Entry) = (b, y)
      · exact congrArg Prod.fst hsame
      · rcases Lists.rel_or_rel_of_pairwise hpairs (hmem hx) (hmem hy) hsame with hne | hne
        · exact absurd heq hne
        · exact absurd heq.symm hne

/-- **Ways that are shown alike are the same**, if the names in every directory are shown apart. -/
theorem Entry.ShownApart.names_eq : ∀ {a b : List Bytes} {e x y : Entry}, e.ShownApart → e.at? a = some x →
    e.at? b = some y → a.map ofBytes = b.map ofBytes → a = b := by
  intro a
  induction a with
  | nil =>
      intro b e x y _ _ _ heq
      exact (List.map_eq_nil_iff.mp heq.symm).symm
  | cons n rest ih =>
      intro b e x y h hx hy heq
      cases b with
      | nil => cases heq
      | cons m others =>
          rw [List.map_cons, List.map_cons, List.cons.injEq] at heq
          obtain ⟨child, hchild, hrest⟩ := Option.bind_eq_some_iff.mp hx
          obtain ⟨child', hchild', hothers⟩ := Option.bind_eq_some_iff.mp hy
          have hsame := h.child_eq hchild hchild' heq.1
          subst hsame
          cases hchild.symm.trans hchild'
          rw [ih (h.child hchild) hrest hothers heq.2]

variable {d : Disk}

/-- After some steps, one goes on from the place that they have led to; some links may be used up. -/
theorem follow_append {links : Nat} {here steps place : List Bytes} (h : d.follow links here steps = .ok place)
    (more : List Bytes) : ∃ links', d.follow links here (steps ++ more) = d.follow links' place more := by
  fun_induction follow d links here steps with
  | case1 links here =>
      cases h
      exact ⟨links, rfl⟩
  | case2 links here name rest hat => cases h
  | case3 links here name rest content hat => cases h
  | case4 links here name rest target hat => cases h
  | case5 links here name rest entries hat refused hrefused => cases h
  | case6 links here name rest entries hat hrefused hname ih =>
      obtain ⟨links', hlinks⟩ := ih h
      refine ⟨links', ?_⟩
      rw [List.cons_append, follow, hat]
      simp only [hrefused, hname, if_true]
      exact hlinks
  | case7 links here name rest entries hat hrefused hname hlong => cases h
  | case8 links here name rest entries hat hrefused hname hlong hlookup => cases h
  | case9 here name rest entries hat hrefused hname hlong target hlookup => cases h
  | case10 here name rest entries hat hrefused hname hlong target hlookup links ih =>
      obtain ⟨links', hlinks⟩ := ih h
      refine ⟨links', ?_⟩
      rw [List.append_assoc] at hlinks
      rw [List.cons_append, follow, hat]
      simp only [hrefused, hname, hlong, hlookup]
      exact hlinks
  | case11 links here name rest entries hat hrefused hname hlong child hlink hlookup ih =>
      obtain ⟨links', hlinks⟩ := ih h
      refine ⟨links', ?_⟩
      rw [List.cons_append, follow, hat]
      simp only [hrefused, hname, hlong, hlookup]
      exact hlinks

/-- A name that is no link is one step further, unless the disk refuses that. -/
theorem follow_name {links : Nat} {here rest : List Bytes} {name : Bytes} {e child : Entry}
    (hhere : d.root.at? here = some e) (hname : name ≠ toParent) (hlength : name.length ≤ maxName)
    (hchild : e.child? name = some child) (hlink : ∀ target, child ≠ .link target) : d.follow links here (name :: rest) =
      (d.refusal .find (here ++ [name])).elim (d.follow links (here ++ [name]) rest) .error := by
  have hup : (name == toParent) = false := by simpa using hname
  cases e with
  | file _ => cases hchild
  | link _ => cases hchild
  | directory entries =>
      have hlookup : entries.lookup name = some child := hchild
      rw [follow, hhere]
      cases hrefused : d.refusal .find (here ++ [name]) with
      | some refused => rfl
      | none =>
          simp only [hup, Nat.not_lt.mpr hlength, hlookup]
          cases child with
          | link target => exact absurd rfl (hlink target)
          | file _ => rfl
          | directory _ => rfl

/-- A name that is followed is not too long, and there is something under it. -/
theorem name_of_follow {links : Nat} {here rest place : List Bytes} {name : Bytes} {e : Entry}
    (hhere : d.root.at? here = some e) (hname : name ≠ toParent) (h : d.follow links here (name :: rest) = .ok place) :
    name.length ≤ maxName ∧ (e.child? name).isSome = true := by
  have hup : (name == toParent) = false := by simpa using hname
  rw [follow, hhere] at h
  cases e with
  | file _ => cases h
  | link _ => cases h
  | directory entries =>
      cases hrefused : d.refusal .find (here ++ [name]) with
      | some refused => simp [hrefused] at h
      | none =>
          simp only [hrefused, hup] at h
          by_cases hlong : maxName < name.length
          · simp [hlong] at h
          · refine ⟨Nat.not_lt.mp hlong, ?_⟩
            cases hlookup : entries.lookup name with
            | none => simp [hlong, hlookup] at h
            | some child =>
                have hchild : (Entry.directory entries).child? name = some child := hlookup
                rw [hchild]
                rfl

/-- Names without links among them lead nowhere else. -/
theorem follow_eq_append {links : Nat} {place : List Bytes} : ∀ {names here : List Bytes} {e : Entry},
    d.root.at? here = some e → (∀ n ∈ names, ProperName n) →
      (∀ k ≤ names.length, ∀ target, e.at? (names.take k) ≠ some (.link target)) →
        d.follow links here names = .ok place → place = here ++ names ∧ (e.at? names).isSome = true := by
  intro names
  induction names with
  | nil =>
      intro here e _ _ _ h
      rw [follow] at h
      cases h
      exact ⟨(List.append_nil _).symm, rfl⟩
  | cons name rest ih =>
      intro here e hhere hproper hlinks h
      rw [List.forall_mem_cons] at hproper
      obtain ⟨hlength, hsome⟩ := name_of_follow hhere hproper.1.ne_toParent h
      cases hchild : e.child? name with
      | none =>
          rw [hchild] at hsome
          cases hsome
      | some child =>
          have hbelow : ∀ k ≤ rest.length, ∀ target, child.at? (rest.take k) ≠ some (.link target) := by
            intro k hk target heq
            refine hlinks (k + 1) (Nat.succ_le_succ hk) target ?_
            rw [List.take_succ_cons, Entry.at?, hchild]
            exact heq
          have hnolink : ∀ target, child ≠ .link target := by
            rintro target rfl
            exact hbelow 0 (Nat.zero_le _) target rfl
          rw [follow_name hhere hproper.1.ne_toParent hlength hchild hnolink] at h
          cases hrefused : d.refusal .find (here ++ [name]) with
          | some refused => rw [hrefused] at h; cases h
          | none =>
              rw [hrefused] at h
              obtain ⟨hplace, hfound⟩ := ih ((Entry.at?_concat hhere).trans hchild) hproper.2 hbelow h
              rw [List.append_assoc, List.singleton_append] at hplace
              refine ⟨hplace, ?_⟩
              rw [Entry.at?, hchild]
              exact hfound

/-- A disk that refuses nothing. -/
def Open (d : Disk) : Prop :=
  ∀ use names, d.refusal use names = none

/-- On an open disk, the names on the way to something that is no link lead there. -/
theorem follow_names (hopen : d.Open) {links : Nat} {found : Entry} (hlink : ∀ target, found ≠ .link target) :
    ∀ {names here : List Bytes} {e : Entry}, d.root.at? here = some e → (∀ n ∈ names, AllowedName n) →
      e.at? names = some found → d.follow links here names = .ok (here ++ names) := by
  intro names
  induction names with
  | nil =>
      intro here e _ _ _
      rw [follow, List.append_nil]
  | cons name rest ih =>
      intro here e hhere hallowed hat
      rw [List.forall_mem_cons] at hallowed
      obtain ⟨child, hchild, hrest⟩ := Option.bind_eq_some_iff.mp hat
      have hnolink : ∀ target, child ≠ .link target := by
        rintro target rfl
        cases rest with
        | nil => exact hlink target (Option.some.inj hrest).symm
        | cons n rest => cases hrest
      have hgo := ih ((Entry.at?_concat hhere).trans hchild) hallowed.2 hrest
      rw [List.append_assoc, List.singleton_append] at hgo
      rw [follow_name hhere hallowed.1.proper.ne_toParent hallowed.1.2.2.2.2 hchild hnolink, hopen .find]
      exact hgo

/-! ### Paths below a directory -/

/-- A path that leads somewhere is not empty, and its steps lead there. -/
theorem locate_eq_ok {path : Bytes} {place : List Bytes} (h : d.locate path = .ok place) :
    path ≠ [] ∧ d.follow maxLinks (d.start path) (steps path) = .ok place := by
  unfold locate at h
  split at h
  · cases h
  · next hempty =>
    split at h
    · cases h
    · exact ⟨by simpa using hempty, h⟩

/-- Nothing is found under a path that is too long. -/
theorem isOk_list_of_too_long {path : Bytes} (h : maxPath < path.length) : (d.list path).isOk = false := by
  have hlocate : ∃ e, d.locate path = .error e := by
    unfold locate
    rw [if_pos h]
    split
    · exact ⟨_, rfl⟩
    · exact ⟨_, rfl⟩
  obtain ⟨e, he⟩ := hlocate
  unfold list reach
  rw [he]
  rfl

section

variable {base : Bytes} {place names : List Bytes} {e : Entry} (hbase : d.reach base = .ok (place, e))
  (hne : names ≠ []) (hproper : ∀ n ∈ names, ProperName n)

include hbase hne hproper

theorem below_eq_join_of_reach : below base names = join base (ofNames names) :=
  below_eq_join (locate_eq_ok (reach_eq_ok hbase).1).1 hne hproper

/-- **A path below a directory is followed from there**, if it is not too long. -/
theorem locate_below : ∃ links, d.locate (below base names) =
    if maxPath < (below base names).length then .error .nameTooLong else d.follow links place names := by
  obtain ⟨hnonempty, hfollow⟩ := locate_eq_ok (reach_eq_ok hbase).1
  obtain ⟨links, hlinks⟩ := follow_append hfollow names
  have habsolute := isAbsolute_ofNames hproper
  have hpath : (join base (ofNames names)).isEmpty = false := by simpa using join_ne_nil hnonempty habsolute
  have hstart : d.start (join base (ofNames names)) = d.start base := by
    unfold start
    rw [isAbsolute_join hnonempty habsolute]
  refine ⟨links, ?_⟩
  rw [below_eq_join_of_reach hbase hne hproper]
  unfold locate
  rw [hpath, hstart, steps_join hnonempty habsolute, steps_ofNames hne hproper, hlinks]
  rfl

theorem wantsDirectory_below : wantsDirectory (below base names) = false := by
  have hnonempty := (locate_eq_ok (reach_eq_ok hbase).1).1
  have hlast := hproper _ (List.getLast_mem hne)
  rw [below_eq_join_of_reach hbase hne hproper, wantsDirectory_join hnonempty (isAbsolute_ofNames hproper)]
  unfold wantsDirectory
  rw [segments_ofNames hne fun n hn => (hproper n hn).slash_not_mem, List.getLast?_eq_some_getLast hne]
  simp [hlast.ne_nil, hlast.ne_point, hlast.ne_toParent]

/-- **What is found below a directory stands there**, if there is no link on the way to it. -/
theorem at?_of_reach_below (hlinks : ∀ k ≤ names.length, ∀ target, e.at? (names.take k) ≠ some (.link target))
    {there : List Bytes} {found : Entry} (h : d.reach (below base names) = .ok (there, found)) :
    there = place ++ names ∧ e.at? names = some found := by
  obtain ⟨hthere, hfound⟩ := reach_eq_ok h
  obtain ⟨links, hlocate⟩ := locate_below hbase hne hproper
  rw [hlocate] at hthere
  split at hthere
  · cases hthere
  · obtain ⟨rfl, hsome⟩ := follow_eq_append (reach_eq_ok hbase).2 hproper hlinks hthere
    rw [Entry.at?_append, (reach_eq_ok hbase).2] at hfound
    exact ⟨rfl, hfound⟩

end

/-- **What stands below a directory of an open disk is found there**, if its path is not too long. -/
theorem reach_below {base : Bytes} {place names : List Bytes} {e found : Entry}
    (hbase : d.reach base = .ok (place, e)) (hne : names ≠ []) (hallowed : ∀ n ∈ names, AllowedName n)
    (hopen : d.Open) (hlength : (below base names).length ≤ maxPath) (hlink : ∀ target, found ≠ .link target)
    (hat : e.at? names = some found) : d.reach (below base names) = .ok (place ++ names, found) := by
  have hproper : ∀ n ∈ names, ProperName n := fun n hn => (hallowed n hn).proper
  obtain ⟨links, hlocate⟩ := locate_below hbase hne hproper
  rw [if_neg (Nat.not_lt.mpr hlength), follow_names hopen hlink (reach_eq_ok hbase).2 hallowed hat] at hlocate
  have hthere : d.root.at? (place ++ names) = some found := by
    rw [Entry.at?_append, (reach_eq_ok hbase).2]
    exact hat
  unfold reach
  rw [hlocate, wantsDirectory_below hbase hne hproper]
  simp [hthere]

/-! ### Files below a directory -/

/-- On the way to anything stand directories. -/
theorem Entry.directory_of_at?_append {e found : Entry} {p q : List Bytes} (h : e.at? (p ++ q) = some found)
    (hq : q ≠ []) : ∃ entries, e.at? p = some (.directory entries) := by
  rw [at?_append] at h
  obtain ⟨here, hhere, hthere⟩ := Option.bind_eq_some_iff.mp h
  cases q with
  | nil => exact absurd rfl hq
  | cons name rest =>
      cases here with
      | directory entries => exact ⟨entries, hhere⟩
      | file content => cases hthere
      | link target => cases hthere

/-- On the way to something stands no link, unless that is one itself. -/
theorem Entry.at?_take_ne_link {e found : Entry} {names : List Bytes} (hlink : ∀ target, found ≠ .link target)
    (hat : e.at? names = some found) (k : Nat) (target : Bytes) : e.at? (names.take k) ≠ some (.link target) := by
  intro heq
  rw [← List.take_append_drop k names, Entry.at?_append, heq] at hat
  cases hdrop : names.drop k with
  | nil =>
      rw [hdrop] at hat
      exact hlink target (Option.some.inj hat).symm
  | cons name rest =>
      rw [hdrop] at hat
      cases hat

theorem Entry.file_ne_link (content : ByteArray) : ∀ target, Entry.file content ≠ .link target := by
  intro target h
  cases h

theorem Entry.directory_ne_link (entries : List (Bytes × Entry)) : ∀ target, Entry.directory entries ≠ .link target := by
  intro target h
  cases h

/-- What is read under the names of a file is the content of that file. -/
theorem eq_of_read_below {base : Bytes} {place names : List Bytes} {e : Entry}
    (hbase : d.reach base = .ok (place, e)) (he : e.Allowed) {content found : ByteArray}
    (hat : e.at? names = some (.file content)) (hread : d.read (below base names) = .ok found) : found = content := by
  by_cases hne : names = []
  · -- The directory itself is no file.
    subst hne
    obtain ⟨there, hreach, -⟩ := read_eq_ok hread
    have hbelow : below base [] = base := rfl
    rw [hbelow, hbase] at hreach
    cases hreach
    cases hat
    rfl
  · obtain ⟨there, hreach, -⟩ := read_eq_ok hread
    have hfound := (at?_of_reach_below hbase hne (fun n hn => (he.of_at? hat n hn).proper)
      (fun k _ => Entry.at?_take_ne_link (Entry.file_ne_link content) hat k) hreach).2
    rw [hat] at hfound
    cases hfound
    rfl

/-! ### Disks with a single directory -/

theorem holding_open (entries : List (Bytes × Entry)) : (holding entries).Open :=
  fun _ _ => rfl

theorem holding_reach (entries : List (Bytes × Entry)) :
    (holding entries).reach (bytes "repo") = .ok ([bytes "repo"], .directory entries) := by
  have hsteps : steps (bytes "repo") = [bytes "repo"] := by decide +kernel
  have hwants : wantsDirectory (bytes "repo") = false := by decide +kernel
  have hstart : (holding entries).start (bytes "repo") = [] := rfl
  have hat : (holding entries).root.at? [bytes "repo"] = some (.directory entries) := by
    simp [holding, Entry.at?, Entry.child?]
  have hname : ∀ n ∈ [bytes "repo"], AllowedName n := by decide
  have hlocate : (holding entries).locate (bytes "repo") = .ok [bytes "repo"] := by
    have hempty : (bytes "repo").isEmpty = false := by decide
    have hlength : ¬maxPath < (bytes "repo").length := by decide
    unfold locate
    rw [hempty, if_neg hlength, hstart, hsteps]
    exact follow_names (holding_open entries) (Entry.directory_ne_link entries) rfl hname hat
  unfold reach
  rw [hlocate, hwants]
  simp [hat]

theorem holding_list (entries : List (Bytes × Entry)) : (holding entries).list (bytes "repo") = .ok entries := by
  unfold list
  rw [holding_reach]
  rfl

theorem holding_reach_below {entries : List (Bytes × Entry)} (h : (Entry.directory entries).Allowed)
    {names : List Bytes} {found : Entry} (hat : (Entry.directory entries).at? names = some found)
    (hlink : ∀ target, found ≠ .link target) (hne : names ≠ [])
    (hlength : (below (bytes "repo") names).length ≤ maxPath) :
    (holding entries).reach (below (bytes "repo") names) = .ok (bytes "repo" :: names, found) :=
  reach_below (holding_reach entries) hne (h.of_at? hat) (holding_open entries) hlength hlink hat

theorem holding_read {entries : List (Bytes × Entry)} (h : (Entry.directory entries).Allowed) {names : List Bytes}
    {content : ByteArray} (hat : (Entry.directory entries).at? names = some (.file content)) (hne : names ≠ [])
    (hlength : (below (bytes "repo") names).length ≤ maxPath) :
    (holding entries).read (below (bytes "repo") names) = .ok content := by
  unfold read
  rw [holding_reach_below h hat (Entry.file_ne_link content) hne hlength]
  rfl

/-- The directories on the way to something can be listed. -/
theorem holding_list_take {entries : List (Bytes × Entry)} (h : (Entry.directory entries).Allowed)
    {names : List Bytes} {found : Entry} (hat : (Entry.directory entries).at? names = some found)
    (hlength : (below (bytes "repo") names).length ≤ maxPath) {k : Nat} (hpos : 0 < k) (hk : k < names.length) :
    ((holding entries).list (below (bytes "repo") (names.take k))).isOk = true := by
  have hdrop : names.drop k ≠ [] := by simpa using hk
  have hsplit := hat
  rw [← List.take_append_drop k names] at hsplit
  obtain ⟨inside, hinside⟩ := Entry.directory_of_at?_append hsplit hdrop
  have hne : names.take k ≠ [] := by
    intro heq
    have hzero := congrArg List.length heq
    rw [List.length_take, List.length_nil] at hzero
    omega
  have hshort := Nat.le_trans (length_below_take_le (fun n hn => (h.of_at? hat n hn).proper) k) hlength
  unfold list
  rw [holding_reach_below h hinside (Entry.directory_ne_link inside) hne hshort]
  rfl

end CodeAtlas.Disk

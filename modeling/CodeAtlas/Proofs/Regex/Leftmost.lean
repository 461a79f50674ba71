/-
A search misses nothing.

Whenever an expression matches somewhere, a search that begins before that finds a
match, and one that begins no later.  The argument is about the threads of the search.
`Follows` says that what can be begun with includes the way a given match goes, so the
thread that is on this way stays on it, `heads_follows`.  Two things can happen to it.
Another thread may have the same tasks and be kept in its place, which is then on the way
as well.  Or a thread that is preferred comes to an end, and all others are given up.

Preferred are those that began earlier.  So the threads fall into two parts, of which
the first began early enough, and the thread that is on the way is one of them.  What
comes from the second part does not matter: a match found there is given up again.
-/
import CodeAtlas.Proofs.Regex.Apart

namespace CodeAtlas

deriving instance ReflBEq, LawfulBEq for Text.Place, Regex.Task

namespace Regex

open CodeAtlas.Text

/-! ### One step -/

theorem Done.append {rest more : List Task} {before u v after : List Char} {gu gv : Captures}
    (hu : Done rest before u (v ++ after) gu) (hv : Done more (before ++ u) v after gv) :
    Done (rest ++ more) before (u ++ v) after (gv ++ gu) := by
  induction rest generalizing before u gu with
  | nil =>
      cases hu
      simpa using hv
  | cons t rest ih =>
      cases hu with
      | @run r _ _ x y _ gr gs hr hrest =>
          rw [← List.append_assoc] at hv
          rw [List.append_assoc, ← List.append_assoc gv]
          rw [← List.append_assoc] at hr
          exact .run hr (ih hrest hv)
      | close hrest =>
          rw [← List.append_assoc gv]
          exact .close (ih hrest hv)

theorem done_of_matches {r : Regex} {before word after : List Char} {groups : Captures}
    (h : Matches r before word after groups) : Done [.run r] before word after groups := by
  have hrun : Done [.run r] before (word ++ []) after ([] ++ groups) := .run h .nil
  rw [List.append_nil, List.nil_append] at hrun
  exact hrun

/-- Among the outcomes is the one that goes on as the word does: there is nothing to read, or the first character is
read and the tasks that are left are done by the others. -/
def Follows (outcomes : List Outcome) (before : List Char) : (word after : List Char) → Prop
  | [], _ => ∃ captures, .passed captures ∈ outcomes
  | c :: word, after => ∃ set tasks captures groups, .reads set tasks captures ∈ outcomes ∧ set.mem c = true ∧
      Done tasks (before ++ [c]) word after groups

theorem Follows.mono {xs ys : List Outcome} {before word after : List Char} (h : Follows xs before word after)
    (hsub : ∀ o ∈ xs, o ∈ ys) : Follows ys before word after := by
  cases word with
  | nil =>
      obtain ⟨captures, hpassed⟩ := h
      exact ⟨captures, hsub _ hpassed⟩
  | cons c word =>
      obtain ⟨set, tasks, captures, groups, hreads, hrest⟩ := h
      exact ⟨set, tasks, captures, groups, hsub _ hreads, hrest⟩

/-- A first part that is not empty, and then something else. -/
theorem follows_append {xs ys : List Outcome} {before u v after : List Char} {c : Char} {more : List Task}
    {groups : Captures} (h : Follows xs before (c :: u) (v ++ after))
    (hmore : Done more (before ++ c :: u) v after groups)
    (hsub : ∀ set tasks captures, .reads set tasks captures ∈ xs → .reads set (tasks ++ more) captures ∈ ys) :
    Follows ys before (c :: u ++ v) after := by
  obtain ⟨set, tasks, captures, gu, hreads, hc, hdone⟩ := h
  have hrest : Done more (before ++ [c] ++ u) v after groups := by
    rw [List.append_assoc]
    exact hmore
  exact ⟨set, tasks ++ more, captures, groups ++ gu, hsub _ _ _ hreads, hc, hdone.append hrest⟩

theorem passIf_follows {condition : Bool} {before after : List Char} {captures : Captures} (h : condition = true) :
    Follows (passIf condition captures) before [] after := by
  rw [h]
  exact ⟨captures, List.mem_cons_self⟩

/-- **Every match is among the ways to begin with its expression.** -/
theorem heads_follows {r : Regex} {before word after : List Char} {groups : Captures}
    (h : Matches r before word after groups) : ∀ captures : Captures,
      Follows (heads (Place.after before) (.between before (word ++ after)) r captures) before word after := by
  induction h with
  | empty => exact fun captures => ⟨captures, List.mem_cons_self⟩
  | chars hmem => exact fun captures => ⟨_, [], captures, [], List.mem_cons_self, hmem, .nil⟩
  | @seq a b before u v after ga gb ha hb iha ihb =>
      intro captures
      rw [heads, List.append_assoc]
      cases u with
      | nil =>
          obtain ⟨captures', hpassed⟩ := iha captures
          have hsecond := ihb captures'
          rw [List.append_nil] at hsecond
          exact hsecond.mono fun o ho => List.mem_flatMap.mpr ⟨_, hpassed, ho⟩
      | cons c u =>
          refine follows_append (iha captures) (done_of_matches hb) ?_
          intro set tasks captures' hreads
          exact List.mem_flatMap.mpr ⟨_, hreads, List.mem_singleton.mpr rfl⟩
  | altLeft _ ih => exact fun captures => (ih captures).mono fun o ho => List.mem_append_left _ ho
  | altRight _ ih => exact fun captures => (ih captures).mono fun o ho => List.mem_append_right _ ho
  | @starNil a lazy before after =>
      intro captures
      refine ⟨captures, ?_⟩
      rw [heads]
      cases lazy with
      | true => exact List.mem_cons_self
      | false => exact List.mem_append_right _ List.mem_cons_self
  | @starCons a lazy before u v after ga gs ha hs iha ihs =>
      intro captures
      cases u with
      | nil =>
          have hrest := ihs captures
          rw [List.append_nil] at hrest
          exact hrest
      | cons c u =>
          rw [List.append_assoc]
          refine follows_append (iha captures) (done_of_matches hs) ?_
          intro set tasks captures' hreads
          have hagain := List.mem_map_of_mem (f := Outcome.before [.run (.star a lazy)])
            (List.mem_filter.mpr ⟨hreads, rfl⟩ : _ ∈ List.filter Outcome.isReads _)
          rw [heads]
          cases lazy with
          | true => exact List.mem_cons_of_mem _ hagain
          | false => exact List.mem_append_left _ hagain
  | @group name a before word after groups ha ih =>
      intro captures
      rw [heads]
      cases word with
      | nil =>
          obtain ⟨captures', hpassed⟩ := ih captures
          exact ⟨_, List.mem_map.mpr ⟨_, hpassed, rfl⟩⟩
      | cons c word =>
          obtain ⟨set, tasks, captures', gs, hreads, hc, hdone⟩ := ih captures
          have hclose : Done [.close name (Place.after before)] (before ++ [c] ++ word) [] after _ := .close .nil
          rw [← List.nil_append after] at hdone
          have hall := hdone.append hclose
          rw [List.append_nil] at hall
          exact ⟨set, _, captures', _, List.mem_map.mpr ⟨_, hreads, rfl⟩, hc, hall⟩
  | lineStart h => exact fun captures => passIf_follows h
  | lineEnd h => exact fun captures => passIf_follows h
  | textStart h => exact fun captures => passIf_follows h
  | textEnd h => exact fun captures => passIf_follows h
  | wordBoundary h => exact fun captures => passIf_follows h

theorem headsOf_follows {tasks : List Task} {before word after : List Char} {groups : Captures}
    (h : Done tasks before word after groups) : ∀ captures : Captures,
      Follows (headsOf (Place.after before) (.between before (word ++ after)) tasks captures) before word after := by
  induction h with
  | nil => exact fun captures => ⟨captures, List.mem_cons_self⟩
  | @run r rest before u v after gr gs hr hrest ih =>
      intro captures
      have hfirst := heads_follows hr captures
      rw [headsOf, List.append_assoc]
      cases u with
      | nil =>
          obtain ⟨captures', hpassed⟩ := hfirst
          have hsecond := ih captures'
          rw [List.append_nil] at hsecond
          exact hsecond.mono fun o ho => List.mem_flatMap.mpr ⟨_, hpassed, ho⟩
      | cons c u =>
          refine follows_append hfirst hrest ?_
          intro set tasks captures' hreads
          exact List.mem_flatMap.mpr ⟨_, hreads, List.mem_singleton.mpr rfl⟩
  | close hrest ih => exact fun captures => ih _

/-! ### Preferences -/

theorem untilPassed_isSome {captures : Captures} {outcomes : List Outcome} (h : .passed captures ∈ outcomes) :
    (untilPassed outcomes).2.isSome = true := by
  induction outcomes with
  | nil => cases h
  | cons o rest ih =>
      cases o with
      | passed captures' => rfl
      | reads set tasks captures' =>
          rcases List.mem_cons.mp h with heq | h
          · cases heq
          · exact ih h

theorem untilPassed_reads (set : CharSet) (tasks : List Task) (captures : Captures) (more : List Outcome) :
    untilPassed (.reads set tasks captures :: more) =
      (.reads set tasks captures :: (untilPassed more).1, (untilPassed more).2) := rfl

/-- What comes later counts only if nothing is passed before. -/
theorem untilPassed_append (xs ys : List Outcome) : untilPassed (xs ++ ys) =
    if (untilPassed xs).2.isSome then untilPassed xs else (xs ++ (untilPassed ys).1, (untilPassed ys).2) := by
  induction xs with
  | nil => rfl
  | cons o rest ih =>
      cases o with
      | passed captures => rfl
      | reads set tasks captures =>
          rw [List.cons_append, untilPassed_reads, untilPassed_reads, ih]
          by_cases hpassed : (untilPassed rest).2.isSome = true
          · rw [if_pos hpassed, if_pos hpassed]
          · rw [if_neg hpassed, if_neg hpassed]
            rfl

theorem afterReading_concat (c : Char) (xs : List Outcome) (set : CharSet) (tasks : List Task) (captures : Captures) :
    afterReading c (xs ++ [.reads set tasks captures]) =
      if set.mem c && !(afterReading c xs).any (·.tasks == tasks) then afterReading c xs ++ [⟨tasks, captures⟩]
      else afterReading c xs := by
  unfold afterReading
  rw [List.foldl_append]
  rfl

theorem prefix_afterReading (c : Char) (xs ys : List Outcome) : afterReading c xs <+: afterReading c (xs ++ ys) := by
  unfold afterReading
  rw [List.foldl_append]
  refine List.foldlRecOn (motive := fun threads => afterReading c xs <+: threads) ys _ (List.prefix_refl _) ?_
  intro threads hthreads o ho
  cases o with
  | passed captures => exact hthreads
  | reads set tasks captures =>
      simp only []
      split
      · exact hthreads.trans (List.prefix_append _ _)
      · exact hthreads

/-- Whatever can read the character has its tasks in some thread. -/
theorem exists_mem_afterReading {c : Char} {set : CharSet} {tasks : List Task} {captures : Captures}
    {outcomes : List Outcome} (h : .reads set tasks captures ∈ outcomes) (hc : set.mem c = true) :
    ∃ t ∈ afterReading c outcomes, t.tasks = tasks := by
  obtain ⟨xs, ys, rfl⟩ := List.append_of_mem h
  suffices hread : ∃ t ∈ afterReading c (xs ++ [.reads set tasks captures]), t.tasks = tasks by
    obtain ⟨t, ht, htasks⟩ := hread
    refine ⟨t, ?_, htasks⟩
    rw [List.append_cons]
    exact (prefix_afterReading c _ ys).subset ht
  rw [afterReading_concat, hc, Bool.true_and]
  by_cases hold : (afterReading c xs).any (·.tasks == tasks) = true
  · rw [hold]
    obtain ⟨t, ht, htasks⟩ := List.any_eq_true.mp hold
    exact ⟨t, ht, eq_of_beq htasks⟩
  · rw [Bool.not_eq_true] at hold
    rw [hold]
    exact ⟨_, List.mem_append_right _ List.mem_cons_self, rfl⟩

/-! ### Searching -/

variable {r : Regex} {text : List Char} {P : List Char → Prop}

/-- Some way to do the tasks of the thread is ahead. -/
def Thread.Live (before after : List Char) (t : Thread) : Prop :=
  ∃ word rest groups, after = word ++ rest ∧ Done t.tasks before word rest groups

theorem Thread.Live.follows {threads : List Thread} {before after : List Char} {t : Thread} (h : t.Live before after)
    (ht : t ∈ threads) :
    ∃ word rest, after = word ++ rest ∧ Follows (outcomesOf threads before after) before word rest := by
  obtain ⟨word, rest, groups, rfl, hdone⟩ := h
  exact ⟨word, rest, rfl, (headsOf_follows hdone t.captures).mono fun o ho => List.mem_flatMap.mpr ⟨t, ht, ho⟩⟩

section Step

variable {threads olds news : List Thread} {best : Option Match} {before after : List Char}

theorem threadsAt_append (hthreads : olds <+: threads) : ∃ news, threadsAt r threads best = olds ++ news := by
  obtain ⟨more, rfl⟩ := hthreads
  unfold threadsAt
  split
  · exact ⟨more ++ [⟨[.run r], []⟩], List.append_assoc _ _ _⟩
  · exact ⟨more, rfl⟩

theorem outcomesAt_eq (hcrew : threadsAt r threads best = olds ++ news) :
    outcomesAt r threads best before.getLast? after (Place.after before) =
      untilPassed (outcomesOf olds before after ++ outcomesOf news before after) := by
  unfold outcomesAt
  rw [hcrew, List.flatMap_append]
  rfl

/-- A match among the threads that are preferred is the best one, and the other threads are given up. -/
theorem bestAt_of_passed (htext : text = before ++ after) (hcrew : threadsAt r threads best = olds ++ news)
    (holds : ∀ t ∈ olds, t.Sound r P before after)
    (h : (untilPassed (outcomesOf olds before after)).2.isSome = true) :
    (∃ m, bestAt r threads best before.getLast? after (Place.after before) = some m ∧ m.Sound r text P) ∧
      ∀ o ∈ (outcomesAt r threads best before.getLast? after (Place.after before)).1,
        o ∈ outcomesOf olds before after := by
  have hat : outcomesAt r threads best before.getLast? after (Place.after before) =
      untilPassed (outcomesOf olds before after) := by
    rw [outcomesAt_eq hcrew, untilPassed_append, if_pos h]
  obtain ⟨captures, hhit⟩ := Option.isSome_iff_exists.mp h
  obtain ⟨t, ht, hpassed⟩ := List.mem_flatMap.mp ((untilPassed_sound _).2 captures hhit)
  refine ⟨⟨_, ?_, match_of_passed htext (holds t ht) hpassed⟩, ?_⟩
  · unfold bestAt
    rw [hat, hhit]
  · rw [hat]
    exact (untilPassed_sound _).1

/-- As long as they have none, all of these threads go on, before any other. -/
theorem outcomesAt_of_not_passed (hcrew : threadsAt r threads best = olds ++ news)
    (h : ¬(untilPassed (outcomesOf olds before after)).2.isSome = true) :
    outcomesOf olds before after <+: (outcomesAt r threads best before.getLast? after (Place.after before)).1 := by
  rw [outcomesAt_eq hcrew, untilPassed_append, if_neg h]
  exact List.prefix_append _ _

/-- There is still a match if there was one. -/
theorem exists_bestAt (htext : text = before ++ after) (hthreads : ∀ t ∈ threads, t.Sound r P before after)
    {m : Match} (hm : m.Sound r text P) :
    ∃ n, bestAt r threads (some m) before.getLast? after (Place.after before) = some n ∧ n.Sound r text P := by
  have hall : ∀ t ∈ threadsAt r threads (some m), t.Sound r P before after := hthreads
  have hsound := bestAt_sound htext hall (fun m' h => by cases h; exact hm)
  cases hbest : bestAt r threads (some m) before.getLast? after (Place.after before) with
  | some n => exact ⟨n, rfl, hsound n hbest⟩
  | none =>
      unfold bestAt at hbest
      split at hbest
      · cases hbest
      · cases hbest

/-- With a match at hand, the search returns it or goes on. -/
theorem searchFrom_of_bestAt {c : Char} {rest : List Char} {m : Match}
    (hbest : bestAt r threads best before.getLast? (c :: rest) (Place.after before) = some m) (hm : m.Sound r text P)
    (hnext : ∃ n, searchFrom r
      (afterReading c (outcomesAt r threads best before.getLast? (c :: rest) (Place.after before)).1) (some m)
        (before ++ [c]).getLast? rest (Place.after (before ++ [c])) = some n ∧ n.Sound r text P) :
    ∃ n, searchFrom r threads best before.getLast? (c :: rest) (Place.after before) = some n ∧ n.Sound r text P := by
  rw [searchFrom_cons, hbest]
  split
  · exact ⟨m, rfl, hm⟩
  · rw [List.getLast?_concat, Place.after_concat] at hnext
    exact hnext

end Step

/-- A match that is known stays, or gives way to another one of the threads that are left. -/
theorem searchFrom_of_best : ∀ (after before : List Char) (threads : List Thread) (m : Match), text = before ++ after →
    (∀ t ∈ threads, t.Sound r P before after) → m.Sound r text P →
    ∃ n, searchFrom r threads (some m) before.getLast? after (Place.after before) = some n ∧ n.Sound r text P := by
  intro after
  induction after with
  | nil => exact fun before threads m htext hthreads hm => exists_bestAt htext hthreads hm
  | cons c rest ih =>
      intro before threads m htext hthreads hm
      obtain ⟨n, hbest, hn⟩ := exists_bestAt htext hthreads hm
      have hall : ∀ t ∈ threadsAt r threads (some m), t.Sound r P before (c :: rest) := hthreads
      have hsplit : text = before ++ [c] ++ rest := by rw [htext, List.append_assoc]; rfl
      exact searchFrom_of_bestAt hbest hn (ih _ _ n hsplit (afterReading_sound hall mem_outcomesOf_of_outcomesAt) hn)

/-- A thread that has a match ahead and began early enough leads to a match that did, whatever threads there are
behind it. -/
theorem searchFrom_of_live : ∀ (after before : List Char) (threads olds news : List Thread) (best : Option Match),
    text = before ++ after → threadsAt r threads best = olds ++ news → (∀ t ∈ olds, t.Sound r P before after) →
    (∃ t ∈ olds, t.Live before after) →
    ∃ n, searchFrom r threads best before.getLast? after (Place.after before) = some n ∧ n.Sound r text P := by
  intro after
  induction after with
  | nil =>
      rintro before threads olds news best htext hcrew holds ⟨t, ht, hlive⟩
      obtain ⟨word, rest, hword, hfollows⟩ := hlive.follows ht
      rw [(List.append_eq_nil_iff.mp hword.symm).1] at hfollows
      obtain ⟨captures, hpassed⟩ := hfollows
      exact (bestAt_of_passed htext hcrew holds (untilPassed_isSome hpassed)).1
  | cons c rest ih =>
      rintro before threads olds news best htext hcrew holds ⟨t, ht, hlive⟩
      have hsplit : text = before ++ [c] ++ rest := by rw [htext, List.append_assoc]; rfl
      by_cases hpassed : (untilPassed (outcomesOf olds before (c :: rest))).2.isSome = true
      · obtain ⟨⟨m, hbest, hm⟩, hout⟩ := bestAt_of_passed htext hcrew holds hpassed
        exact searchFrom_of_bestAt hbest hm (searchFrom_of_best _ _ _ m hsplit (afterReading_sound holds hout) hm)
      · obtain ⟨word, more, hword, hfollows⟩ := hlive.follows ht
        cases word with
        | nil =>
            obtain ⟨captures, hend⟩ := hfollows
            exact absurd (untilPassed_isSome hend) hpassed
        | cons d word =>
            rw [List.cons_append, List.cons.injEq] at hword
            obtain ⟨rfl, rfl⟩ := hword
            obtain ⟨set, tasks, captures, groups, hreads, hc, hdone⟩ := hfollows
            -- The thread goes on, or another one with the same tasks does.
            obtain ⟨u, hu, rfl⟩ := exists_mem_afterReading hreads hc
            obtain ⟨later, hlater⟩ := outcomesAt_of_not_passed hcrew hpassed
            have hfirst := prefix_afterReading c (outcomesOf olds before (c :: (word ++ more))) later
            rw [hlater] at hfirst
            obtain ⟨others, hothers⟩ := threadsAt_append hfirst
            have hnext := ih (before ++ [c]) _ _ others _ hsplit hothers
              (afterReading_sound holds fun o ho => ho) ⟨u, hu, word, more, groups, rfl, hdone⟩
            rw [List.getLast?_concat, Place.after_concat] at hnext
            rw [searchFrom_cons, if_neg]
            · exact hnext
            · intro hempty
              rw [Bool.and_eq_true, List.isEmpty_iff] at hempty
              have hmem := hfirst.subset hu
              rw [hempty.1] at hmem
              cases hmem

/-- Up to where a match begins, all threads begin early enough, and then there is one that has the match ahead. -/
theorem searchFrom_of_matches {word rest : List Char} {groups : Captures} : ∀ (gap before : List Char)
    (threads : List Thread), text = before ++ (gap ++ (word ++ rest)) →
    (∀ u, before <+: u → u <+: before ++ gap → P u) →
    (∀ t ∈ threads, t.Sound r P before (gap ++ (word ++ rest))) → Matches r (before ++ gap) word rest groups →
    ∃ n, searchFrom r threads none before.getLast? (gap ++ (word ++ rest)) (Place.after before) = some n ∧
      n.Sound r text P := by
  intro gap
  induction gap with
  | nil =>
      intro before threads htext hP hthreads hmatch
      rw [List.append_nil] at hP hmatch
      have hall := threadsAt_sound none (hP before (List.prefix_refl _) (List.prefix_refl _)) hthreads
      refine searchFrom_of_live _ before threads _ [] none htext (List.append_nil _).symm hall ?_
      have hlive : Thread.Live before (word ++ rest) ⟨[.run r], []⟩ :=
        ⟨word, rest, groups, rfl, done_of_matches hmatch⟩
      exact ⟨_, List.mem_append_right _ List.mem_cons_self, hlive⟩
  | cons c gap ih =>
      intro before threads htext hP hthreads hmatch
      have hsplit : text = before ++ [c] ++ (gap ++ (word ++ rest)) := by rw [htext, List.append_assoc]; rfl
      have hall := threadsAt_sound none (hP before (List.prefix_refl _) (List.prefix_append _ _)) hthreads
      have hsound := bestAt_sound htext hall (fun m h => by cases h)
      have hnext := afterReading_sound hall mem_outcomesOf_of_outcomesAt
      rw [List.cons_append]
      cases hbest : bestAt r threads none before.getLast? (c :: (gap ++ (word ++ rest))) (Place.after before) with
      | some m =>
          have hm := hsound m hbest
          exact searchFrom_of_bestAt hbest hm (searchFrom_of_best _ _ _ m hsplit hnext hm)
      | none =>
          rw [searchFrom_cons, hbest, Option.isSome_none, Bool.and_false, if_neg Bool.false_ne_true]
          rw [List.append_cons] at hP hmatch
          have hrest := ih (before ++ [c]) _ hsplit
            (fun u hu => hP u ((List.prefix_append _ _).trans hu)) hnext hmatch
          rw [List.getLast?_concat, Place.after_concat] at hrest
          exact hrest

/-- **A search finds a match if there is one**, and none that begins later. -/
theorem search_leftmost {before gap word rest : List Char} {groups : Captures} {c : Cursor}
    (hplace : c.place = Place.after before) (hrest : c.rest = gap ++ (word ++ rest))
    (hmatch : Matches r (before ++ gap) word rest groups) :
    ∃ m, r.search before.getLast? c = some m ∧
      m.Sound r (before ++ c.rest) fun u => before <+: u ∧ u <+: before ++ gap := by
  unfold search
  rw [hplace, hrest]
  exact searchFrom_of_matches gap before [] rfl (fun u hu hu' => ⟨hu, hu'⟩) (fun t ht => absurd ht List.not_mem_nil)
    hmatch

theorem leftmost_of_search {before gap word rest : List Char} {groups : Captures} {c : Cursor} {m : Match}
    (hm : r.search before.getLast? c = some m) (hplace : c.place = Place.after before)
    (hrest : c.rest = gap ++ (word ++ rest)) (hmatch : Matches r (before ++ gap) word rest groups) :
    m.Sound r (before ++ c.rest) fun u => before <+: u ∧ u <+: before ++ gap := by
  obtain ⟨n, hn, hsound⟩ := search_leftmost hplace hrest hmatch
  rw [hm] at hn
  cases hn
  exact hsound

/-! ### All matches -/

/-- The match begins at or before the end of `u` and goes on after it. -/
def Match.Overlaps (r : Regex) (text u : List Char) (m : Match) : Prop :=
  ∃ start word, text = start ++ word ++ m.stop.rest ∧ Matches r start word m.stop.rest m.captures ∧
    start <+: u ∧ u.length < (start ++ word).length

/-- After a match of an expression that is not matched by nothing, less is left to read. -/
theorem Match.Sound.shorter {before rest : List Char} {Q : List Char → Prop} {m : Match} (hr : r.nullable = false)
    (h : m.Sound r (before ++ rest) fun u => before <+: u ∧ Q u) : m.stop.rest.length < rest.length := by
  obtain ⟨start, word, htext, ⟨hstart, -⟩, hmatch, -⟩ := h
  have hword : word ≠ [] := by
    intro hnil
    rw [hmatch.nullable hnil] at hr
    cases hr
  have hlengths := congrArg List.length htext
  rw [List.length_append, List.length_append, List.length_append] at hlengths
  have hbefore := hstart.length_le
  have hpositive := List.length_pos_iff.mpr hword
  omega

/-- Wherever the expression matches from here on, one of the matches that are found overlaps. -/
theorem matchesFrom_overlaps (hr : r.nullable = false) {word rest : List Char} {groups : Captures} {b : Option Char}
    {c : Cursor} (before gap : List Char) (hb : b = before.getLast?) (hplace : c.place = Place.after before)
    (hrest : c.rest = gap ++ (word ++ rest)) (hmatch : Matches r (before ++ gap) word rest groups) :
    ∃ m ∈ r.matchesFrom b c, m.Overlaps r (before ++ c.rest) (before ++ gap) := by
  fun_induction matchesFrom r b c generalizing before gap with
  | case1 b c hnone =>
      subst hb
      obtain ⟨n, hn, -⟩ := search_leftmost hplace hrest hmatch
      rw [hnone] at hn
      cases hn
  | case2 b c m hm hshorter ih =>
      subst hb
      obtain ⟨start, found, htext, ⟨-, hstart⟩, hfound, hstop, hlast⟩ := leftmost_of_search hm hplace hrest hmatch
      by_cases hlong : (before ++ gap).length < (start ++ found).length
      · exact ⟨m, List.mem_cons_self, start, found, htext, hfound, hstart, hlong⟩
      · -- It ends before the one in question begins, which is then still ahead.
        have hsplit : before ++ c.rest = before ++ gap ++ (word ++ rest) := by rw [hrest, List.append_assoc]
        obtain ⟨gap', hgap⟩ : start ++ found <+: before ++ gap :=
          List.prefix_of_prefix_length_le ⟨_, htext.symm⟩ ⟨_, hsplit.symm⟩ (Nat.le_of_not_lt hlong)
        rw [htext, ← hgap, List.append_assoc (start ++ found)] at hsplit
        rw [← hgap] at hmatch
        obtain ⟨n, hn, hoverlaps⟩ := ih (start ++ found) gap' hlast hstop (List.append_cancel_left hsplit) hmatch
        rw [← htext, hgap] at hoverlaps
        exact ⟨n, List.mem_cons_of_mem _ hn, hoverlaps⟩
  | case3 b c m hm hsame hend =>
      subst hb
      exact absurd ((leftmost_of_search hm hplace hrest hmatch).shorter hr) hsame
  | case4 b c m hm hsame x more hmore ih =>
      subst hb
      exact absurd ((leftmost_of_search hm hplace hrest hmatch).shorter hr) hsame

/-- **No match is missed**: wherever the expression matches, one of the matches that are found begins there or before
and goes on after that. -/
theorem allMatches_overlaps (hr : r.nullable = false) {text : String} {before word after : List Char}
    {groups : Captures} (htext : text.toList = before ++ word ++ after) (hmatch : Matches r before word after groups) :
    ∃ m ∈ r.allMatches text, m.Overlaps r text.toList before := by
  rw [List.append_assoc] at htext
  exact matchesFrom_overlaps hr [] before rfl rfl htext hmatch

end Regex
end CodeAtlas

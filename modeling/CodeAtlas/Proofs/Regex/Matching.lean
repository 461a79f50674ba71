/-
What a search for an expression finds.

`Matches` says, with no regard to how it is found out, that an expression matches a
word between what comes before and after it, and which stretches its groups matched.
It is read off the expression: one rule for each way to build one.

A search follows all ways to match side by side and knows of each only what is left to
do, a list of tasks.  `Done` gives such a list its meaning.  The argument is then that
of one step: whatever `heads` says can be begun with, if it is brought to an end, is a
match, `heads_sound`.  A thread that is under way has read something that goes on to a
match if its tasks are done (`Thread.Sound`), reading a character keeps that, and so a
search that ends with a match has found one, `search_sound`.

Preferences do not matter for this.  They decide which match is found, and nothing here
depends on it.
-/
import CodeAtlas.Proofs.Text.Places
import CodeAtlas.Regex.Search

namespace CodeAtlas.Regex

open CodeAtlas.Text

/-- The characters next to the place between two parts of a text. -/
def Around.between (before after : List Char) : Around :=
  ⟨before.getLast?, after.head?⟩

/-- The expression matches the word that stands between `before` and `after`, and these are the stretches that its
groups matched, the last one first. -/
inductive Matches : Regex → (before word after : List Char) → Captures → Prop
  | empty {before after} : Matches .empty before [] after []
  | chars {set : CharSet} {before c after} (h : set.mem c = true) : Matches (.chars set) before [c] after []
  | seq {a b before u v after ga gb} (ha : Matches a before u (v ++ after) ga)
      (hb : Matches b (before ++ u) v after gb) : Matches (.seq a b) before (u ++ v) after (gb ++ ga)
  | altLeft {a b before word after groups} (h : Matches a before word after groups) :
      Matches (.alt a b) before word after groups
  | altRight {a b before word after groups} (h : Matches b before word after groups) :
      Matches (.alt a b) before word after groups
  | starNil {a lazy before after} : Matches (.star a lazy) before [] after []
  | starCons {a lazy before u v after ga gs} (ha : Matches a before u (v ++ after) ga)
      (hs : Matches (.star a lazy) (before ++ u) v after gs) :
      Matches (.star a lazy) before (u ++ v) after (gs ++ ga)
  | group {name a before word after groups} (h : Matches a before word after groups) :
      Matches (.group name a) before word after
        ((name, ⟨Place.after before, Place.after (before ++ word)⟩) :: groups)
  | lineStart {before after} (h : (Around.between before after).atLineStart = true) :
      Matches .lineStart before [] after []
  | lineEnd {before after} (h : (Around.between before after).atLineEnd = true) : Matches .lineEnd before [] after []
  | textStart {before after} (h : (Around.between before after).before.isNone = true) :
      Matches .textStart before [] after []
  | textEnd {before after} (h : (Around.between before after).after.isNone = true) :
      Matches .textEnd before [] after []
  | wordBoundary {before after} (h : (Around.between before after).atWordEdge = true) :
      Matches .wordBoundary before [] after []

/-! ### Groups -/

/-- The stretch `s` covers a part of the word that stands after `before`. -/
def Covers (before word : List Char) (s : Span) : Prop :=
  ∃ u v w, word = u ++ v ++ w ∧ s = ⟨Place.after (before ++ u), Place.after (before ++ u ++ v)⟩

theorem covers_whole (before word : List Char) :
    Covers before word ⟨Place.after before, Place.after (before ++ word)⟩ :=
  ⟨[], word, [], by simp, by simp⟩

theorem Covers.append_right {before u : List Char} {s : Span} (h : Covers before u s) (v : List Char) :
    Covers before (u ++ v) s := by
  obtain ⟨x, y, z, rfl, rfl⟩ := h
  exact ⟨x, y, z ++ v, by simp, rfl⟩

theorem Covers.append_left {before u v : List Char} {s : Span} (h : Covers (before ++ u) v s) :
    Covers before (u ++ v) s := by
  obtain ⟨x, y, z, rfl, rfl⟩ := h
  exact ⟨u ++ x, y, z, by simp, by simp⟩

/-- **Groups match within the word** that the expression matches. -/
theorem Matches.covers {r : Regex} {before word after : List Char} {groups : Captures}
    (h : Matches r before word after groups) : ∀ g ∈ groups, Covers before word g.2 := by
  induction h with
  | empty | chars | starNil | lineStart | lineEnd | textStart | textEnd | wordBoundary =>
      intro g hg
      cases hg
  | seq _ _ iha ihb | starCons _ _ iha ihb =>
      intro g hg
      rcases List.mem_append.mp hg with hg | hg
      · exact (ihb g hg).append_left
      · exact (iha g hg).append_right _
  | altLeft _ ih | altRight _ ih => exact ih
  | group _ ih =>
      intro g hg
      rcases List.mem_cons.mp hg with rfl | hg
      · exact covers_whole _ _
      · exact ih g hg

theorem Covers.start_ge {before word : List Char} {s : Span} (h : Covers before word s) :
    (Place.after before).offset ≤ s.start.offset := by
  obtain ⟨u, v, w, -, rfl⟩ := h
  exact Place.offset_le_of_prefix ⟨u, rfl⟩

theorem Covers.stop_le {before word : List Char} {s : Span} (h : Covers before word s) :
    s.stop.offset ≤ (Place.after (before ++ word)).offset := by
  obtain ⟨u, v, w, rfl, rfl⟩ := h
  exact Place.offset_le_of_prefix ⟨w, by simp⟩

/-- Whether every match of the expression has a group of the given name. -/
def sets (name : String) : Regex → Bool
  | .seq a b => a.sets name || b.sets name
  | .alt a b => a.sets name && b.sets name
  | .group n a => n == name || a.sets name
  | _ => false

theorem Matches.exists_group {name : String} {r : Regex} {before word after : List Char} {groups : Captures}
    (h : Matches r before word after groups) (hsets : r.sets name = true) : ∃ s, (name, s) ∈ groups := by
  induction h with
  | empty | chars | starNil | starCons | lineStart | lineEnd | textStart | textEnd | wordBoundary =>
      simp [sets] at hsets
  | seq _ _ iha ihb =>
      rw [sets, Bool.or_eq_true] at hsets
      rcases hsets with ha | hb
      · obtain ⟨s, hs⟩ := iha ha
        exact ⟨s, List.mem_append_right _ hs⟩
      · obtain ⟨s, hs⟩ := ihb hb
        exact ⟨s, List.mem_append_left _ hs⟩
  | altLeft _ ih =>
      rw [sets, Bool.and_eq_true] at hsets
      exact ih hsets.1
  | altRight _ ih =>
      rw [sets, Bool.and_eq_true] at hsets
      exact ih hsets.2
  | group _ ih =>
      rw [sets, Bool.or_eq_true, beq_iff_eq] at hsets
      rcases hsets with rfl | ha
      · exact ⟨_, List.mem_cons_self⟩
      · obtain ⟨s, hs⟩ := ih ha
        exact ⟨s, List.mem_cons_of_mem _ hs⟩

/-! ### Repetitions of single characters -/

/-- A repetition of single characters matches only members of their set. -/
theorem Matches.star_chars {set : CharSet} {lazy : Bool} {r : Regex} {before word after : List Char}
    {groups : Captures} (h : Matches r before word after groups) (hr : r = .star (.chars set) lazy) :
    (∀ c ∈ word, set.mem c = true) ∧ groups = [] := by
  induction h with
  | starNil => exact ⟨fun c hc => absurd hc List.not_mem_nil, rfl⟩
  | starCons ha hs iha ihs =>
      cases hr
      obtain ⟨hword, hgroups⟩ := ihs rfl
      cases ha with
      | chars hmem =>
          rw [hgroups]
          exact ⟨List.forall_mem_append.mpr ⟨List.forall_mem_singleton.mpr hmem, hword⟩, rfl⟩
  | _ => cases hr

theorem matches_star_chars {set : CharSet} {lazy : Bool} {word : List Char} (h : ∀ c ∈ word, set.mem c = true) :
    ∀ before after : List Char, Matches (.star (.chars set) lazy) before word after [] := by
  induction word with
  | nil => exact fun _ _ => .starNil
  | cons c rest ih =>
      intro before after
      rw [List.forall_mem_cons] at h
      exact .starCons (u := [c]) (.chars h.1) (ih h.2 (before ++ [c]) after)

/-! ### Tasks -/

/-- The tasks are done by the word that stands between `before` and `after`. -/
inductive Done : List Task → (before word after : List Char) → Captures → Prop
  | nil {before after} : Done [] before [] after []
  | run {r rest before u v after gr gs} (hr : Matches r before u (v ++ after) gr)
      (hrest : Done rest (before ++ u) v after gs) : Done (.run r :: rest) before (u ++ v) after (gs ++ gr)
  | close {name start rest before word after groups} (hrest : Done rest before word after groups) :
      Done (.close name start :: rest) before word after (groups ++ [(name, ⟨start, Place.after before⟩)])

/-- One thing is done by the first part of a word and another one by the rest. -/
def Then (first second : List Char → List Char → List Char → Captures → Prop) (before word after : List Char)
    (groups : Captures) : Prop :=
  ∃ u v gu gv, word = u ++ v ∧ groups = gv ++ gu ∧ first before u (v ++ after) gu ∧ second (before ++ u) v after gv

theorem done_append {rest more : List Task} {before word after : List Char} {groups : Captures}
    (h : Done (rest ++ more) before word after groups) : Then (Done rest) (Done more) before word after groups := by
  induction rest generalizing before word groups with
  | nil => exact ⟨[], word, [], groups, rfl, (List.append_nil _).symm, .nil, by simpa using h⟩
  | cons t rest ih =>
      cases h with
      | run hr hrest =>
          obtain ⟨u, v, gu, gv, rfl, rfl, hu, hv⟩ := ih hrest
          refine ⟨_, v, _, gv, (List.append_assoc _ u v).symm, List.append_assoc gv gu _, .run (v := u) ?_ hu, ?_⟩
          · simpa using hr
          · simpa using hv
      | close hrest =>
          obtain ⟨u, v, gu, gv, rfl, rfl, hu, hv⟩ := ih hrest
          exact ⟨u, v, _, gv, rfl, List.append_assoc gv gu _, .close hu, hv⟩

theorem done_single {r : Regex} {before word after : List Char} {groups : Captures}
    (h : Done [.run r] before word after groups) : Matches r before word after groups := by
  cases h with
  | run hr hrest =>
      cases hrest with
      | nil => simpa using hr

/-! ### One step -/

/-- An outcome that is brought to an end does what `goal` says: at once, or by the character that is read and the
tasks that are left. -/
def Outcome.Sound (goal : List Char → List Char → List Char → Captures → Prop) (before after : List Char)
    (captures : Captures) : Outcome → Prop
  | .passed captures' => ∃ groups, captures' = groups ++ captures ∧ goal before [] after groups
  | .reads set tasks captures' => ∃ seen, captures' = seen ++ captures ∧ ∀ c word rest groups,
      after = c :: (word ++ rest) → set.mem c = true → Done tasks (before ++ [c]) word rest groups →
        goal before (c :: word) rest (groups ++ seen)

theorem Outcome.Sound.imp {goal goal' : List Char → List Char → List Char → Captures → Prop} {before after : List Char}
    {captures : Captures} {o : Outcome} (h : o.Sound goal before after captures)
    (himp : ∀ word rest groups, goal before word rest groups → goal' before word rest groups) :
    o.Sound goal' before after captures := by
  cases o with
  | passed captures' =>
      obtain ⟨groups, hc, hgoal⟩ := h
      exact ⟨groups, hc, himp _ _ _ hgoal⟩
  | reads set tasks captures' =>
      obtain ⟨seen, hc, hgoal⟩ := h
      refine ⟨seen, hc, ?_⟩
      intro c word rest groups hafter hmem hdone
      exact himp _ _ _ (hgoal c word rest groups hafter hmem hdone)

/-- What comes after something that needs no character. -/
theorem Outcome.Sound.after_passed {first second : List Char → List Char → List Char → Captures → Prop}
    {before after : List Char} {captures captures' : Captures} {o : Outcome}
    (h : (Outcome.passed captures').Sound first before after captures)
    (ho : o.Sound second before after captures') : o.Sound (Then first second) before after captures := by
  obtain ⟨gu, rfl, hfirst⟩ := h
  cases o with
  | passed captures' =>
      obtain ⟨gv, rfl, hsecond⟩ := ho
      exact ⟨gv ++ gu, (List.append_assoc _ _ _).symm, [], [], gu, gv, rfl, rfl, hfirst, by simpa using hsecond⟩
  | reads set tasks captures' =>
      obtain ⟨seen, rfl, hsecond⟩ := ho
      refine ⟨seen ++ gu, (List.append_assoc _ _ _).symm, ?_⟩
      intro c word rest groups hafter hmem hdone
      refine ⟨[], c :: word, gu, groups ++ seen, rfl, (List.append_assoc _ _ _).symm, ?_, ?_⟩
      · rw [List.cons_append, ← hafter]
        exact hfirst
      · rw [List.append_nil]
        exact hsecond c word rest groups hafter hmem hdone

/-- What comes after something that has to read first. -/
theorem Outcome.Sound.after_reads {goal : List Char → List Char → List Char → Captures → Prop}
    {before after : List Char} {captures captures' : Captures} {set : CharSet} {tasks : List Task}
    (h : (Outcome.reads set tasks captures').Sound goal before after captures) (more : List Task) :
    (Outcome.reads set (tasks ++ more) captures').Sound (Then goal (Done more)) before after captures := by
  obtain ⟨seen, rfl, hgoal⟩ := h
  refine ⟨seen, rfl, ?_⟩
  intro c word rest groups hafter hmem hdone
  obtain ⟨u, v, gu, gv, rfl, rfl, hu, hv⟩ := done_append hdone
  refine ⟨c :: u, v, gu ++ seen, gv, rfl, List.append_assoc _ _ _, ?_, ?_⟩
  · exact hgoal c u (v ++ rest) gu (by rw [hafter, List.append_assoc]) hmem hu
  · simpa using hv

theorem passIf_sound {goal : List Char → List Char → List Char → Captures → Prop} {before after : List Char}
    {condition : Bool} {captures : Captures} {o : Outcome} (ho : o ∈ passIf condition captures)
    (h : condition = true → goal before [] after []) : o.Sound goal before after captures := by
  unfold passIf at ho
  split at ho
  · next hcondition =>
    rw [List.mem_singleton.mp ho]
    exact ⟨[], rfl, h hcondition⟩
  · cases ho

/-- **Whatever an expression can be begun with leads to a match of it.** -/
theorem heads_sound {before after : List Char} : ∀ (r : Regex) (captures : Captures) (o : Outcome),
    o ∈ heads (Place.after before) (.between before after) r captures →
      o.Sound (Matches r) before after captures := by
  intro r
  induction r with
  | never =>
      intro captures o ho
      cases ho
  | empty =>
      intro captures o ho
      rw [heads, List.mem_singleton] at ho
      rw [ho]
      exact ⟨[], rfl, .empty⟩
  | chars set =>
      intro captures o ho
      rw [heads, List.mem_singleton] at ho
      rw [ho]
      refine ⟨[], rfl, ?_⟩
      intro c word rest groups _ hmem hdone
      cases hdone
      exact .chars hmem
  | seq a b iha ihb =>
      intro captures o ho
      rw [heads, List.mem_flatMap] at ho
      obtain ⟨p, hp, ho⟩ := ho
      have hseq : ∀ word rest groups, Then (Matches a) (Matches b) before word rest groups →
          Matches (.seq a b) before word rest groups := by
        rintro _ rest _ ⟨u, v, gu, gv, rfl, rfl, hu, hv⟩
        exact .seq hu hv
      cases p with
      | passed captures' => exact ((iha _ _ hp).after_passed (ihb _ _ ho)).imp hseq
      | reads set tasks captures' =>
          rw [List.mem_singleton.mp ho]
          refine ((iha _ _ hp).after_reads [.run b]).imp fun word rest groups h => hseq word rest groups ?_
          obtain ⟨u, v, gu, gv, hword, hgroups, hu, hv⟩ := h
          exact ⟨u, v, gu, gv, hword, hgroups, hu, done_single hv⟩
  | alt a b iha ihb =>
      intro captures o ho
      rw [heads, List.mem_append] at ho
      rcases ho with ho | ho
      · exact (iha _ _ ho).imp fun _ _ _ => .altLeft
      · exact (ihb _ _ ho).imp fun _ _ _ => .altRight
  | star a lazy ih =>
      intro captures o ho
      have hagain : ∀ p ∈ ((heads (Place.after before) (.between before after) a captures).filter
          Outcome.isReads).map (Outcome.before [.run (.star a lazy)]),
          p.Sound (Matches (.star a lazy)) before after captures := by
        intro p hp
        obtain ⟨q, hq, rfl⟩ := List.mem_map.mp hp
        obtain ⟨hq, hreads⟩ := List.mem_filter.mp hq
        cases q with
        | passed captures' => cases hreads
        | reads set tasks captures' =>
            refine ((ih _ _ hq).after_reads [.run (.star a lazy)]).imp ?_
            rintro _ rest _ ⟨u, v, gu, gv, rfl, rfl, hu, hv⟩
            exact .starCons hu (done_single hv)
      have hnone : (Outcome.passed captures).Sound (Matches (.star a lazy)) before after captures :=
        ⟨[], rfl, .starNil⟩
      rw [heads] at ho
      cases lazy with
      | true =>
          rcases List.mem_cons.mp ho with rfl | ho
          · exact hnone
          · exact hagain o ho
      | false =>
          rcases List.mem_append.mp ho with ho | ho
          · exact hagain o ho
          · rw [List.mem_singleton.mp ho]
            exact hnone
  | group name a ih =>
      intro captures o ho
      rw [heads, List.mem_map] at ho
      obtain ⟨p, hp, rfl⟩ := ho
      have hp := ih _ _ hp
      cases p with
      | passed captures' =>
          obtain ⟨groups, rfl, hmatch⟩ := hp
          have hgroup : Matches (.group name a) before [] after _ := .group hmatch
          rw [List.append_nil] at hgroup
          exact ⟨_, rfl, hgroup⟩
      | reads set tasks captures' =>
          obtain ⟨seen, rfl, hgoal⟩ := hp.after_reads [.close name (Place.after before)]
          refine ⟨seen, rfl, ?_⟩
          intro c word rest groups hafter hmem hdone
          obtain ⟨u, v, gu, gv, hword, hgroups, hu, hv⟩ := hgoal c word rest groups hafter hmem hdone
          cases hv with
          | close hrest =>
              cases hrest
              rw [List.append_nil] at hword
              rw [hgroups, hword]
              exact .group hu
  | lineStart => exact fun _ _ ho => passIf_sound ho .lineStart
  | lineEnd => exact fun _ _ ho => passIf_sound ho .lineEnd
  | textStart => exact fun _ _ ho => passIf_sound ho .textStart
  | textEnd => exact fun _ _ ho => passIf_sound ho .textEnd
  | wordBoundary => exact fun _ _ ho => passIf_sound ho .wordBoundary

theorem headsOf_sound {before after : List Char} : ∀ (tasks : List Task) (captures : Captures) (o : Outcome),
    o ∈ headsOf (Place.after before) (.between before after) tasks captures →
      o.Sound (Done tasks) before after captures := by
  intro tasks
  induction tasks with
  | nil =>
      intro captures o ho
      rw [headsOf, List.mem_singleton] at ho
      rw [ho]
      exact ⟨[], rfl, .nil⟩
  | cons t rest ih =>
      intro captures o ho
      cases t with
      | close name start =>
          rw [headsOf] at ho
          have hgroup : (Outcome.passed ((name, ⟨start, Place.after before⟩) :: captures)).Sound
              (fun b word _ groups => word = [] ∧ groups = [(name, ⟨start, Place.after b⟩)]) before after captures :=
            ⟨[_], rfl, rfl, rfl⟩
          refine (hgroup.after_passed (ih _ _ ho)).imp ?_
          rintro _ more _ ⟨u, v, gu, gv, rfl, rfl, ⟨rfl, rfl⟩, hv⟩
          rw [List.append_nil] at hv
          exact .close hv
      | run r =>
          rw [headsOf, List.mem_flatMap] at ho
          obtain ⟨p, hp, ho⟩ := ho
          have hrun : ∀ word more groups, Then (Matches r) (Done rest) before word more groups →
              Done (.run r :: rest) before word more groups := by
            rintro _ more _ ⟨u, v, gu, gv, rfl, rfl, hu, hv⟩
            exact .run hu hv
          have hp := heads_sound r _ _ hp
          cases p with
          | passed captures' => exact (hp.after_passed (ih _ _ ho)).imp hrun
          | reads set tasks captures' =>
              rw [List.mem_singleton.mp ho]
              exact (hp.after_reads rest).imp hrun

/-! ### Searching -/

variable {r : Regex} {text : List Char} {P : List Char → Prop}

/-- A thread has read something that goes on to a match if its tasks are done, and what stands before it is as `P`
says. -/
def Thread.Sound (r : Regex) (P : List Char → Prop) (before after : List Char) (t : Thread) : Prop :=
  ∀ word rest groups, after = word ++ rest → Done t.tasks before word rest groups →
    ∃ start begun, before = start ++ begun ∧ P start ∧ Matches r start (begun ++ word) rest (groups ++ t.captures)

/-- The match stands in the text, and what stands before it is as `P` says. -/
def Match.Sound (r : Regex) (text : List Char) (P : List Char → Prop) (m : Match) : Prop :=
  ∃ start word, text = start ++ word ++ m.stop.rest ∧ P start ∧ Matches r start word m.stop.rest m.captures ∧
    m.stop.place = Place.after (start ++ word) ∧ m.last = (start ++ word).getLast?

theorem thread_start_sound {before after : List Char} (h : P before) :
    Thread.Sound r P before after ⟨[.run r], []⟩ := by
  intro word rest groups _ hdone
  refine ⟨before, [], (List.append_nil _).symm, h, ?_⟩
  rw [List.append_nil]
  exact done_single hdone

theorem untilPassed_sound : ∀ outcomes : List Outcome, (∀ o ∈ (untilPassed outcomes).1, o ∈ outcomes) ∧
    ∀ captures, (untilPassed outcomes).2 = some captures → .passed captures ∈ outcomes := by
  intro outcomes
  induction outcomes with
  | nil => exact ⟨fun o ho => ho, fun captures h => by cases h⟩
  | cons o rest ih =>
      cases o with
      | passed captures =>
          refine ⟨fun o ho => absurd ho List.not_mem_nil, ?_⟩
          intro captures' h
          cases h
          exact List.mem_cons_self
      | reads set tasks captures =>
          refine ⟨?_, fun captures' h => List.mem_cons_of_mem _ (ih.2 captures' h)⟩
          intro o ho
          rcases List.mem_cons.mp ho with rfl | ho
          · exact List.mem_cons_self
          · exact List.mem_cons_of_mem _ (ih.1 o ho)

theorem mem_afterReading {c : Char} {t : Thread} {outcomes : List Outcome} (h : t ∈ afterReading c outcomes) :
    ∃ set, .reads set t.tasks t.captures ∈ outcomes ∧ set.mem c = true := by
  refine List.foldlRecOn (motive := fun threads => ∀ t ∈ threads,
    ∃ set, .reads set t.tasks t.captures ∈ outcomes ∧ set.mem c = true) outcomes _ ?_ ?_ t h
  · intro t ht
    cases ht
  · intro threads hthreads o ho t ht
    cases o with
    | passed captures => exact hthreads t ht
    | reads set tasks captures =>
        simp only [] at ht
        split at ht
        · next hread =>
          rcases List.mem_append.mp ht with ht | ht
          · exact hthreads t ht
          · rw [Bool.and_eq_true] at hread
            rw [List.mem_singleton.mp ht]
            exact ⟨set, ho, hread.1⟩
        · exact hthreads t ht

/-- An outcome of a sound thread that is a whole match. -/
theorem match_of_passed {before after : List Char} {t : Thread} {captures : Captures} (htext : text = before ++ after)
    (ht : t.Sound r P before after)
    (h : .passed captures ∈ headsOf (Place.after before) (.between before after) t.tasks t.captures) :
    Match.Sound r text P ⟨captures, ⟨after, Place.after before⟩, before.getLast?⟩ := by
  obtain ⟨groups, rfl, hdone⟩ := headsOf_sound _ _ _ h
  obtain ⟨start, begun, rfl, hstart, hmatch⟩ := ht [] after groups rfl hdone
  rw [List.append_nil] at hmatch
  exact ⟨start, begun, htext, hstart, hmatch, rfl, rfl⟩

/-- An outcome of a sound thread that reads the next character leads to a sound thread. -/
theorem thread_of_reads {before rest : List Char} {c : Char} {t u : Thread} {set : CharSet}
    (ht : t.Sound r P before (c :: rest)) (hc : set.mem c = true)
    (h : .reads set u.tasks u.captures ∈
      headsOf (Place.after before) (.between before (c :: rest)) t.tasks t.captures) :
    u.Sound r P (before ++ [c]) rest := by
  obtain ⟨seen, hcaptures, hgoal⟩ := headsOf_sound _ _ _ h
  intro word more groups hrest hdone
  have hafter : c :: rest = c :: (word ++ more) := by rw [hrest]
  obtain ⟨start, begun, hbefore, hstart, hmatch⟩ :=
    ht (c :: word) more _ hafter (hgoal c word more groups hafter hc hdone)
  refine ⟨start, begun ++ [c], by rw [hbefore, List.append_assoc], hstart, ?_⟩
  rw [hcaptures]
  simpa using hmatch

/-- The threads at a place: those that are under way, and a new one as long as there is no match. -/
def threadsAt (r : Regex) (threads : List Thread) (best : Option Match) : List Thread :=
  if best.isNone then threads ++ [⟨[.run r], []⟩] else threads

/-- What threads can do at a place. -/
def outcomesOf (threads : List Thread) (before after : List Char) : List Outcome :=
  threads.flatMap fun t => headsOf (Place.after before) (.between before after) t.tasks t.captures

/-- What can be done at a place, up to the first whole match, and that match. -/
def outcomesAt (r : Regex) (threads : List Thread) (best : Option Match) (before : Option Char) (after : List Char)
    (here : Place) : List Outcome × Option Captures :=
  untilPassed ((threadsAt r threads best).flatMap fun t => headsOf here ⟨before, after.head?⟩ t.tasks t.captures)

/-- The best match that is known at a place. -/
def bestAt (r : Regex) (threads : List Thread) (best : Option Match) (before : Option Char) (after : List Char)
    (here : Place) : Option Match :=
  match (outcomesAt r threads best before after here).2 with
  | some captures => some ⟨captures, ⟨after, here⟩, before⟩
  | none => best

theorem searchFrom_nil (threads : List Thread) (best : Option Match) (before : Option Char) (here : Place) :
    searchFrom r threads best before [] here = bestAt r threads best before [] here := rfl

theorem searchFrom_cons (threads : List Thread) (best : Option Match) (before : Option Char) (c : Char)
    (rest : List Char) (here : Place) :
    searchFrom r threads best before (c :: rest) here =
      if (afterReading c (outcomesAt r threads best before (c :: rest) here).1).isEmpty &&
          (bestAt r threads best before (c :: rest) here).isSome then
        bestAt r threads best before (c :: rest) here
      else searchFrom r (afterReading c (outcomesAt r threads best before (c :: rest) here).1)
        (bestAt r threads best before (c :: rest) here) (some c) rest (here.advance c) := rfl

section Step

variable {threads : List Thread} {best : Option Match} {before after : List Char}

theorem threadsAt_sound (best : Option Match) (hP : P before) (hthreads : ∀ t ∈ threads, t.Sound r P before after) :
    ∀ t ∈ threadsAt r threads best, t.Sound r P before after := by
  unfold threadsAt
  split
  · intro t ht
    rcases List.mem_append.mp ht with ht | ht
    · exact hthreads t ht
    · rw [List.mem_singleton.mp ht]
      exact thread_start_sound hP
  · exact hthreads

/-- The best match stays sound. -/
theorem bestAt_sound (htext : text = before ++ after)
    (hthreads : ∀ t ∈ threadsAt r threads best, t.Sound r P before after)
    (hbest : ∀ m, best = some m → m.Sound r text P) :
    ∀ m, bestAt r threads best before.getLast? after (Place.after before) = some m → m.Sound r text P := by
  intro m hm
  unfold bestAt at hm
  split at hm
  · next captures hhit =>
    obtain ⟨t, ht, hpassed⟩ := List.mem_flatMap.mp ((untilPassed_sound _).2 captures hhit)
    cases hm
    exact match_of_passed htext (hthreads t ht) hpassed
  · exact hbest m hm

theorem mem_outcomesOf_of_outcomesAt : ∀ o ∈ (outcomesAt r threads best before.getLast? after (Place.after before)).1,
    o ∈ outcomesOf (threadsAt r threads best) before after :=
  (untilPassed_sound _).1

/-- Reading a character keeps threads sound. -/
theorem afterReading_sound {c : Char} {rest : List Char} {outcomes : List Outcome}
    (hthreads : ∀ t ∈ threads, t.Sound r P before (c :: rest))
    (houtcomes : ∀ o ∈ outcomes, o ∈ outcomesOf threads before (c :: rest)) :
    ∀ u ∈ afterReading c outcomes, u.Sound r P (before ++ [c]) rest := by
  intro u hu
  obtain ⟨set, hset, hc⟩ := mem_afterReading hu
  obtain ⟨t, ht, hreads⟩ := List.mem_flatMap.mp (houtcomes _ hset)
  exact thread_of_reads (hthreads t ht) hc hreads

end Step

/-- The loop of a search, by induction on what is left to read: at each place all threads and the best match so far
are sound. -/
theorem searchFrom_sound : ∀ (after before : List Char) (threads : List Thread) (best : Option Match),
    text = before ++ after → (∀ u, before <+: u → P u) → (∀ t ∈ threads, t.Sound r P before after) →
    (∀ m, best = some m → m.Sound r text P) →
    ∀ m, searchFrom r threads best before.getLast? after (Place.after before) = some m → m.Sound r text P := by
  intro after
  induction after with
  | nil =>
      intro before threads best htext hP hthreads hbest m hm
      have hall := threadsAt_sound best (hP before (List.prefix_refl _)) hthreads
      rw [searchFrom_nil] at hm
      exact bestAt_sound htext hall hbest m hm
  | cons c rest ih =>
      intro before threads best htext hP hthreads hbest m hm
      have hall := threadsAt_sound best (hP before (List.prefix_refl _)) hthreads
      have hnext := bestAt_sound htext hall hbest
      rw [searchFrom_cons] at hm
      split at hm
      · exact hnext m hm
      · rw [← List.getLast?_concat (l := before), ← Place.after_concat] at hm
        have hsplit : text = before ++ [c] ++ rest := by rw [htext, List.append_assoc]; rfl
        have hlater : ∀ u, before ++ [c] <+: u → P u := fun u hu => hP u ((List.prefix_append _ _).trans hu)
        exact ih _ _ _ hsplit hlater (afterReading_sound hall mem_outcomesOf_of_outcomesAt) hnext m hm

/-- **What a search finds is a match**, at or after the place where it begins. -/
theorem search_sound {before : List Char} {c : Cursor} (hplace : c.place = Place.after before) {m : Match}
    (h : r.search before.getLast? c = some m) : m.Sound r (before ++ c.rest) (before <+: ·) := by
  unfold search at h
  rw [hplace] at h
  exact searchFrom_sound c.rest before [] none rfl (fun u hu => hu) (fun t ht => absurd ht List.not_mem_nil)
    (fun m hm => by cases hm) m h

/-! ### All matches -/

/-- All groups of one match end before those of another one begin. -/
def Match.Precedes (m n : Match) : Prop :=
  ∀ g ∈ m.captures, ∀ k ∈ n.captures, g.2.stop.offset ≤ k.2.start.offset

theorem Match.Sound.imp {Q : List Char → Prop} {m : Match} (h : m.Sound r text P) (himp : ∀ u, P u → Q u) :
    m.Sound r text Q := by
  obtain ⟨start, word, htext, hstart, hrest⟩ := h
  exact ⟨start, word, htext, himp start hstart, hrest⟩

theorem Match.Sound.start_ge {since : List Char} {m : Match} (h : m.Sound r text (since <+: ·)) :
    ∀ g ∈ m.captures, (Place.after since).offset ≤ g.2.start.offset := by
  obtain ⟨start, word, -, hstart, hmatch, -, -⟩ := h
  intro g hg
  exact Nat.le_trans (Place.offset_le_of_prefix hstart) (hmatch.covers g hg).start_ge

/-- One match before others that are found further on. -/
theorem cons_sound {since : List Char} (since' : List Char) {m : Match} {more : List Match}
    (hm : m.Sound r text (since <+: ·)) (hfurther : ∀ done, text = done ++ m.stop.rest → done <+: since')
    (hmore : ∀ n ∈ more, n.Sound r text (since' <+: ·)) (hpairwise : more.Pairwise Match.Precedes) :
    (∀ n ∈ m :: more, n.Sound r text (since <+: ·)) ∧ (m :: more).Pairwise Match.Precedes := by
  obtain ⟨start, word, htext, hstart, hmatch, -⟩ := id hm
  have hfurther := hfurther (start ++ word) htext
  have hsince : since <+: since' := hstart.trans ((List.prefix_append _ _).trans hfurther)
  refine ⟨List.forall_mem_cons.mpr ⟨hm, fun n hn => (hmore n hn).imp fun u hu => hsince.trans hu⟩,
    List.pairwise_cons.mpr ⟨?_, hpairwise⟩⟩
  · intro n hn g hg k hk
    calc g.2.stop.offset ≤ (Place.after (start ++ word)).offset := (hmatch.covers g hg).stop_le
      _ ≤ (Place.after since').offset := Place.offset_le_of_prefix hfurther
      _ ≤ k.2.start.offset := (hmore n hn).start_ge k hk

/-- After a match the search goes on at its end, or after the next character if the match has no characters: in any
case behind all its groups. -/
theorem matchesFrom_sound {b : Option Char} {c : Cursor} (before : List Char) (hb : b = before.getLast?)
    (hplace : c.place = Place.after before) :
    (∀ m ∈ r.matchesFrom b c, m.Sound r (before ++ c.rest) (before <+: ·)) ∧
      (r.matchesFrom b c).Pairwise Match.Precedes := by
  fun_induction matchesFrom r b c generalizing before with
  | case1 b c hnone => exact ⟨fun m hm => absurd hm List.not_mem_nil, .nil⟩
  | case2 b c m hm hshorter ih =>
      subst hb
      have hsound := search_sound hplace hm
      obtain ⟨start, word, htext, -, -, hstop, hlast⟩ := id hsound
      have hrest := ih (start ++ word) hlast hstop
      rw [← htext] at hrest
      refine cons_sound (start ++ word) hsound ?_ hrest.1 hrest.2
      intro done hdone
      have hsame : done = start ++ word := List.append_cancel_right (hdone.symm.trans htext)
      exact hsame ▸ List.prefix_refl _
  | case3 b c m hm hsame hend =>
      subst hb
      refine cons_sound before (search_sound hplace hm) ?_ (fun n hn => absurd hn List.not_mem_nil) .nil
      intro done hdone
      rw [hend, List.append_nil] at hdone
      exact ⟨_, hdone.symm⟩
  | case4 b c m hm hsame x rest hrest ih =>
      subst hb
      have hnext : c.place.advance x = Place.after (before ++ [x]) := by rw [Place.after_concat, hplace]
      have htext : before ++ [x] ++ rest = before ++ c.rest := by rw [hrest, List.append_assoc]; rfl
      have hmore := ih (before ++ [x]) List.getLast?_concat.symm hnext
      rw [htext] at hmore
      refine cons_sound (before ++ [x]) (search_sound hplace hm) ?_ hmore.1 hmore.2
      -- Nothing was read, so the match ends where the search began.
      intro done hdone
      have hlengths := congrArg List.length hdone
      rw [List.length_append, List.length_append] at hlengths
      have hshort : done <+: before :=
        List.prefix_of_prefix_length_le ⟨_, hdone.symm⟩ (List.prefix_append _ _) (by omega)
      exact hshort.trans (List.prefix_append _ _)

/-- **All matches in a text are matches, and none overlaps another.** -/
theorem allMatches_sound (r : Regex) (text : String) :
    (∀ m ∈ r.allMatches text, m.Sound r text.toList ([] <+: ·)) ∧ (r.allMatches text).Pairwise Match.Precedes :=
  matchesFrom_sound [] rfl rfl

end CodeAtlas.Regex

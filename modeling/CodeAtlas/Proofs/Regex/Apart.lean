/-
Expressions that never match at the same place.

Two expressions are `Apart` if no text has a match of both at its beginning.  To find
that out, both are read side by side: `firsts` lists the characters that a match can
begin with, each with what is left to match, and `common` the pairs that one and the
same character leads to.  Neither expression may come to an end in any pair that is
reached, because the other one could be matched by what follows.

There are only finitely many pairs to look at, since what is left to match is always
made of the same parts, and `reach` goes through them.  When it comes to an end, the
pairs it has seen are closed under reading on; nothing more is needed for the argument,
which is an induction on the word that one of the expressions matches.
-/
import CodeAtlas.Proofs.Regex.Matching

namespace CodeAtlas

deriving instance ReflBEq, LawfulBEq for CharSet, Regex

namespace CharSet

/-- The members of a set that is given by its members. -/
def members? : CharSet → Option (List Char)
  | .nothing => some []
  | .range lo hi => if lo = hi then some [lo] else none
  | .union a b => do return (← a.members?) ++ (← b.members?)
  | _ => none

/-- Whether the sets are seen to have no character in common. -/
def disjoint (s t : CharSet) : Bool :=
  match s.members?, t.members? with
  | some cs, _ => !cs.any t.mem
  | none, some cs => !cs.any s.mem
  | none, none => false

theorem mem_members? {c : Char} : ∀ {s : CharSet} {cs : List Char}, s.members? = some cs → s.mem c = true →
    c ∈ cs := by
  intro s
  induction s with
  | nothing =>
      intro cs _ hc
      cases hc
  | range lo hi =>
      intro cs hcs hc
      rw [members?] at hcs
      split at hcs
      · next heq =>
        subst heq
        cases hcs
        simp only [mem, Bool.and_eq_true, decide_eq_true_eq] at hc
        exact List.mem_singleton.mpr (Char.ext (UInt32.le_antisymm hc.2 hc.1))
      · cases hcs
  | union a b iha ihb =>
      intro cs hcs hc
      rw [members?] at hcs
      obtain ⟨as, has, hcs⟩ := Option.bind_eq_some_iff.mp hcs
      obtain ⟨bs, hbs, hcs⟩ := Option.bind_eq_some_iff.mp hcs
      cases hcs
      rw [mem, Bool.or_eq_true] at hc
      rcases hc with hc | hc
      · exact List.mem_append_left _ (iha has hc)
      · exact List.mem_append_right _ (ihb hbs hc)
  | word | blank | decimal | identifierStart | identifierPart | compl | eitherCase =>
      intro cs hcs
      cases hcs

theorem not_disjoint {s t : CharSet} {c : Char} (hs : s.mem c = true) (ht : t.mem c = true) :
    s.disjoint t = false := by
  unfold disjoint
  split
  · next cs hcs => simpa using ⟨c, mem_members? hcs hs, ht⟩
  · next cs hnone hcs => simpa using ⟨c, mem_members? hcs ht, hs⟩
  · rfl

end CharSet

namespace Regex

/-- The characters that a match can begin with, each with what is left to match. -/
def firsts : Regex → List (CharSet × Regex)
  | .chars set => [(set, .empty)]
  | .seq a b => a.firsts.map (fun p => (p.1, cat p.2 b)) ++ if a.nullable then b.firsts else []
  | .alt a b => a.firsts ++ b.firsts
  | .star a lazy => a.firsts.map fun p => (p.1, cat p.2 (.star a lazy))
  | .group _ a => a.firsts
  | _ => []

/-- What is left to match of two expressions after a first character that is the same for both. -/
def common (a b : Regex) : List (Regex × Regex) :=
  a.firsts.flatMap fun p => (b.firsts.filter fun q => !p.1.disjoint q.1).map fun q => (p.2, q.2)

/-- The pairs that reading on leads to, as far as `fuel` goes: those seen before and what is still to be looked at. -/
def reach : Nat → List (Regex × Regex) → List (Regex × Regex) → List (Regex × Regex)
  | 0, seen, _ => seen
  | _ + 1, seen, [] => seen
  | fuel + 1, seen, p :: todo =>
    if seen.contains p then reach fuel seen todo else reach fuel (p :: seen) (common p.1 p.2 ++ todo)

/-- Whether no expression in the pairs can be matched by nothing, and reading on leads to none but these pairs. -/
def isClosed (pairs : List (Regex × Regex)) : Bool :=
  pairs.all fun p => !p.1.nullable && !p.2.nullable && (common p.1 p.2).all pairs.contains

/-- Whether the expressions are seen to be apart. -/
def isApart (a b : Regex) : Bool :=
  let pairs := reach 500 [] [(a, b)]
  pairs.contains (a, b) && isClosed pairs

/-- No text has a match of both expressions at the same place. -/
def Apart (a b : Regex) : Prop :=
  ∀ before u v x y ga gb, u ++ x = v ++ y → Matches a before u x ga → ¬Matches b before v y gb

/-! ### Characters that cannot be missing -/

/-- Whether every word that the expression matches has the character `c` in it. -/
def requires (c : Char) : Regex → Bool
  | .chars set => set.members? == some [c]
  | .seq a b => a.requires c || b.requires c
  | .alt a b => a.requires c && b.requires c
  | .group _ a => a.requires c
  | _ => false

theorem Matches.mem_of_requires {c : Char} {r : Regex} {before word after : List Char} {groups : Captures}
    (h : Matches r before word after groups) (hrequires : r.requires c = true) : c ∈ word := by
  induction h with
  | empty | starNil | starCons | lineStart | lineEnd | textStart | textEnd | wordBoundary => cases hrequires
  | chars hmem =>
      rw [requires, beq_iff_eq] at hrequires
      have hc := CharSet.mem_members? hrequires hmem
      rw [List.mem_singleton] at hc ⊢
      exact hc.symm
  | seq _ _ iha ihb =>
      rw [requires, Bool.or_eq_true] at hrequires
      rcases hrequires with ha | hb
      · exact List.mem_append_left _ (iha ha)
      · exact List.mem_append_right _ (ihb hb)
  | altLeft _ ih =>
      rw [requires, Bool.and_eq_true] at hrequires
      exact ih hrequires.1
  | altRight _ ih =>
      rw [requires, Bool.and_eq_true] at hrequires
      exact ih hrequires.2
  | group _ ih => exact ih hrequires

/-! ### Reading one character -/

theorem Matches.nullable {r : Regex} {before word after : List Char} {groups : Captures}
    (h : Matches r before word after groups) : word = [] → r.nullable = true := by
  induction h with
  | empty | starNil | starCons | lineStart | lineEnd | textStart | textEnd | wordBoundary => exact fun _ => rfl
  | chars => intro hword; cases hword
  | seq _ _ iha ihb =>
      intro hword
      rw [List.append_eq_nil_iff] at hword
      rw [Regex.nullable, iha hword.1, ihb hword.2]
      rfl
  | altLeft _ ih =>
      intro hword
      rw [Regex.nullable, ih hword, Bool.true_or]
  | altRight _ ih =>
      intro hword
      rw [Regex.nullable, ih hword, Bool.or_true]
  | group _ ih => exact ih

/-- Leaving out trivial parts of a concatenation makes no difference. -/
theorem Matches.cat {a b : Regex} {before u v after : List Char} {ga gb : Captures}
    (ha : Matches a before u (v ++ after) ga) (hb : Matches b (before ++ u) v after gb) :
    ∃ groups, Matches (Regex.cat a b) before (u ++ v) after groups := by
  unfold Regex.cat
  split
  · cases ha
  · cases hb
  · cases ha
    exact ⟨gb, by simpa using hb⟩
  · cases hb
    exact ⟨ga, by simpa using ha⟩
  · exact ⟨_, .seq ha hb⟩

/-- A match that is not empty begins with one of the first characters and goes on with what is left. -/
theorem Matches.first {r : Regex} {before word after : List Char} {groups : Captures}
    (h : Matches r before word after groups) : ∀ {c rest}, word = c :: rest →
      ∃ p ∈ r.firsts, p.1.mem c = true ∧ ∃ g, Matches p.2 (before ++ [c]) rest after g := by
  induction h with
  | empty | starNil | lineStart | lineEnd | textStart | textEnd | wordBoundary =>
      intro c rest hword
      cases hword
  | chars hmem =>
      intro c rest hword
      cases hword
      exact ⟨_, List.mem_singleton.mpr rfl, hmem, _, .empty⟩
  | @seq a b before u v after ga gb ha hb iha ihb =>
      intro c rest hword
      rw [firsts]
      cases u with
      | nil =>
          obtain ⟨p, hp, hmem, hleft⟩ := ihb hword
          rw [List.append_nil] at hleft
          refine ⟨p, List.mem_append_right _ ?_, hmem, hleft⟩
          rw [if_pos (ha.nullable rfl)]
          exact hp
      | cons d u =>
          rw [List.cons_append, List.cons.injEq] at hword
          obtain ⟨rfl, rfl⟩ := hword
          obtain ⟨p, hp, hmem, g, hleft⟩ := iha rfl
          have hright : Matches b (before ++ [d] ++ u) v after gb := by
            rw [List.append_assoc]
            exact hb
          exact ⟨_, List.mem_append_left _ (List.mem_map_of_mem hp), hmem, hleft.cat hright⟩
  | altLeft _ ih =>
      intro c rest hword
      obtain ⟨p, hp, hleft⟩ := ih hword
      exact ⟨p, List.mem_append_left _ hp, hleft⟩
  | altRight _ ih =>
      intro c rest hword
      obtain ⟨p, hp, hleft⟩ := ih hword
      exact ⟨p, List.mem_append_right _ hp, hleft⟩
  | @starCons a lazy before u v after ga gs ha hs iha ihs =>
      intro c rest hword
      cases u with
      | nil =>
          obtain ⟨p, hp, hmem, hleft⟩ := ihs hword
          rw [List.append_nil] at hleft
          exact ⟨p, hp, hmem, hleft⟩
      | cons d u =>
          rw [List.cons_append, List.cons.injEq] at hword
          obtain ⟨rfl, rfl⟩ := hword
          obtain ⟨p, hp, hmem, g, hleft⟩ := iha rfl
          have hright : Matches (.star a lazy) (before ++ [d] ++ u) v after gs := by
            rw [List.append_assoc]
            exact hs
          exact ⟨_, List.mem_map_of_mem hp, hmem, hleft.cat hright⟩
  | group _ ih => exact ih

/-! ### Reading on -/

/-- The pairs are closed under reading a character, and nothing is matched in any of them. -/
structure ClosedPairs (pairs : List (Regex × Regex)) : Prop where
  unfinished : ∀ p ∈ pairs, p.1.nullable = false ∧ p.2.nullable = false
  reading : ∀ p ∈ pairs, ∀ q ∈ common p.1 p.2, q ∈ pairs

/-- A pair from a closed list cannot have matches of both sides at the same place: they would have to begin with the
same character, and what is left of them is a pair from the list again. -/
theorem ClosedPairs.apart {pairs : List (Regex × Regex)} (h : ClosedPairs pairs) {a b : Regex} (hab : (a, b) ∈ pairs) :
    Apart a b := by
  intro before u
  induction u generalizing before a b with
  | nil =>
      intro v x y ga gb _ ha _
      have hnullable := ha.nullable rfl
      rw [(h.unfinished _ hab).1] at hnullable
      cases hnullable
  | cons c u ih =>
      intro v x y ga gb hsame ha hb
      cases v with
      | nil =>
          have hnullable := hb.nullable rfl
          rw [(h.unfinished _ hab).2] at hnullable
          cases hnullable
      | cons d v =>
          rw [List.cons_append, List.cons_append, List.cons.injEq] at hsame
          obtain ⟨rfl, hsame⟩ := hsame
          obtain ⟨p, hp, hpc, ga', ha'⟩ := ha.first rfl
          obtain ⟨q, hq, hqc, gb', hb'⟩ := hb.first rfl
          have hnext : (p.2, q.2) ∈ common a b := by
            refine List.mem_flatMap.mpr ⟨p, hp, List.mem_map.mpr ⟨q, List.mem_filter.mpr ⟨hq, ?_⟩, rfl⟩⟩
            rw [CharSet.not_disjoint hpc hqc]
            rfl
          exact ih (h.reading _ hab _ hnext) _ v x y ga' gb' hsame ha' hb'

theorem closed_of_isClosed {pairs : List (Regex × Regex)} (h : isClosed pairs = true) : ClosedPairs pairs := by
  simp only [isClosed, List.all_eq_true, Bool.and_eq_true, Bool.not_eq_true', List.contains_iff_mem] at h
  exact ⟨fun p hp => (h p hp).1, fun p hp => (h p hp).2⟩

/-- **Expressions are apart if they are seen to be.**  How the pairs were found does not matter, as they are closed. -/
theorem apart_of_isApart {a b : Regex} (h : isApart a b = true) : Apart a b := by
  simp only [isApart, Bool.and_eq_true, List.contains_iff_mem] at h
  exact (closed_of_isClosed h.2).apart h.1

end Regex
end CodeAtlas

/-
Lists in which nothing is repeated, and lists that are sorted.

Identifiers, names and paths are kept in lists where each of them has to stand once
only: in the index of an assembler, among the entries of a directory, in the tree of
a crawl.  Looking something up there finds the one thing that fits.

A crawl sorts what it has visited by its name.  Sorting keeps the order of equals, so
it makes no difference whether something is left out before or after.  Declarations
that patterns find are sorted too, by their offsets.
-/
namespace CodeAtlas.Lists

variable {α β : Type}

theorem nodup_eraseDups [BEq α] [LawfulBEq α] : ∀ l : List α, l.eraseDups.Nodup
  | [] => List.nodup_nil
  | a :: rest => by
      rw [List.eraseDups_cons, List.nodup_cons]
      refine ⟨?_, nodup_eraseDups (rest.filter fun b => !b == a)⟩
      rw [List.mem_eraseDups, List.mem_filter]
      simp
termination_by l => l.length
-- What is left after the head is filtered first, so it is shorter but not the tail itself.
decreasing_by exact Nat.lt_succ_of_le (List.length_filter_le _ rest)

theorem eraseDups_of_nodup [BEq α] [LawfulBEq α] : ∀ {l : List α}, l.Nodup → l.eraseDups = l := by
  intro l
  induction l with
  | nil => intro _; rfl
  | cons a rest ih =>
      intro hnodup
      rw [List.nodup_cons] at hnodup
      have hrest : rest.filter (fun b => !b == a) = rest := by
        rw [List.filter_eq_self]
        intro b hb
        have hne : b ≠ a := fun heq => hnodup.1 (heq ▸ hb)
        simpa using hne
      rw [List.eraseDups_cons, hrest, ih hnodup.2]

theorem eraseDups_sublist [BEq α] [LawfulBEq α] : ∀ l : List α, l.eraseDups.Sublist l
  | [] => .slnil
  | a :: rest => by
      rw [List.eraseDups_cons]
      exact ((eraseDups_sublist (rest.filter fun b => !b == a)).trans List.filter_sublist).cons_cons a
termination_by l => l.length
decreasing_by exact Nat.lt_succ_of_le (List.length_filter_le _ rest)

/-- A list keeps its length without repetitions exactly if it has none. -/
theorem length_eraseDups_eq_iff [BEq α] [LawfulBEq α] {l : List α} : l.eraseDups.length = l.length ↔ l.Nodup := by
  constructor
  · intro h
    rw [← (eraseDups_sublist l).eq_of_length h]
    exact nodup_eraseDups l
  · intro h
    rw [eraseDups_of_nodup h]

/-- What stays of a list keeps the order of first places. -/
theorem idxOf_lt_of_filter [BEq α] [LawfulBEq α] {p : α → Bool} {a b : α} (hb : p b = true) :
    ∀ {l : List α}, (l.filter p).idxOf a < (l.filter p).idxOf b → l.idxOf a < l.idxOf b := by
  intro l
  induction l with
  | nil => exact id
  | cons c rest ih =>
      intro hlt
      by_cases hcb : c = b
      · rw [hcb, List.filter_cons_of_pos hb, List.idxOf_cons_self] at hlt
        exact absurd hlt (Nat.not_lt_zero _)
      · rw [List.idxOf_cons (y := b), beq_false_of_ne hcb, cond_false]
        by_cases hca : c = a
        · rw [hca, List.idxOf_cons_self]
          exact Nat.succ_pos _
        · rw [List.idxOf_cons, beq_false_of_ne hca, cond_false]
          refine Nat.succ_lt_succ (ih ?_)
          by_cases hc : p c = true
          · rw [List.filter_cons_of_pos hc] at hlt
            simp only [List.idxOf_cons, beq_false_of_ne hca, beq_false_of_ne hcb, cond_false] at hlt
            exact Nat.lt_of_succ_lt_succ hlt
          · rwa [List.filter_cons_of_neg hc] at hlt

/-- Without repetitions, things stand in the order of the places where they come first. -/
theorem eraseDups_pairwise_idxOf [BEq α] [LawfulBEq α] : ∀ l : List α,
    l.eraseDups.Pairwise fun a b => l.idxOf a < l.idxOf b
  | [] => .nil
  | a :: rest => by
      have hkept : ∀ b ∈ (rest.filter fun b => !b == a).eraseDups, (!b == a) = true :=
        fun b hb => (List.mem_filter.mp (List.mem_eraseDups.mp hb)).2
      have hidx : ∀ b ∈ (rest.filter fun b => !b == a).eraseDups, (a :: rest).idxOf b = rest.idxOf b + 1 := by
        intro b hb
        have hne : a ≠ b := fun heq => by simpa [heq] using hkept b hb
        rw [List.idxOf_cons, beq_false_of_ne hne, cond_false]
      rw [List.eraseDups_cons, List.pairwise_cons]
      refine ⟨?_, (eraseDups_pairwise_idxOf (rest.filter fun b => !b == a)).imp_of_mem ?_⟩
      · intro b hb
        rw [List.idxOf_cons_self, hidx b hb]
        exact Nat.succ_pos _
      · intro b c hb hc hlt
        rw [hidx b hb, hidx c hc]
        exact Nat.succ_lt_succ (idxOf_lt_of_filter (p := fun b => !b == a) (hkept c hc) hlt)
termination_by l => l.length
decreasing_by exact Nat.lt_succ_of_le (List.length_filter_le _ rest)

/-- Adds something at the end of a list, unless it is there already. -/
def addNew [BEq α] (l : List α) (a : α) : List α :=
  if l.contains a then l else l ++ [a]

theorem addNew_eraseDups [BEq α] [LawfulBEq α] (l : List α) (a : α) : addNew l.eraseDups a = (l ++ [a]).eraseDups := by
  have hmem : l.eraseDups.contains a = l.contains a := by
    rw [Bool.eq_iff_iff, List.contains_iff_mem, List.contains_iff_mem, List.mem_eraseDups]
  unfold addNew
  rw [hmem, List.eraseDups_append]
  cases h : l.contains a with
  | true =>
      have hnone : [a].removeAll l = [] := by simpa [List.removeAll] using h
      rw [hnone, List.eraseDups_nil, List.append_nil, if_pos rfl]
  | false =>
      have hall : [a].removeAll l = [a] := by simpa [List.removeAll] using h
      rw [hall, if_neg Bool.false_ne_true]
      rfl

/-- **A loop that adds what it has not seen yet leaves a list without repetitions.** -/
theorem foldl_addNew [BEq α] [LawfulBEq α] (l : List α) : ∀ before : List α,
    l.foldl addNew before.eraseDups = (before ++ l).eraseDups := by
  induction l with
  | nil => intro before; rw [List.append_nil]; rfl
  | cons a rest ih =>
      intro before
      rw [List.foldl_cons, addNew_eraseDups, ih, List.append_assoc, List.singleton_append]

theorem mem_addNew [BEq α] [LawfulBEq α] {l : List α} {a b : α} : b ∈ addNew l a ↔ b ∈ l ∨ b = a := by
  unfold addNew
  split
  · next h =>
    constructor
    · exact Or.inl
    · rintro (hb | rfl)
      · exact hb
      · exact List.contains_iff_mem.mp h
  · rw [List.mem_append, List.mem_singleton]

/-- A loop that adds what it has not seen yet adds everything. -/
theorem mem_foldl_addNew [BEq α] [LawfulBEq α] {a : α} (l : List α) : ∀ before : List α,
    a ∈ l.foldl addNew before ↔ a ∈ before ∨ a ∈ l := by
  induction l with
  | nil => intro before; simp
  | cons b rest ih =>
      intro before
      rw [List.foldl_cons, ih, mem_addNew, List.mem_cons, or_assoc]

theorem nodup_foldl_addNew [BEq α] [LawfulBEq α] (l : List α) {before : List α} (h : before.Nodup) :
    (l.foldl addNew before).Nodup := by
  rw [← eraseDups_of_nodup h, foldl_addNew]
  exact nodup_eraseDups _

section

variable [BEq α] [LawfulBEq α] {f : β → α → β} (hkeep : ∀ b a c, f b a = b → f (f b c) a = f b c)

include hkeep

end

/-- Among things that differ in what is asked for, the one that is there is found. -/
theorem find?_of_nodup_map [BEq β] [LawfulBEq β] {f : α → β} {a : α} : ∀ {l : List α}, (l.map f).Nodup → a ∈ l →
    l.find? (f · == f a) = some a := by
  intro l
  induction l with
  | nil => intro _ hmem; cases hmem
  | cons b rest ih =>
      intro hnodup hmem
      rw [List.map_cons, List.nodup_cons] at hnodup
      rcases List.mem_cons.mp hmem with rfl | hrest
      · rw [List.find?_cons_of_pos (by simp)]
      · have hne : f b ≠ f a := fun heq => hnodup.1 (List.mem_map.mpr ⟨a, hrest, heq.symm⟩)
        rw [List.find?_cons_of_neg (by simpa using hne)]
        exact ih hnodup.2 hrest

/-- In a directory of distinct keys, what is looked up is what is listed. -/
theorem lookup_eq_some_iff_of_nodup [BEq α] [LawfulBEq α] {key : α} {value : β} :
    ∀ {l : List (α × β)}, (l.map Prod.fst).Nodup → (l.lookup key = some value ↔ (key, value) ∈ l) := by
  intro l
  induction l with
  | nil => intro _; simp
  | cons q rest ih =>
      intro hnodup
      obtain ⟨k, v⟩ := q
      rw [List.map_cons, List.nodup_cons] at hnodup
      rw [List.lookup_cons, List.mem_cons, Prod.mk.injEq]
      by_cases hk : key = k
      · have hrest : (key, value) ∉ rest := fun hmem => hnodup.1 (List.mem_map.mpr ⟨_, hmem, hk⟩)
        simp [hk ▸ hrest, hk, eq_comm]
      · have hne : (key == k) = false := beq_false_of_ne hk
        rw [hne, ih hnodup.2]
        simp [hk]

/-- Of two different things in a list one stands before the other. -/
theorem rel_or_rel_of_pairwise {R : α → α → Prop} {l : List α} (h : l.Pairwise R) {a b : α} (ha : a ∈ l) (hb : b ∈ l)
    (hne : a ≠ b) : R a b ∨ R b a := by
  induction h with
  | nil => cases ha
  | cons hfirst _ ih =>
      rcases List.mem_cons.mp ha with rfl | ha'
      · rcases List.mem_cons.mp hb with rfl | hb'
        · exact absurd rfl hne
        · exact Or.inl (hfirst b hb')
      · rcases List.mem_cons.mp hb with rfl | hb'
        · exact Or.inr (hfirst a ha')
        · exact ih ha' hb'

/-! ### Sorting -/

/-- Things are put in order by bytes that belong to them. -/
theorem key_trans (key : α → List UInt8) (a b c : α) (hab : decide (key a ≤ key b) = true)
    (hbc : decide (key b ≤ key c) = true) : decide (key a ≤ key c) = true := by
  simp only [decide_eq_true_eq] at hab hbc ⊢
  exact List.le_trans hab hbc

theorem key_total (key : α → List UInt8) (a b : α) : (decide (key a ≤ key b) || decide (key b ≤ key a)) = true := by
  simpa using List.le_total (key a) (key b)

/-- **Sorting keeps the order of equals.**  What is so of any two things in a list, the one before the other, is so
after sorting too, of those that the order does not tell apart. -/
theorem pairwise_mergeSort_of_pairwise {le : α → α → Bool} {R : α → α → Prop}
    (trans : ∀ a b c, le a b → le b c → le a c) (total : ∀ a b, le a b || le b a) {l : List α} (h : l.Pairwise R) :
    (l.mergeSort le).Pairwise fun a b => le b a = true → R a b := by
  induction l with
  | nil => simp
  | cons a rest ih =>
      rw [List.pairwise_cons] at h
      obtain ⟨before, after, hsorted, hrest, hbefore⟩ := List.mergeSort_cons trans total a rest
      have hpairs := ih h.2
      rw [hrest, List.pairwise_append] at hpairs
      rw [hsorted, List.pairwise_append, List.pairwise_cons]
      refine ⟨hpairs.1, ⟨?_, hpairs.2.1⟩, ?_⟩
      · intro b hb _
        have hmem : b ∈ rest.mergeSort le := by
          rw [hrest]
          exact List.mem_append_right _ hb
        exact h.1 b (List.mem_mergeSort.mp hmem)
      · intro b hb c hc hle
        rcases List.mem_cons.mp hc with rfl | hc
        · have hnot := hbefore b hb
          rw [hle] at hnot
          cases hnot
        · exact hpairs.2.2 b hb c hc hle

/-- A list falls apart in one way only into a part without and a part with a property. -/
theorem append_inj_of_property {p : β → Bool} {xs ys xs' ys' : List β} (h : xs ++ ys = xs' ++ ys')
    (hxs : ∀ x ∈ xs, p x = false) (hys : ∀ y ∈ ys, p y = true) (hxs' : ∀ x ∈ xs', p x = false)
    (hys' : ∀ y ∈ ys', p y = true) : xs = xs' ∧ ys = ys' := by
  have hpart : ∀ {us vs : List β}, (∀ u ∈ us, p u = false) → (∀ v ∈ vs, p v = true) → (us ++ vs).filter p = vs := by
    intro us vs hus hvs
    rw [List.filter_append, List.filter_eq_self.mpr hvs, List.filter_eq_nil_iff.mpr (by simpa using hus),
      List.nil_append]
  have hsame : ys = ys' := by rw [← hpart hxs hys, h, hpart hxs' hys']
  subst hsame
  exact ⟨List.append_cancel_right h, rfl⟩

/-- What was chosen from a list from its end on is put back into its order by the places. -/
theorem mergeSort_filter_reverse_zipIdx (l : List α) (p : α × Nat → Bool) :
    (l.zipIdx.reverse.filter p).mergeSort (fun a b => a.2 ≤ b.2) = l.zipIdx.filter p := by
  have hperm : ((l.zipIdx.reverse.filter p).mergeSort fun a b => a.2 ≤ b.2).Perm (l.zipIdx.filter p) :=
    (List.mergeSort_perm _ _).trans ((List.reverse_perm _).filter p)
  have hplaces : l.zipIdx.Pairwise fun a b => a.2 ≤ b.2 := by
    have hrange : (l.zipIdx.map Prod.snd).Pairwise (· < ·) := by
      rw [List.zipIdx_map_snd]
      exact List.pairwise_lt_range'
    exact (List.pairwise_map.mp hrange).imp Nat.le_of_lt
  have hsorted : ((l.zipIdx.reverse.filter p).mergeSort fun a b => a.2 ≤ b.2).Pairwise fun a b => a.2 ≤ b.2 := by
    have htrans : ∀ a b c : α × Nat, decide (a.2 ≤ b.2) → decide (b.2 ≤ c.2) → decide (a.2 ≤ c.2) := by
      intro a b c hab hbc
      exact decide_eq_true (Nat.le_trans (of_decide_eq_true hab) (of_decide_eq_true hbc))
    have htotal : ∀ a b : α × Nat, (decide (a.2 ≤ b.2) || decide (b.2 ≤ a.2)) = true := by
      intro a b
      simpa using Nat.le_total a.2 b.2
    exact (List.pairwise_mergeSort htrans htotal _).imp fun h => of_decide_eq_true h
  refine hperm.eq_of_pairwise (fun a b ha hb hab hba => ?_) hsorted (hplaces.filter p)
  have hplace : a.2 = b.2 := Nat.le_antisymm hab hba
  have ha' := List.mem_zipIdx_iff_getElem?.mp (List.mem_filter.mp (hperm.mem_iff.mp ha)).1
  have hb' := List.mem_zipIdx_iff_getElem?.mp (List.mem_filter.mp hb).1
  rw [hplace, hb'] at ha'
  exact Prod.ext (Option.some.inj ha').symm hplace

/-- **What is kept of a list can be sorted before or after**, if the order of what is kept is that of where it comes
from. -/
theorem filterMap_mergeSort {le : α → α → Bool} {le' : β → β → Bool} {f : α → Option β}
    (trans : ∀ a b c, le a b → le b c → le a c) (total : ∀ a b, le a b || le b a)
    (trans' : ∀ x y z, le' x y → le' y z → le' x z) (total' : ∀ x y, le' x y || le' y x)
    (h : ∀ {a b x y}, f a = some x → f b = some y → le' x y = le a b) (l : List α) :
    (l.filterMap f).mergeSort le' = (l.mergeSort le).filterMap f := by
  induction l with
  | nil => simp
  | cons a rest ih =>
      obtain ⟨before, after, hsorted, hrest, hbefore⟩ := List.mergeSort_cons trans total a rest
      rw [hrest, List.filterMap_append] at ih
      rw [hsorted, List.filterMap_append]
      cases hf : f a with
      | none => rw [List.filterMap_cons_none hf, List.filterMap_cons_none hf, ih]
      | some x =>
          obtain ⟨before', after', hsorted', hrest', hbefore'⟩ :=
            List.mergeSort_cons trans' total' x (rest.filterMap f)
          have horder := List.pairwise_mergeSort trans total (a :: rest)
          have horder' := List.pairwise_mergeSort trans' total' (x :: rest.filterMap f)
          rw [hsorted, List.pairwise_append, List.pairwise_cons] at horder
          rw [hsorted', List.pairwise_append, List.pairwise_cons] at horder'
          -- On both sides the new value stands behind all that is smaller and before all that is not.
          obtain ⟨hfirst, hlast⟩ : before' = before.filterMap f ∧ after' = after.filterMap f := by
            refine append_inj_of_property (p := le' x) (hrest'.symm.trans ih) ?_ horder'.2.1.1 ?_ ?_
            · intro y hy
              simpa using hbefore' y hy
            · intro y hy
              obtain ⟨b, hb, hfb⟩ := List.mem_filterMap.mp hy
              rw [h hf hfb]
              simpa using hbefore b hb
            · intro y hy
              obtain ⟨b, hb, hfb⟩ := List.mem_filterMap.mp hy
              rw [h hf hfb]
              exact horder.2.1.1 b hb
          rw [List.filterMap_cons_some hf, List.filterMap_cons_some hf, hsorted', hfirst, hlast]

end CodeAtlas.Lists

/-
Taking characters and marks off the ends of a text.

Trimming stops at the first character that is not to be removed, from either end, so
such a character keeps all that is beyond it.  A mark is removed as often as it is
there.  Whoever means to remove it once has to know that it does not stand there again.

What is removed is always something at the ends: `Peeled` says what these ends are made
of.  Texts that were peeled to no effect are those that do not begin or end with
anything that could be removed.
-/
import CodeAtlas.Text.Strip
import Mathlib.Data.List.DropRight
import Mathlib.Data.List.Infix

namespace CodeAtlas.Text

variable {p q : Char → Bool}

/-! ### Characters at the end -/

theorem dropEndWhile_eq_rdropWhile (p : Char → Bool) (cs : List Char) : dropEndWhile p cs = cs.rdropWhile p :=
  rfl

theorem dropEndWhile_isPrefix (cs : List Char) : dropEndWhile p cs <+: cs :=
  List.rdropWhile_prefix p cs

theorem dropEndWhile_of_last {cs : List Char} {c : Char} (hlast : cs.getLast? = some c) (hc : p c = false) :
    dropEndWhile p cs = cs := by
  obtain ⟨z, rfl⟩ := List.getLast?_eq_some_iff.mp hlast
  rw [dropEndWhile_eq_rdropWhile, List.rdropWhile_concat_neg p z c (by simp [hc])]

/-- A character that stays keeps all that is before it. -/
theorem dropEndWhile_append_of_last {x y : List Char} {c : Char} (hlast : x.getLast? = some c) (hc : p c = false) :
    dropEndWhile p (x ++ y) = x ++ dropEndWhile p y := by
  simp only [dropEndWhile_eq_rdropWhile]
  induction y using List.reverseRecOn with
  | nil => rw [List.append_nil, List.rdropWhile_nil, List.append_nil, ← dropEndWhile_eq_rdropWhile,
      dropEndWhile_of_last hlast hc]
  | append_singleton y d ih =>
      rw [← List.append_assoc, List.rdropWhile_concat, List.rdropWhile_concat]
      split
      · exact ih
      · rw [List.append_assoc]

theorem trimList_cons_of_blank {c : Char} {cs : List Char} (hc : isBlank c = true) :
    trimList (c :: cs) = trimList cs := by
  unfold trimList
  rw [List.dropWhile_cons_of_pos hc]

theorem trimList_concat_of_blank {c : Char} (cs : List Char) (hc : isBlank c = true) :
    trimList (cs ++ [c]) = trimList cs := by
  unfold trimList
  rw [List.dropWhile_append]
  by_cases hall : cs.dropWhile isBlank = []
  · rw [hall, List.isEmpty_nil, if_pos rfl, List.dropWhile_cons_of_pos hc, List.dropWhile_nil]
  · rw [if_neg (by simpa using hall), dropEndWhile_eq_rdropWhile, List.rdropWhile_concat_pos _ _ _ hc,
      dropEndWhile_eq_rdropWhile]

/-! ### Marks -/

theorem stripStart_append_mark {mark : List Char} (hmark : mark ≠ []) (text : List Char) :
    stripStart mark (mark ++ text) = stripStart mark text := by
  rw [stripStart, dif_pos ⟨hmark, List.prefix_append mark text⟩, List.drop_left]

theorem stripStart_eq_self {mark text : List Char} (h : ¬ mark <+: text) : stripStart mark text = text := by
  rw [stripStart, dif_neg fun hboth => h hboth.2]

theorem stripEnd_append_mark {mark : List Char} (hmark : mark ≠ []) (text : List Char) :
    stripEnd mark (text ++ mark) = stripEnd mark text := by
  unfold stripEnd
  rw [List.reverse_append, stripStart_append_mark (by simpa using hmark)]

theorem stripEnd_eq_self {mark text : List Char} (h : ¬ mark <:+ text) : stripEnd mark text = text := by
  unfold stripEnd
  rw [stripStart_eq_self (fun hmark => h (List.reverse_prefix.mp hmark)), List.reverse_reverse]

/-! ### What is removed -/

/-- The text `inner` is what is left of `text` after characters that satisfy `p` were taken off its two ends. -/
def Peeled (p : Char → Bool) (inner text : List Char) : Prop :=
  ∃ before after, text = before ++ inner ++ after ∧ (∀ c ∈ before, p c = true) ∧ ∀ c ∈ after, p c = true

theorem Peeled.refl (text : List Char) : Peeled p text text :=
  ⟨[], [], by simp, by simp, by simp⟩

theorem Peeled.trans {a b c : List Char} (hab : Peeled p a b) (hbc : Peeled p b c) : Peeled p a c := by
  obtain ⟨before, after, rfl, hbefore, hafter⟩ := hab
  obtain ⟨before', after', rfl, hbefore', hafter'⟩ := hbc
  exact ⟨before' ++ before, after ++ after', by simp, List.forall_mem_append.mpr ⟨hbefore', hbefore⟩,
    List.forall_mem_append.mpr ⟨hafter, hafter'⟩⟩

theorem Peeled.isInfix {inner text : List Char} (h : Peeled p inner text) : inner <:+: text := by
  obtain ⟨before, after, rfl, -, -⟩ := h
  exact ⟨before, after, rfl⟩

theorem Peeled.reverse {inner text : List Char} (h : Peeled p inner text) : Peeled p inner.reverse text.reverse := by
  obtain ⟨before, after, rfl, hbefore, hafter⟩ := h
  exact ⟨after.reverse, before.reverse, by simp, by simpa using hafter, by simpa using hbefore⟩

theorem peeled_dropWhile (hq : ∀ c, q c = true → p c = true) (text : List Char) : Peeled p (text.dropWhile q) text := by
  refine ⟨text.takeWhile q, [], ?_, ?_, by simp⟩
  · rw [List.append_nil, List.takeWhile_append_dropWhile]
  · intro c hc
    exact hq c (List.mem_takeWhile_imp hc)

theorem peeled_dropEndWhile (hq : ∀ c, q c = true → p c = true) (text : List Char) :
    Peeled p (dropEndWhile q text) text := by
  have h := (peeled_dropWhile hq text.reverse).reverse
  rwa [List.reverse_reverse] at h

theorem peeled_stripBoth (hq : ∀ c, q c = true → p c = true) (text : List Char) : Peeled p (stripBoth q text) text :=
  (peeled_dropEndWhile hq _).trans (peeled_dropWhile hq text)

theorem peeled_stripStart {mark : List Char} (hmark : ∀ c ∈ mark, p c = true) (text : List Char) :
    Peeled p (stripStart mark text) text := by
  fun_induction stripStart mark text with
  | case1 text h ih =>
      -- One mark is removed here, and the others by the recursion.
      refine ih.trans ⟨mark, [], ?_, hmark, by simp⟩
      rw [List.append_nil]
      exact (List.prefix_iff_eq_append.mp h.2).symm
  | case2 text h => exact Peeled.refl text

theorem peeled_stripEnd {mark : List Char} (hmark : ∀ c ∈ mark, p c = true) (text : List Char) :
    Peeled p (stripEnd mark text) text := by
  have hreverse : ∀ c ∈ mark.reverse, p c = true := by simpa using hmark
  have h := (peeled_stripStart hreverse text.reverse).reverse
  rwa [List.reverse_reverse] at h

theorem peeled_trimList (text : List Char) : Peeled isBlank (trimList text) text :=
  peeled_stripBoth (fun _ => id) text

/-- What is not removed is all there still. -/
theorem Peeled.filter_eq {inner text : List Char} (h : Peeled p inner text) (hpq : ∀ c, p c = true → q c = false) :
    inner.filter q = text.filter q := by
  obtain ⟨before, after, rfl, hbefore, hafter⟩ := h
  have hnone : ∀ cs : List Char, (∀ c ∈ cs, p c = true) → cs.filter q = [] := by
    intro cs hcs
    rw [List.filter_eq_nil_iff]
    intro c hc
    simp [hpq c (hcs c hc)]
  rw [List.filter_append, List.filter_append, hnone before hbefore, hnone after hafter]
  simp

/-- If all that can be removed is there still, nothing was removed. -/
theorem Peeled.eq_of_filter_eq {inner text : List Char} (h : Peeled p inner text)
    (hsame : inner.filter p = text.filter p) : inner = text := by
  obtain ⟨before, after, rfl, hbefore, hafter⟩ := h
  rw [List.filter_append, List.filter_append, List.filter_eq_self.mpr hbefore, List.filter_eq_self.mpr hafter] at hsame
  have hlength := congrArg List.length hsame
  simp only [List.length_append] at hlength
  have hb : before = [] := List.eq_nil_of_length_eq_zero (by omega)
  have ha : after = [] := List.eq_nil_of_length_eq_zero (by omega)
  rw [hb, ha, List.nil_append, List.append_nil]

/-- A text from which something is taken in two ways is whole only if neither takes anything. -/
theorem comp_eq_self_iff {f g : List Char → List Char} (hf : ∀ x, f x <:+: x) (hg : ∀ x, g x <:+: x)
    (cs : List Char) : f (g cs) = cs ↔ g cs = cs ∧ f cs = cs := by
  constructor
  · intro h
    have hfirst : g cs = cs := by
      refine List.infix_antisymm (hg cs) ?_
      have hinner := hf (g cs)
      rwa [h] at hinner
    rw [hfirst] at h
    exact ⟨hfirst, h⟩
  · rintro ⟨hfirst, hsecond⟩
    rw [hfirst, hsecond]

theorem stripBoth_eq_self_iff {cs : List Char} :
    stripBoth p cs = cs ↔ cs.head?.any p = false ∧ cs.getLast?.any p = false := by
  have hstart : cs.dropWhile p = cs ↔ cs.head?.any p = false := by
    cases cs with
    | nil => simp
    | cons c rest => simp [List.dropWhile_eq_self_iff]
  have hend : dropEndWhile p cs = cs ↔ cs.getLast?.any p = false := by
    rw [dropEndWhile_eq_rdropWhile, List.rdropWhile_eq_self_iff]
    rcases List.eq_nil_or_concat cs with rfl | ⟨z, c, rfl⟩
    · simp
    · simp
  have hboth := comp_eq_self_iff (f := dropEndWhile p) (g := List.dropWhile p)
    (fun x => (dropEndWhile_isPrefix x).isInfix) (fun x => (List.dropWhile_suffix p).isInfix) cs
  rw [stripBoth, hboth, hstart, hend]

/-- Where something was taken off both ends, there is nothing more to take off. -/
theorem ends_stripBoth (cs : List Char) :
    (stripBoth p cs).head?.any p = false ∧ (stripBoth p cs).getLast?.any p = false := by
  constructor
  · cases hcs : stripBoth p cs with
    | nil => rfl
    | cons c rest =>
        -- What is left begins as it did before its end was cut.
        obtain ⟨after, hafter⟩ : c :: rest <+: cs.dropWhile p := hcs ▸ dropEndWhile_isPrefix _
        have hfirst := List.head?_dropWhile_not p cs
        rw [← hafter] at hfirst
        simpa using hfirst
  · rcases List.eq_nil_or_concat (stripBoth p cs) with hcs | ⟨z, c, hcs⟩
    · rw [hcs]
      rfl
    · have hlast := List.rdropWhile_last_not p (cs.dropWhile p)
      rw [← dropEndWhile_eq_rdropWhile, ← stripBoth, hcs] at hlast
      simpa [hcs] using hlast

end CodeAtlas.Text

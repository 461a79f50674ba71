/-
What language statistics count.

The counts are built up one file after the other, and the main language is then found
by going through the languages in the order in which they were seen, keeping the best
one so far.  `Leads` is what holds of that one: no language before it has as many
files, and none after it has more.  As the languages were seen in the order of their
first files, it is the one with the most files whose first file comes earliest.

Each file raises one count by one, so all counts together are the number of files.
-/
import CodeAtlas.Classify.Statistics
import CodeAtlas.Proofs.Lists
import Mathlib.Algebra.Order.Field.Rat
import Mathlib.Data.List.Induction

namespace CodeAtlas.Classify.LanguageStatistics

/-! ### Counts -/

theorem getElem?_foldl_count (languages : List String) (l : String) :
    (languages.foldl count ∅)[l]? = if l ∈ languages then some (languages.count l) else none := by
  induction languages using List.reverseRecOn with
  | nil => simp
  | append_singleton before a ih =>
      rw [List.foldl_append, List.foldl_cons, List.foldl_nil, count, Std.TreeMap.getElem?_insert,
        Std.TreeMap.getD_eq_getD_getElem?, List.count_append]
      by_cases ha : a = l
      · subst ha
        rw [ih]
        by_cases hmem : a ∈ before
        · simp [hmem]
        · simp [hmem, List.count_eq_zero.mpr hmem]
      · rw [ih]
        simp [ha, Ne.symm ha]

/-- The counts have an entry for each language that occurs, with the number of its files. -/
theorem fileCounts_getElem? (languages : List String) (l : String) :
    (ofLanguages languages).fileCounts[l]? = if l ∈ languages then some (languages.count l) else none :=
  getElem?_foldl_count languages l

theorem getD_foldl_count (languages : List String) (l : String) :
    (languages.foldl count ∅).getD l 0 = languages.count l := by
  rw [Std.TreeMap.getD_eq_getD_getElem?, getElem?_foldl_count]
  by_cases hmem : l ∈ languages
  · rw [if_pos hmem, Option.getD_some]
  · rw [if_neg hmem, Option.getD_none, List.count_eq_zero.mpr hmem]

/-- One file in the loop over all of them: the counts so far, the languages in the order in which they were seen, and
the number of files. -/
def see (seen : Std.TreeMap String Nat × List String × Nat) (language : String) :
    Std.TreeMap String Nat × List String × Nat :=
  (count seen.1 language, if seen.1.getD language 0 = 0 then seen.2.1 ++ [language] else seen.2.1, seen.2.2 + 1)

/-- **One loop over the files finds the counts, the languages and the number of files.** -/
theorem foldl_see (languages : List String) : languages.foldl see (∅, [], 0) =
    ((ofLanguages languages).fileCounts, (ofLanguages languages).detectedLanguages,
      (ofLanguages languages).totalFiles) := by
  show _ = (languages.foldl count ∅, languages.eraseDups, languages.length)
  induction languages using List.reverseRecOn with
  | nil => rfl
  | append_singleton before a ih =>
      have hnew : (before.foldl count ∅).getD a 0 = 0 ↔ ¬before.eraseDups.contains a = true := by
        rw [getD_foldl_count, List.count_eq_zero, List.contains_iff_mem, List.mem_eraseDups]
      rw [List.foldl_append, ih, List.foldl_append, ← Lists.addNew_eraseDups, Lists.addNew, List.length_append]
      simp only [List.foldl_cons, List.foldl_nil, see, hnew, ite_not, List.length_singleton]

/-! ### Sums of counts -/

/-- All counts together. -/
def sum (counts : Std.TreeMap String Nat) : Nat :=
  counts.foldl (fun n _ k => n + k) 0

theorem foldl_add (entries : List (String × Nat)) : ∀ n : Nat,
    entries.foldl (fun n q => n + q.2) n = n + entries.foldl (fun n q => n + q.2) 0 := by
  induction entries with
  | nil => intro n; rfl
  | cons q rest ih =>
      intro n
      simp only [List.foldl_cons]
      rw [ih (n + q.2), ih (0 + q.2)]
      omega

theorem sum_eq_of_perm {counts : Std.TreeMap String Nat} {entries : List (String × Nat)}
    (h : counts.toList.Perm entries) : sum counts = entries.foldl (fun n q => n + q.2) 0 := by
  unfold sum
  rw [Std.TreeMap.foldl_eq_foldl_toList]
  refine h.foldl_eq' (fun a _ b _ n => ?_) 0
  omega

/-- Replacing a count changes the sum by the difference. -/
theorem sum_insert (counts : Std.TreeMap String Nat) (l : String) (n : Nat) :
    sum (counts.insert l n) + counts.getD l 0 = sum counts + n := by
  have hinsert : ∀ k, sum (counts.insert l k) =
      k + (counts.toList.filter (¬l == ·.1)).foldl (fun n q => n + q.2) 0 := by
    intro k
    rw [sum_eq_of_perm Std.TreeMap.toList_insert_perm, List.foldl_cons, foldl_add, Nat.zero_add]
  rw [Std.TreeMap.getD_eq_getD_getElem?, hinsert n]
  cases hl : counts[l]? with
  | none =>
      have hothers : counts.toList.filter (¬l == ·.1) = counts.toList := by
        rw [List.filter_eq_self]
        intro q hq
        have hentry : counts[q.1]? = some q.2 := Std.TreeMap.mem_toList_iff_getElem?_eq_some.mp hq
        have hne : l ≠ q.1 := fun heq => by simp [← heq, hl] at hentry
        simpa using hne
      rw [hothers, ← sum_eq_of_perm (.refl _), Option.getD_none, Nat.add_zero, Nat.add_comm]
  | some k =>
      -- Inserting the count that is there already changes nothing, and takes the entry apart from the others.
      have hsame : (counts.insert l k).Equiv counts := by
        refine Std.TreeMap.Equiv.of_forall_constGet?_eq fun m => ?_
        show (counts.insert l k)[m]? = counts[m]?
        rw [Std.TreeMap.getElem?_insert]
        by_cases hm : l = m
        · simp [← hm, hl]
        · simp [hm]
      have hsum : sum (counts.insert l k) = sum counts := by
        rw [sum_eq_of_perm (Std.TreeMap.equiv_iff_toList_perm.mp hsame), sum_eq_of_perm (.refl _)]
      rw [← hsum, hinsert k, Option.getD_some]
      omega

/-- One more file raises the sum by one. -/
theorem sum_count (counts : Std.TreeMap String Nat) (l : String) : sum (count counts l) = sum counts + 1 := by
  have hinsert := sum_insert counts l (counts.getD l 0 + 1)
  unfold count
  omega

theorem sum_foldl_count (languages : List String) : ∀ counts : Std.TreeMap String Nat,
    sum (languages.foldl count counts) = sum counts + languages.length := by
  induction languages with
  | nil => intro counts; rfl
  | cons l rest ih =>
      intro counts
      rw [List.foldl_cons, ih, sum_count, List.length_cons]
      omega

/-- All counts together are the number of files. -/
theorem sum_fileCounts (languages : List String) : sum (ofLanguages languages).fileCounts = languages.length := by
  have hempty : sum ∅ = 0 := rfl
  have hsum := sum_foldl_count languages ∅
  rw [hempty, Nat.zero_add] at hsum
  exact hsum

/-! ### The main language -/

/-- Of the languages `ls`, with `f` files each, `l` is the first with the most files. -/
def Leads (f : String → Nat) (ls : List String) (l : String) : Prop :=
  ∃ before after, ls = before ++ l :: after ∧ (∀ b ∈ before, f b < f l) ∧ ∀ a ∈ after, f a ≤ f l

section

variable {f : String → Nat} {ls : List String} {l : String}

theorem Leads.mem (h : Leads f ls l) : l ∈ ls := by
  obtain ⟨before, after, rfl, -, -⟩ := h
  exact List.mem_append_right before List.mem_cons_self

theorem Leads.le (h : Leads f ls l) {b : String} (hb : b ∈ ls) : f b ≤ f l := by
  obtain ⟨before, after, rfl, hbefore, hafter⟩ := h
  rcases List.mem_append.mp hb with hb | hb
  · exact Nat.le_of_lt (hbefore b hb)
  · rcases List.mem_cons.mp hb with rfl | hb
    · exact Nat.le_refl _
    · exact hafter b hb

/-- One more language that has no more files changes nothing. -/
theorem Leads.concat (h : Leads f ls l) {a : String} (ha : f a ≤ f l) : Leads f (ls ++ [a]) l := by
  obtain ⟨before, after, rfl, hbefore, hafter⟩ := h
  refine ⟨before, after ++ [a], by simp, hbefore, ?_⟩
  exact List.forall_mem_append.mpr ⟨hafter, List.forall_mem_singleton.mpr ha⟩

/-- One more language that has more files takes the place of the best one so far. -/
theorem Leads.beaten (h : Leads f ls l) {a : String} (ha : f l < f a) : Leads f (ls ++ [a]) a :=
  ⟨ls, [], rfl, fun _ hb => Nat.lt_of_le_of_lt (h.le hb) ha, fun _ hx => absurd hx List.not_mem_nil⟩

end

theorem foldl_better (f : String → Nat) (ls : List String) :
    (ls = [] ∧ ls.foldl (fun best l => better best l (f l)) none = none) ∨
      ∃ l, Leads f ls l ∧ ls.foldl (fun best l => better best l (f l)) none = some (l, f l) := by
  induction ls using List.reverseRecOn with
  | nil => exact Or.inl ⟨rfl, rfl⟩
  | append_singleton before a ih =>
      rw [List.foldl_append, List.foldl_cons, List.foldl_nil]
      refine Or.inr ?_
      rcases ih with ⟨rfl, hnone⟩ | ⟨l, hleads, hsome⟩
      · rw [hnone]
        exact ⟨a, ⟨[], [], rfl, by simp, by simp⟩, rfl⟩
      · rw [hsome]
        unfold better
        simp only []
        by_cases ha : f l < f a
        · rw [if_pos ha]
          exact ⟨a, hleads.beaten ha, rfl⟩
        · rw [if_neg ha]
          exact ⟨l, hleads.concat (Nat.le_of_not_lt ha), rfl⟩

/-- The main language is the best one among those that were seen, and there is none only if there are no files. -/
theorem ofLanguages_cases (languages : List String) :
    (languages = [] ∧ (ofLanguages languages).primaryLanguage = none ∧ (ofLanguages languages).confidence = 0) ∨
      ∃ l, Leads languages.count languages.eraseDups l ∧ (ofLanguages languages).primaryLanguage = some l ∧
        (ofLanguages languages).confidence = (languages.count l).toFloat / languages.length.toFloat := by
  have hcounts : (fun best l => better best l ((languages.foldl count ∅).getD l 0)) =
      fun best l => better best l (languages.count l) := by
    funext best l
    rw [getD_foldl_count]
  unfold ofLanguages
  simp only []
  rw [hcounts]
  rcases foldl_better languages.count languages.eraseDups with ⟨hnil, hnone⟩ | ⟨l, hleads, hsome⟩
  · refine Or.inl ⟨List.eq_nil_iff_forall_not_mem.mpr fun l hl => ?_, by rw [hnone]; rfl, by rw [hnone]⟩
    rw [← List.mem_eraseDups, hnil] at hl
    cases hl
  · exact Or.inr ⟨l, hleads, by rw [hsome]; rfl, by rw [hsome]⟩

/-- No language has more files than the main one, which has some. -/
theorem fileCounts_of_primaryLanguage {languages : List String} {l : String}
    (h : (ofLanguages languages).primaryLanguage = some l) :
    (ofLanguages languages).fileCounts[l]? = some (languages.count l) ∧ 0 < languages.count l ∧
      ∀ (other : String) (n : Nat), (ofLanguages languages).fileCounts[other]? = some n → n ≤ languages.count l := by
  rcases ofLanguages_cases languages with ⟨-, hnone, -⟩ | ⟨first, hleads, hsome, -⟩
  · rw [hnone] at h
    cases h
  · rw [hsome, Option.some.injEq] at h
    subst h
    have hmem : first ∈ languages := List.mem_eraseDups.mp hleads.mem
    refine ⟨by rw [fileCounts_getElem?, if_pos hmem], List.count_pos_iff.mpr hmem, ?_⟩
    intro other n hn
    rw [fileCounts_getElem?] at hn
    by_cases hother : other ∈ languages
    · rw [if_pos hother, Option.some.injEq] at hn
      exact hn ▸ hleads.le (List.mem_eraseDups.mpr hother)
    · rw [if_neg hother] at hn
      cases hn

/-- A language has the most files, and of several such languages its first file comes earliest. -/
def IsFirstMost (languages : List String) (l : String) : Prop :=
  l ∈ languages ∧ (∀ m ∈ languages, languages.count m ≤ languages.count l) ∧
    ∀ m ∈ languages, languages.count m = languages.count l → languages.idxOf l ≤ languages.idxOf m

/-- There is only one such language. -/
theorem IsFirstMost.unique {languages : List String} {l m : String} (hl : IsFirstMost languages l)
    (hm : IsFirstMost languages m) : l = m := by
  have hcount : languages.count l = languages.count m := Nat.le_antisymm (hm.2.1 l hl.1) (hl.2.1 m hm.1)
  have hidx : languages.idxOf l = languages.idxOf m :=
    Nat.le_antisymm (hl.2.2 m hm.1 hcount.symm) (hm.2.2 l hl.1 hcount)
  have hat := List.getElem_idxOf (List.idxOf_lt_length_of_mem hl.1)
  simp only [hidx] at hat
  rw [← hat, List.getElem_idxOf]

/-- The languages were seen in the order of their first files. -/
theorem Leads.isFirstMost {languages : List String} {l : String} (h : Leads languages.count languages.eraseDups l) :
    IsFirstMost languages l := by
  refine ⟨List.mem_eraseDups.mp h.mem, fun m hm => h.le (List.mem_eraseDups.mpr hm), fun m hm heq => ?_⟩
  obtain ⟨before, after, hsplit, hbefore, -⟩ := h
  have horder := Lists.eraseDups_pairwise_idxOf languages
  rw [hsplit, List.pairwise_append, List.pairwise_cons] at horder
  rw [← List.mem_eraseDups, hsplit] at hm
  rcases List.mem_append.mp hm with hm | hm
  · exact absurd heq (Nat.ne_of_lt (hbefore m hm))
  · rcases List.mem_cons.mp hm with rfl | hm
    · exact Nat.le_refl _
    · exact Nat.le_of_lt (horder.2.1.1 m hm)

theorem primaryLanguage_eq_none_iff (languages : List String) :
    (ofLanguages languages).primaryLanguage = none ↔ languages = [] := by
  rcases ofLanguages_cases languages with ⟨rfl, hnone, -⟩ | ⟨first, hleads, hsome, -⟩
  · simp [hnone]
  · have hne : languages ≠ [] := List.ne_nil_of_mem (List.mem_eraseDups.mp hleads.mem)
    simp [hsome, hne]

theorem primaryLanguage_eq_some_iff (languages : List String) (l : String) :
    (ofLanguages languages).primaryLanguage = some l ↔ IsFirstMost languages l := by
  rcases ofLanguages_cases languages with ⟨rfl, hnone, -⟩ | ⟨first, hleads, hsome, -⟩
  · simp [hnone, IsFirstMost]
  · rw [hsome, Option.some.injEq]
    constructor
    · rintro rfl
      exact hleads.isFirstMost
    · intro hl
      exact hleads.isFirstMost.unique hl

/-! ### Statistics as a whole -/

/-- What statistics say about the languages of some files. -/
structure Describes (s : LanguageStatistics) (languages : List String) : Prop where
  /-- Each language that occurs has its number of files, and no other language has an entry. -/
  fileCounts : ∀ l, s.fileCounts[l]? = if l ∈ languages then some (languages.count l) else none
  detected : ∀ l, l ∈ s.detectedLanguages ↔ l ∈ languages
  /-- The languages stand in the order of their first files, each of them once. -/
  order : s.detectedLanguages.Pairwise fun a b => languages.idxOf a < languages.idxOf b
  total : s.totalFiles = languages.length
  sum : sum s.fileCounts = s.totalFiles
  noPrimary : s.primaryLanguage = none ↔ languages = []
  primary : ∀ l, s.primaryLanguage = some l ↔ IsFirstMost languages l
  /-- What is divided is the count of the main language and the number of all files. -/
  confidence : s.confidence =
    (s.primaryLanguage.map fun l => (languages.count l).toFloat / s.totalFiles.toFloat).getD 0
  share : ∀ l, s.primaryLanguage = some l →
    0 < (languages.count l : ℚ) / s.totalFiles ∧ (languages.count l : ℚ) / s.totalFiles ≤ 1

/-- **Statistics count every file once, and the main language is the first one with the most files.** -/
theorem ofLanguages_describes (languages : List String) : (ofLanguages languages).Describes languages where
  fileCounts := fileCounts_getElem? languages
  detected l := List.mem_eraseDups
  order := Lists.eraseDups_pairwise_idxOf languages
  total := rfl
  sum := sum_fileCounts languages
  noPrimary := primaryLanguage_eq_none_iff languages
  primary := primaryLanguage_eq_some_iff languages
  confidence := by
    rcases ofLanguages_cases languages with ⟨-, hnone, hzero⟩ | ⟨first, -, hsome, hquotient⟩
    · rw [hnone, hzero]
      rfl
    · rw [hsome, hquotient]
      rfl
  share l hl := by
    obtain ⟨-, hpositive, -⟩ := fileCounts_of_primaryLanguage hl
    have htotal : (ofLanguages languages).totalFiles = languages.length := rfl
    have hcount : (0 : ℚ) < languages.count l := by exact_mod_cast hpositive
    have hle : (languages.count l : ℚ) ≤ languages.length := by exact_mod_cast List.count_le_length
    rw [htotal]
    exact ⟨div_pos hcount (lt_of_lt_of_le hcount hle), div_le_one_of_le₀ hle (le_trans hcount.le hle)⟩

end CodeAtlas.Classify.LanguageStatistics

/-
The scope that a call belongs to.

Going up from a name there is a first scope, if there is one at all: this is the scope
that is `enclosing` it.  The calls of a function are found the other way round, by
going down from the function until a scope is met.  Both ways agree, for what is
enclosed by a scope is found from there and from nowhere else.

Two sites of different depth are never the same, and this is all that is used to tell
scopes apart.
-/
import CodeAtlas.Outline.Calls
import CodeAtlas.Proofs.Syntax.Sites

namespace CodeAtlas.Outline.CallRules

open CodeAtlas.Syntax

variable {rules : CallRules}

/-- The first scope on the way up from a site. -/
def enclosing (rules : CallRules) : Site → Option Site
  | .root _ => none
  | .child _ _ above => if rules.isScope above then some above else rules.enclosing above

/-- The scope that encloses what stands directly in a site. -/
def around (rules : CallRules) (s : Site) : Option Site :=
  if rules.isScope s then some s else rules.enclosing s

/-! ### Going up -/

theorem enclosing_of_holds {s c : Site} (h : s.Holds c) : rules.enclosing c = rules.around s := by
  have habove := h.above
  cases c with
  | root n => cases habove
  | child n before above =>
      cases habove
      rfl

theorem around_of_isScope {s : Site} (h : rules.isScope s = true) : rules.around s = some s :=
  if_pos h

theorem around_of_not_isScope {s : Site} (h : ¬rules.isScope s = true) : rules.around s = rules.enclosing s :=
  if_neg h

theorem isScope_of_enclosing {f : Site} : ∀ {c : Site}, rules.enclosing c = some f → rules.isScope f = true := by
  intro c
  induction c with
  | root n => intro h; cases h
  | child n before above ih =>
      intro h
      unfold enclosing at h
      by_cases hscope : rules.isScope above = true
      · rw [if_pos hscope] at h
        cases h
        exact hscope
      · rw [if_neg hscope] at h
        exact ih h

theorem depth_lt_of_enclosing {f : Site} : ∀ {c : Site}, rules.enclosing c = some f → f.depth < c.depth := by
  intro c
  induction c with
  | root n => intro h; cases h
  | child n before above ih =>
      intro h
      unfold enclosing at h
      rw [Site.depth]
      by_cases hscope : rules.isScope above = true
      · rw [if_pos hscope] at h
        cases h
        omega
      · rw [if_neg hscope] at h
        have := ih h
        omega

theorem depth_le_of_around {s f : Site} (h : rules.around s = some f) : f.depth ≤ s.depth := by
  unfold around at h
  by_cases hscope : rules.isScope s = true
  · rw [if_pos hscope] at h
    cases h
    exact Nat.le_refl _
  · rw [if_neg hscope] at h
    exact Nat.le_of_lt (depth_lt_of_enclosing h)

/-- Below a site the first scope on the way up is also below it, or it is the same as for the children. -/
theorem enclosing_of_under (rules : CallRules) {s c : Site} (h : s.Under c) :
    rules.enclosing c = rules.around s ∨ ∃ f, rules.enclosing c = some f ∧ s.Under f ∧ f.Under c := by
  induction h with
  | child h => exact Or.inl (enclosing_of_holds h)
  | @step t c ht h ih =>
      rw [enclosing_of_holds h]
      by_cases hscope : rules.isScope t = true
      · exact Or.inr ⟨t, around_of_isScope hscope, ht, .child h⟩
      · rw [around_of_not_isScope hscope]
        rcases ih with hsame | ⟨f, hf, hsf, hft⟩
        · exact Or.inl hsame
        · exact Or.inr ⟨f, hf, hsf, .step hft h⟩

/-- In a tree, whatever a scope encloses is below it. -/
theorem under_of_enclosing {tree : Node} {c f : Site} (hc : (Site.root tree).Under c)
    (hf : rules.enclosing c = some f) : f.Under c := by
  rcases enclosing_of_under rules hc with hroot | ⟨g, hg, -, hgc⟩
  · rw [hf] at hroot
    by_cases hscope : rules.isScope (.root tree) = true
    · rw [around_of_isScope hscope] at hroot
      cases hroot
      exact hc
    · rw [around_of_not_isScope hscope] at hroot
      cases hroot
  · rw [hf] at hg
    cases hg
    exact hgc

/-! ### Going down -/

theorem mem_callees_iff_child {s c : Site} : c ∈ rules.callees s ↔
    ∃ t, s.Holds t ∧ (c = t ∧ rules.isCallee t = true ∨ ¬rules.isScope t = true ∧ c ∈ rules.callees t) := by
  have hpart : ∀ t : Site, c ∈ (if rules.isCallee t then [t] else []) ++
      (if rules.isScope t then [] else rules.callees t) ↔
        (c = t ∧ rules.isCallee t = true ∨ ¬rules.isScope t = true ∧ c ∈ rules.callees t) := by
    intro t
    by_cases hcallee : rules.isCallee t = true <;> by_cases hscope : rules.isScope t = true <;>
      simp [hcallee, hscope]
  rw [callees, List.mem_flatMap]
  constructor
  · rintro ⟨b, hb, hc⟩
    exact ⟨b.val, Site.holds_of_mem hb, (hpart _).mp hc⟩
  · rintro ⟨t, ⟨b, hb, rfl⟩, hc⟩
    exact ⟨b, hb, (hpart _).mpr hc⟩

/-- **Going down and going up agree**: below a site those names are found that the same scope encloses as the
children. -/
theorem mem_callees_iff {c : Site} : ∀ (n : Nat) (s : Site), s.size = n →
    (c ∈ rules.callees s ↔ s.Under c ∧ rules.isCallee c = true ∧ rules.enclosing c = rules.around s) := by
  intro n
  induction n using Nat.strongRecOn with
  | ind n ih =>
      intro s hn
      rw [mem_callees_iff_child]
      constructor
      · rintro ⟨t, ht, ⟨rfl, hcallee⟩ | ⟨hscope, hc⟩⟩
        · exact ⟨.child ht, hcallee, enclosing_of_holds ht⟩
        · obtain ⟨hunder, hcallee, henclosing⟩ := (ih t.size (hn ▸ ht.size_lt) t rfl).mp hc
          refine ⟨Site.Under.trans (.child ht) hunder, hcallee, ?_⟩
          rw [henclosing, around_of_not_isScope hscope, enclosing_of_holds ht]
      · rintro ⟨hunder, hcallee, henclosing⟩
        obtain ⟨t, ht, rfl | hbelow⟩ := Site.under_iff.mp hunder
        · exact ⟨c, ht, Or.inl ⟨rfl, hcallee⟩⟩
        -- A scope on the way would be deeper than the one that is known.
        have hscope : ¬rules.isScope t = true := by
          intro hscope
          have hdeep : ∃ f, rules.enclosing c = some f ∧ t.depth ≤ f.depth := by
            rcases enclosing_of_under rules hbelow with hsame | ⟨f, hf, htf, -⟩
            · exact ⟨t, hsame.trans (around_of_isScope hscope), Nat.le_refl _⟩
            · exact ⟨f, hf, Nat.le_of_lt htf.depth_lt⟩
          obtain ⟨f, hf, hdepth⟩ := hdeep
          have hle := depth_le_of_around (henclosing.symm.trans hf)
          have hst := Site.depth_of_above ht.above
          omega
        refine ⟨t, ht, Or.inr ⟨hscope, (ih t.size (hn ▸ ht.size_lt) t rfl).mpr ⟨hbelow, hcallee, ?_⟩⟩⟩
        rw [henclosing, around_of_not_isScope hscope, enclosing_of_holds ht]

/-- What is called in a scope. -/
theorem mem_callees_of_isScope {f c : Site} (hf : rules.isScope f = true) : c ∈ rules.callees f ↔
    f.Under c ∧ rules.isCallee c = true ∧ rules.enclosing c = some f := by
  rw [mem_callees_iff _ f rfl, around_of_isScope hf]

theorem under_of_mem_callees {s c : Site} (h : c ∈ rules.callees s) : s.Under c :=
  ((mem_callees_iff _ s rfl).mp h).1

/-- No name is found twice. -/
theorem nodup_callees (rules : CallRules) : ∀ (n : Nat) (s : Site), s.size = n → (rules.callees s).Nodup := by
  intro n
  induction n using Nat.strongRecOn with
  | ind n ih =>
      intro s hn
      rw [callees]
      have hline : ∀ (t c : Site), c ∈ (if rules.isCallee t then [t] else []) ++
          (if rules.isScope t then [] else rules.callees t) → t ∈ c.line := by
        intro t c hc
        rcases List.mem_append.mp hc with hc | hc
        · split at hc
          · rw [List.mem_singleton.mp hc]
            exact t.mem_line_self
          · cases hc
        · split at hc
          · cases hc
          · exact (under_of_mem_callees hc).mem_line
      refine List.pairwise_flatMap.mpr ⟨?_, ?_⟩
      · intro t ht
        refine List.pairwise_append.mpr ⟨?_, ?_, ?_⟩
        · split
          · exact List.pairwise_singleton _ _
          · exact List.Pairwise.nil
        · split
          · exact List.Pairwise.nil
          · exact ih t.val.size (hn ▸ t.property) t.val rfl
        · intro a ha b hb heq
          split at ha
          · split at hb
            · cases hb
            · have hdepth := (under_of_mem_callees hb).depth_lt
              rw [← heq, List.mem_singleton.mp ha] at hdepth
              exact Nat.lt_irrefl _ hdepth
          · cases ha
      · refine s.children_apart.imp ?_
        intro t u hapart a ha b hb heq
        exact hapart a (hline _ _ ha) (heq ▸ hline _ _ hb)

end CodeAtlas.Outline.CallRules

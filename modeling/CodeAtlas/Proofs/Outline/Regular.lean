/-
What readers have in common.

The readers of all languages look at a site in the same way.  What they find covers
the site, or else there are findings for some of the children, one child after the
other, as when a statement declares several variables.  At each such place there are
declarations with nothing inside, and then at most one finding by which the walk goes
on, further down.  This is what it means for a reader to be `Regular`.

It is all that is known of a language when one asks in which order elements come and
to which function a call belongs.
-/
import CodeAtlas.Outline.Calls
import CodeAtlas.Proofs.Outline.Stages
import CodeAtlas.Proofs.Syntax.Extents

namespace CodeAtlas.Outline

open CodeAtlas.Graph
open CodeAtlas.Syntax

/-- The calls among some references. -/
def callsIn (references : List Reference) : List Reference :=
  references.filter (·.kind == .calls)

/-- A finding at the site `d` by which the walk goes on.  It makes no calls, unless it is a function with a body. -/
inductive GoesOn (rules : CallRules) (source : Source) {s : Site} (d : Site) : Finding s → Prop
  /-- A function that is written at the site `f`. -/
  | function {e : Element} {references : List Reference} {body : Option s.Below} {f : Site}
      (covers : e.extent = d.extent) (kind : e.kind = .function) (written : f = d ∨ d.Under f)
      (holds : ∀ b, body = some b → f.Holds b.val)
      (calls : callsIn references = if body.isSome then rules.calls source e.id f else []) :
      GoesOn rules source d (.scope e references body true)
  /-- Anything else that other declarations stand in. -/
  | block {e : Element} {references : List Reference} {body : Option s.Below}
      (covers : e.extent = d.extent) (kind : e.kind ≠ .function) (holds : ∀ b, body = some b → d.Holds b.val)
      (calls : callsIn references = []) : GoesOn rules source d (.scope e references body false)
  | attached {owner : String} {references : List Reference} {body : Option s.Below}
      (holds : ∀ b, body = some b → d.Holds b.val) (calls : callsIn references = []) :
      GoesOn rules source d (.attached owner references body)
  | readOn {t : s.Below} (holds : d.Holds t.val) : GoesOn rules source d (.readOn t)
  | inside (here : d = s) : GoesOn rules source d .inside

/-- What is found at the site `d` when `s` is read: declarations that cover it, and something by which the walk
goes on. -/
inductive FoundAt (rules : CallRules) (source : Source) {s : Site} (d : Site) : List (Finding s) → Prop
  | leaves {elements : List Element} (covers : ∀ e ∈ elements, e.extent = d.extent) :
      FoundAt rules source d (elements.map .leaf)
  | more {elements : List Element} {found : Finding s} (covers : ∀ e ∈ elements, e.extent = d.extent)
      (goesOn : GoesOn rules source d found) : FoundAt rules source d (elements.map .leaf ++ [found])

/-- A reader finds something at the site itself, or at some of its children one after the other. -/
def Reader.Regular (rules : CallRules) (source : Source) (read : Reader) : Prop :=
  ∀ context s, FoundAt rules source s (read context s) ∨
    ∃ (held : List s.Below) (found : s.Below → List (Finding s)), held.Sublist s.children ∧
      read context s = held.flatMap found ∧ ∀ d ∈ held, FoundAt rules source d.val (found d)

section

variable {rules : CallRules} {source : Source} {s d : Site}

theorem foundAt_nil : FoundAt rules source d ([] : List (Finding s)) :=
  .leaves (List.forall_mem_nil _)

theorem foundAt_leaf {e : Element} (h : e.extent = d.extent) : FoundAt rules source d [(.leaf e : Finding s)] :=
  .leaves (List.forall_mem_singleton.mpr h)

theorem foundAt_of_goesOn {found : Finding s} (h : GoesOn rules source d found) : FoundAt rules source d [found] :=
  .more (List.forall_mem_nil _) h

/-- Nothing is called in references of another kind. -/
theorem callsIn_eq_nil {references : List Reference} (h : ∀ r ∈ references, r.kind ≠ .calls) :
    callsIn references = [] := by
  unfold callsIn
  rw [List.filter_eq_nil_iff]
  intro r hr
  simpa using h r hr

theorem callsIn_calls (id : String) (f : Site) : callsIn (rules.calls source id f) = rules.calls source id f := by
  unfold callsIn
  rw [List.filter_eq_self]
  intro r hr
  unfold CallRules.calls at hr
  split at hr
  · obtain ⟨c, -, rfl⟩ := List.mem_map.mp hr
    rfl
  · cases hr

end

/-! ### Where the walk goes on -/

section

variable {limit : Option Nat} {context : Context}

theorem mem_entered {s : Site} {u : Stage} (h : u ∈ entered limit context s) :
    s.Holds u.site ∧ u.context = context := by
  unfold entered at h
  cases hl : enter? limit with
  | none =>
      rw [hl] at h
      cases h
  | some limit' =>
      rw [hl] at h
      obtain ⟨c, hc, rfl⟩ := List.mem_map.mp h
      exact ⟨Site.holds_of_namedChild hc, rfl⟩

/-- The stages inside a site are in the order of its children. -/
theorem entered_pairwise {R : Site → Site → Prop} {s : Site}
    (h : s.children.Pairwise fun a b => R a.val b.val) :
    (entered limit context s).Pairwise fun u w => R u.site w.site := by
  unfold entered
  cases enter? limit with
  | none => exact List.Pairwise.nil
  | some limit' =>
      simp only [List.pairwise_map]
      exact h.sublist s.namedChildren_sublist

variable {rules : CallRules} {source : Source} {s d : Site} {found : Finding s}

/-- A finding leads to nothing, to the children of one site at `d` or below, or to one child of `d`. -/
theorem GoesOn.next_cases (h : GoesOn rules source d found) (limit : Option Nat) (context : Context) :
    found.next limit context = [] ∨
    (∃ t context', (t = d ∨ d.Under t) ∧ found.next limit context = entered limit context' t) ∨
    ∃ t, d.Holds t ∧ found.next limit context = [⟨limit, context, t⟩] := by
  cases h with
  | @function e references body f covers kind written holds calls =>
      cases body with
      | none => exact Or.inl rfl
      | some b =>
          refine Or.inr (Or.inl ⟨b.val, _, Or.inr ?_, rfl⟩)
          rcases written with rfl | hunder
          · exact .child (holds b rfl)
          · exact .step hunder (holds b rfl)
  | @block e references body covers kind holds calls =>
      cases body with
      | none => exact Or.inl rfl
      | some b => exact Or.inr (Or.inl ⟨b.val, _, Or.inr (.child (holds b rfl)), rfl⟩)
  | @attached owner references body holds calls =>
      cases body with
      | none => exact Or.inl rfl
      | some b => exact Or.inr (Or.inl ⟨b.val, _, Or.inr (.child (holds b rfl)), rfl⟩)
  | @readOn t holds => exact Or.inr (Or.inr ⟨t.val, holds, rfl⟩)
  | inside here => exact Or.inr (Or.inl ⟨s, context, Or.inl here.symm, rfl⟩)

theorem GoesOn.under (h : GoesOn rules source d found) {u : Stage} (hu : u ∈ found.next limit context) :
    d.Under u.site := by
  rcases h.next_cases limit context with hnil | ⟨t, context', ht, hnext⟩ | ⟨t, ht, hnext⟩
  · rw [hnil] at hu
    cases hu
  · rw [hnext] at hu
    rcases ht with rfl | hunder
    · exact .child (mem_entered hu).1
    · exact .step hunder (mem_entered hu).1
  · rw [hnext] at hu
    rw [List.mem_singleton.mp hu]
    exact .child ht

/-- The stages after a finding are in order, if the children of each site are. -/
theorem GoesOn.next_pairwise {R : Site → Site → Prop} (h : GoesOn rules source d found)
    (hR : ∀ t, t = d ∨ d.Under t → t.children.Pairwise fun a b => R a.val b.val) :
    (found.next limit context).Pairwise fun u w => R u.site w.site := by
  rcases h.next_cases limit context with hnil | ⟨t, context', ht, hnext⟩ | ⟨t, ht, hnext⟩
  · rw [hnil]
    exact List.Pairwise.nil
  · rw [hnext]
    exact entered_pairwise (hR t ht)
  · rw [hnext]
    exact List.pairwise_singleton _ _

theorem FoundAt.mem {fs : List (Finding s)} (h : FoundAt rules source d fs) (hfound : found ∈ fs) :
    (∃ e, found = .leaf e ∧ e.extent = d.extent) ∨ GoesOn rules source d found := by
  have hleaf : ∀ {elements : List Element}, (∀ e ∈ elements, e.extent = d.extent) →
      found ∈ elements.map .leaf → ∃ e, found = .leaf e ∧ e.extent = d.extent := by
    intro elements covers hmem
    obtain ⟨e, he, rfl⟩ := List.mem_map.mp hmem
    exact ⟨e, rfl, covers e he⟩
  cases h with
  | leaves covers => exact Or.inl (hleaf covers hfound)
  | more covers goesOn =>
      rcases List.mem_append.mp hfound with hmem | hmem
      · exact Or.inl (hleaf covers hmem)
      · rw [List.mem_singleton.mp hmem]
        exact Or.inr goesOn

/-- Whatever is found, it is found at the site or at a child of it. -/
theorem Reader.Regular.found_mem {read : Reader} (h : read.Regular rules source) (v : Stage) {found : Finding v.site}
    (hfound : found ∈ v.findings read) :
    ∃ d, (d = v.site ∨ v.site.Holds d) ∧
      ((∃ e, found = .leaf e ∧ e.extent = d.extent) ∨ GoesOn rules source d found) := by
  rcases h v.context v.site with hhere | ⟨held, foundIn, hsublist, heq, hheld⟩
  · exact ⟨v.site, Or.inl rfl, hhere.mem hfound⟩
  · unfold Stage.findings at hfound
    rw [heq] at hfound
    obtain ⟨d, hd, hmem⟩ := List.mem_flatMap.mp hfound
    exact ⟨d.val, Or.inr (Site.holds_of_mem (hsublist.subset hd)), (hheld d hd).mem hmem⟩

/-- **A walk only goes down.** -/
theorem Reader.Regular.next_under {read : Reader} (h : read.Regular rules source) {v u : Stage}
    (hu : u ∈ v.next read) : v.site.Under u.site := by
  obtain ⟨found, hfound, hu⟩ := List.mem_flatMap.mp hu
  obtain ⟨d, hd, ⟨e, rfl, -⟩ | hgoes⟩ := h.found_mem v hfound
  · cases hu
  · have hunder := hgoes.under hu
    rcases hd with rfl | hholds
    · exact hunder
    · exact Site.Under.trans (.child hholds) hunder

end
end CodeAtlas.Outline

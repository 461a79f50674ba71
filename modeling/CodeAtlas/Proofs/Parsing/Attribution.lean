/-
Which function a call belongs to.

A function asks for its calls when it is found, and so do the functions inside it.  No
call is reported twice by this, because every name belongs to the scope that encloses
it, and none is forgotten as long as that scope is a function at which the walk
arrives.

`Attributes` says of some references that the calls among them are those of a certain
relation between names and functions, each name once.  Such references can be put
together when the relations have no name in common.  Along a walk they have none: the
stages after a finding stand at sites that are apart, and all of them are deeper than
the function that was found.
-/
import CodeAtlas.Proofs.Language.Regular
import CodeAtlas.Proofs.Outline.Callees
import CodeAtlas.Proofs.Parsing.Extraction

namespace CodeAtlas.Outline

open CodeAtlas.Graph
open CodeAtlas.Syntax

/-- The reference for the name `call.1` of something that is called by the function `call.2`. -/
def callBy (source : Source) (call : Site × Element) : Reference :=
  ⟨call.2.id, source.textOf call.1.node, .calls, call.1.start.row + 1⟩

/-- The calls among some references are exactly those of names by functions that are in the relation `P`, and there is
one for each name. -/
def Attributes (source : Source) (references : List Reference) (P : Site → Element → Prop) : Prop :=
  ∃ calls : List (Site × Element), callsIn references = calls.map (callBy source) ∧
    (calls.map Prod.fst).Nodup ∧ ∀ c e, (c, e) ∈ calls ↔ P c e

/-! ### How attributions are put together -/

section

variable {source : Source}

theorem attributes_of_no_calls {references : List Reference} {P : Site → Element → Prop}
    (hnone : callsIn references = []) (hP : ∀ c e, ¬P c e) : Attributes source references P := by
  refine ⟨[], hnone, List.nodup_nil, ?_⟩
  intro c e
  simp [hP c e]

theorem Attributes.congr {references : List Reference} {P Q : Site → Element → Prop}
    (h : Attributes source references P) (hPQ : ∀ c e, P c e ↔ Q c e) : Attributes source references Q := by
  obtain ⟨calls, heq, hnodup, hmem⟩ := h
  exact ⟨calls, heq, hnodup, fun c e => (hmem c e).trans (hPQ c e)⟩

theorem Attributes.append {a b : List Reference} {P Q : Site → Element → Prop} (ha : Attributes source a P)
    (hb : Attributes source b Q) (hdisjoint : ∀ c e e', P c e → ¬Q c e') :
    Attributes source (a ++ b) fun c e => P c e ∨ Q c e := by
  obtain ⟨callsA, heqA, hnodupA, hmemA⟩ := ha
  obtain ⟨callsB, heqB, hnodupB, hmemB⟩ := hb
  refine ⟨callsA ++ callsB, ?_, ?_, ?_⟩
  · unfold callsIn at *
    rw [List.filter_append, heqA, heqB, List.map_append]
  · rw [List.map_append]
    refine List.nodup_append.mpr ⟨hnodupA, hnodupB, ?_⟩
    intro c hc c' hc' hsame
    obtain ⟨⟨_, e⟩, he, rfl⟩ := List.mem_map.mp hc
    obtain ⟨⟨_, e'⟩, he', rfl⟩ := List.mem_map.mp hc'
    cases hsame
    exact hdisjoint _ e e' ((hmemA _ e).mp he) ((hmemB _ e').mp he')
  · intro c e
    rw [List.mem_append, hmemA, hmemB]

theorem attributes_flatMap {α : Type} {f : α → List Reference} {P : α → Site → Element → Prop} :
    ∀ {parts : List α}, (∀ a ∈ parts, Attributes source (f a) (P a)) →
      (parts.Pairwise fun a b => ∀ c e e', P a c e → ¬P b c e') →
      Attributes source (parts.flatMap f) fun c e => ∃ a ∈ parts, P a c e := by
  intro parts
  induction parts with
  | nil =>
      intro _ _
      refine attributes_of_no_calls rfl ?_
      rintro c e ⟨a, ha, -⟩
      cases ha
  | cons a rest ih =>
      intro hparts hpairwise
      obtain ⟨hfirst, hrest⟩ := List.pairwise_cons.mp hpairwise
      have htail := ih (fun b hb => hparts b (List.mem_cons_of_mem _ hb)) hrest
      have hboth := (hparts a List.mem_cons_self).append htail ?_
      · rw [List.flatMap_cons]
        refine hboth.congr ?_
        intro c e
        simp only [List.mem_cons, exists_eq_or_imp]
      · rintro c e e' hc ⟨b, hb, hb'⟩
        exact hfirst b hb c e e' hc hb'

end

/-! ### Functions that a walk finds -/

/-- The walk from the stage `v` on finds a function `e` with a body that is written at the site `f`. -/
def Stage.Emits (read : Reader) (v : Stage) (e : Element) (f : Site) : Prop :=
  ∃ w, Stage.Visits read v w ∧ w.Declares read e f

/-- A finding is a function `e` written at `f`, or it leads to one. -/
def Stage.EmitsAfter (read : Reader) (v : Stage) (found : Finding v.site) (e : Element) (f : Site) : Prop :=
  found.IsFunction e f ∨ ∃ u ∈ found.next v.limit v.context, u.Emits read e f

/-- The name `c` belongs to a function `e` that is in the relation `E` to the site where it is written. -/
def Owns (rules : CallRules) (E : Element → Site → Prop) (c : Site) (e : Element) : Prop :=
  rules.isCallee c = true ∧ ∃ f, rules.enclosing c = some f ∧ f.Under c ∧ E e f

section

variable {rules : CallRules} {source : Source} {read : Reader} {e : Element} {f : Site}

theorem Stage.emits_iff {v : Stage} :
    v.Emits read e f ↔ ∃ found ∈ v.findings read, v.EmitsAfter read found e f := by
  constructor
  · rintro ⟨w, hvisits, hdeclares⟩
    rcases Stage.visits_iff.mp hvisits with rfl | ⟨u, hu, hw⟩
    · obtain ⟨found, hfound, hfunction⟩ := hdeclares
      exact ⟨found, hfound, Or.inl hfunction⟩
    · obtain ⟨found, hfound, hu⟩ := List.mem_flatMap.mp hu
      exact ⟨found, hfound, Or.inr ⟨u, hu, w, hw, hdeclares⟩⟩
  · rintro ⟨found, hfound, hfunction | ⟨u, hu, w, hw, hdeclares⟩⟩
    · exact ⟨v, .here v, found, hfound, hfunction⟩
    · exact ⟨w, .later (List.mem_flatMap.mpr ⟨found, hfound, hu⟩) hw, hdeclares⟩

theorem Stage.not_emitsAfter_leaf {v : Stage} (leaf : Element) : ¬v.EmitsAfter read (.leaf leaf) e f := by
  rintro (hfunction | ⟨u, hu, -⟩)
  · exact hfunction
  · cases hu

theorem owns_exists {α : Type} {E : α → Element → Site → Prop} {parts : List α} {c : Site} :
    Owns rules (fun e f => ∃ a ∈ parts, E a e f) c e ↔ ∃ a ∈ parts, Owns rules (E a) c e := by
  constructor
  · rintro ⟨hcallee, f, hf, hunder, a, ha, hE⟩
    exact ⟨a, ha, hcallee, f, hf, hunder, hE⟩
  · rintro ⟨a, ha, hcallee, f, hf, hunder, hE⟩
    exact ⟨hcallee, f, hf, hunder, a, ha, hE⟩

theorem owns_or {E F : Element → Site → Prop} {c : Site} :
    Owns rules (fun e f => E e f ∨ F e f) c e ↔ Owns rules E c e ∨ Owns rules F c e := by
  constructor
  · rintro ⟨hcallee, f, hf, hunder, hE | hF⟩
    · exact Or.inl ⟨hcallee, f, hf, hunder, hE⟩
    · exact Or.inr ⟨hcallee, f, hf, hunder, hF⟩
  · rintro (⟨hcallee, f, hf, hunder, hE⟩ | ⟨hcallee, f, hf, hunder, hF⟩)
    · exact ⟨hcallee, f, hf, hunder, Or.inl hE⟩
    · exact ⟨hcallee, f, hf, hunder, Or.inr hF⟩

theorem owns_congr {E F : Element → Site → Prop} (h : ∀ e f, E e f ↔ F e f) (c : Site) (e : Element) :
    Owns rules E c e ↔ Owns rules F c e := by
  unfold Owns
  simp only [h]

/-- A function that goes on at `d` is written at `d` or below, and there is one site where it is written. -/
theorem GoesOn.isFunction {s d : Site} {found : Finding s} (h : GoesOn rules source d found)
    (hfunction : found.IsFunction e f) : (f = d ∨ d.Under f) ∧
      callsIn found.references = rules.calls source e.id f ∧ (∀ e' f', found.IsFunction e' f' → e' = e ∧ f' = f) ∧
      ∀ limit context, ∀ u ∈ found.next limit context, f.Under u.site := by
  cases h with
  | @function e₀ references body f₀ covers kind written holds calls =>
      cases body with
      | none => exact hfunction.elim
      | some b =>
          obtain ⟨rfl, -, habove⟩ := hfunction
          have hholds := holds b rfl
          rw [hholds.above] at habove
          cases habove
          refine ⟨written, calls, ?_, ?_⟩
          · rintro e' f' ⟨rfl, -, habove'⟩
            rw [hholds.above] at habove'
            cases habove'
            exact ⟨rfl, rfl⟩
          · intro limit context u hu
            exact .step (.child hholds) (mem_entered hu).1
  | @block e₀ references body covers kind holds calls => cases body <;> exact hfunction.elim
  | attached => exact hfunction.elim
  | readOn => exact hfunction.elim
  | inside => exact hfunction.elim

/-- Whatever makes calls is a function with a body. -/
theorem GoesOn.calls_eq_nil {s d : Site} {found : Finding s} (h : GoesOn rules source d found)
    (hnone : ∀ e f, ¬found.IsFunction e f) : callsIn found.references = [] := by
  cases h with
  | @function e₀ references body f₀ covers kind written holds calls =>
      cases body with
      | none => exact calls
      | some b => exact absurd ⟨rfl, kind, (holds b rfl).above⟩ (hnone e₀ f₀)
  | block covers kind holds calls => exact calls
  | attached holds calls => exact calls
  | readOn => rfl
  | inside => rfl

/-! ### Where functions are found -/

theorem GoesOn.within_of_emitsAfter {v : Stage} {d : Site} {found : Finding v.site} (h : GoesOn rules source d found)
    (hbelow : ∀ u ∈ found.next v.limit v.context, u.Emits read e f → f = u.site ∨ u.site.Under f)
    (hemits : v.EmitsAfter read found e f) : f = d ∨ d.Under f := by
  rcases hemits with hfunction | ⟨u, hu, hemits⟩
  · exact (h.isFunction hfunction).1
  · refine Or.inr ?_
    rcases hbelow u hu hemits with rfl | hunder
    · exact h.under hu
    · exact (h.under hu).trans hunder

/-- Functions are found where the walk comes from or below. -/
theorem Reader.Regular.within_of_emits (h : read.Regular rules source) : ∀ (n : Nat) (v : Stage),
    v.site.size = n → v.Emits read e f → f = v.site ∨ v.site.Under f := by
  intro n
  induction n using Nat.strongRecOn with
  | ind n ih =>
      intro v hn hemits
      obtain ⟨found, hfound, hafter⟩ := Stage.emits_iff.mp hemits
      have hbelow : ∀ u ∈ found.next v.limit v.context, u.Emits read e f → f = u.site ∨ u.site.Under f := by
        intro u hu hu'
        have hunder := h.next_under (List.mem_flatMap.mpr ⟨found, hfound, hu⟩)
        exact ih u.site.size (hn ▸ hunder.size_lt) u rfl hu'
      obtain ⟨d, hd, ⟨e', rfl, -⟩ | hgoes⟩ := h.found_mem v hfound
      · exact absurd hafter (Stage.not_emitsAfter_leaf e')
      · have hwithin := hgoes.within_of_emitsAfter hbelow hafter
        rcases hd with rfl | hholds
        · exact hwithin
        · refine Or.inr ?_
          rcases hwithin with rfl | hunder
          · exact .child hholds
          · exact Site.Under.trans (.child hholds) hunder

/-- What belongs to functions that are found at a site is below it. -/
theorem FoundAt.under_of_owns (hread : read.Regular rules source) {v : Stage} {d c : Site}
    {fs : List (Finding v.site)} (h : FoundAt rules source d fs)
    (hc : Owns rules (fun e f => ∃ found ∈ fs, v.EmitsAfter read found e f) c e) : d.Under c := by
  obtain ⟨-, f, -, hunder, found, hfound, hemits⟩ := hc
  rcases h.mem hfound with ⟨leaf, rfl, -⟩ | hgoes
  · exact absurd hemits (Stage.not_emitsAfter_leaf leaf)
  · have hwithin := hgoes.within_of_emitsAfter (fun u _ => hread.within_of_emits _ u rfl) hemits
    exact Site.Under.of_within hwithin hunder

theorem Reader.Regular.under_of_owns (h : read.Regular rules source) {u : Stage} {c : Site}
    (hc : Owns rules (u.Emits read) c e) : u.site.Under c := by
  obtain ⟨-, f, -, hunder, hemits⟩ := hc
  exact Site.Under.of_within (h.within_of_emits _ u rfl hemits) hunder

/-- No name belongs to functions that are found from sites that are apart. -/
theorem Reader.Regular.not_owns_of_apart (h : read.Regular rules source) {u w : Stage} (hapart : u.site.Apart w.site)
    (c : Site) (e e' : Element) (hu : Owns rules (u.Emits read) c e) : ¬Owns rules (w.Emits read) c e' :=
  fun hw => hapart c (h.under_of_owns hu).mem_line (h.under_of_owns hw).mem_line

/-! ### The calls of a walk -/

/-- The calls that a finding makes itself are those of names that belong to it. -/
theorem GoesOn.attributes {s d : Site} {found : Finding s} (h : GoesOn rules source d found) :
    Attributes source found.references (Owns rules found.IsFunction) := by
  by_cases hfunction : ∃ e f, found.IsFunction e f
  · obtain ⟨e, f, hfunction⟩ := hfunction
    obtain ⟨-, hcalls, honly, -⟩ := h.isFunction hfunction
    unfold CallRules.calls at hcalls
    by_cases hscope : rules.isScope f = true
    · rw [if_pos hscope] at hcalls
      refine ⟨(rules.callees f).map (·, e), ?_, ?_, ?_⟩
      · rw [hcalls, List.map_map]
        rfl
      · rw [List.map_map]
        exact (List.map_id _).symm ▸ rules.nodup_callees _ f rfl
      · intro c e'
        constructor
        · intro hc
          obtain ⟨c', hc', heq⟩ := List.mem_map.mp hc
          cases heq
          obtain ⟨hunder, hcallee, henclosing⟩ := (CallRules.mem_callees_of_isScope hscope).mp hc'
          exact ⟨hcallee, f, henclosing, hunder, hfunction⟩
        · rintro ⟨hcallee, f', henclosing, hunder, hfunction'⟩
          obtain ⟨rfl, rfl⟩ := honly e' f' hfunction'
          have hc := (CallRules.mem_callees_of_isScope hscope).mpr ⟨hunder, hcallee, henclosing⟩
          exact List.mem_map.mpr ⟨c, hc, rfl⟩
    · -- What is no scope encloses nothing.
      rw [if_neg hscope] at hcalls
      refine attributes_of_no_calls hcalls ?_
      rintro c e' ⟨-, f', henclosing, -, hfunction'⟩
      obtain ⟨-, rfl⟩ := honly e' f' hfunction'
      exact hscope (CallRules.isScope_of_enclosing henclosing)
  · have hnone : ∀ e f, ¬found.IsFunction e f := fun e f hf => hfunction ⟨e, f, hf⟩
    refine attributes_of_no_calls (h.calls_eq_nil hnone) ?_
    rintro c e ⟨-, f, -, -, hf⟩
    exact hnone e f hf

/-- The calls of one finding and of all that it leads to. -/
theorem GoesOn.attributes_after (hread : read.Regular rules source) {v : Stage} {d : Site} {found : Finding v.site}
    (h : GoesOn rules source d found)
    (hbelow : ∀ u ∈ found.next v.limit v.context,
      Attributes source (u.extraction read).references (Owns rules (u.Emits read))) :
    Attributes source (found.references ++ v.referencesAfter read found)
      (Owns rules (v.EmitsAfter read found)) := by
  have hapart : (found.next v.limit v.context).Pairwise fun u w => u.site.Apart w.site :=
    h.next_pairwise (R := Site.Apart) fun t _ => t.children_apart
  have hafter : Attributes source (v.referencesAfter read found)
      fun c e => ∃ u ∈ found.next v.limit v.context, Owns rules (u.Emits read) c e := by
    exact attributes_flatMap hbelow (hapart.imp hread.not_owns_of_apart)
  refine (h.attributes.append hafter ?_).congr ?_
  · -- The function itself is above everything that comes after it.
    rintro c e e' ⟨-, f, hf, -, hfunction⟩ ⟨u, hu, -, f', hf', -, hemits⟩
    rw [hf] at hf'
    cases hf'
    have hunder := (h.isFunction hfunction).2.2.2 _ _ u hu
    have hloop := Site.Under.of_within (hread.within_of_emits _ u rfl hemits) hunder
    exact Nat.lt_irrefl _ hloop.depth_lt
  · intro c e
    rw [← owns_exists, ← owns_or]
    rfl

/-- The calls of what is found at one site. -/
theorem FoundAt.attributes (hread : read.Regular rules source) {v : Stage} {d : Site} {fs : List (Finding v.site)}
    (h : FoundAt rules source d fs)
    (hbelow : ∀ found ∈ fs, ∀ u ∈ found.next v.limit v.context,
      Attributes source (u.extraction read).references (Owns rules (u.Emits read))) :
    Attributes source (fs.flatMap fun found => found.references ++ v.referencesAfter read found)
      (Owns rules fun e f => ∃ found ∈ fs, v.EmitsAfter read found e f) := by
  have hleaves : ∀ elements : List Element, ((elements.map Finding.leaf).flatMap
      fun found => found.references ++ v.referencesAfter read found) = [] := by
    intro elements
    rw [List.flatMap_eq_nil_iff]
    intro found hfound
    obtain ⟨e, -, rfl⟩ := List.mem_map.mp hfound
    rfl
  cases h with
  | @leaves elements covers =>
      rw [hleaves]
      refine attributes_of_no_calls rfl ?_
      rintro c e' ⟨-, f, -, -, found, hfound, hemits⟩
      obtain ⟨e, -, rfl⟩ := List.mem_map.mp hfound
      exact Stage.not_emitsAfter_leaf e hemits
  | @more elements found covers goesOn =>
      rw [List.flatMap_append, hleaves, List.flatMap_singleton, List.nil_append]
      have hlast : found ∈ elements.map Finding.leaf ++ [found] :=
        List.mem_append_right _ List.mem_cons_self
      refine (goesOn.attributes_after hread (hbelow found hlast)).congr (owns_congr ?_)
      intro e' f
      constructor
      · intro hemits
        exact ⟨found, hlast, hemits⟩
      · rintro ⟨other, hother, hemits⟩
        rcases List.mem_append.mp hother with hother | hother
        · obtain ⟨e, -, rfl⟩ := List.mem_map.mp hother
          exact absurd hemits (Stage.not_emitsAfter_leaf e)
        · rw [← List.mem_singleton.mp hother]
          exact hemits

/-- **A walk reports the calls of the functions that it finds**, from any stage on. -/
theorem Reader.Regular.attributes (h : read.Regular rules source) : ∀ (n : Nat) (v : Stage), v.site.size = n →
    Attributes source (v.extraction read).references (Owns rules (v.Emits read)) := by
  intro n
  induction n using Nat.strongRecOn with
  | ind n ih =>
      intro v hn
      have hbelow : ∀ found ∈ v.findings read, ∀ u ∈ found.next v.limit v.context,
          Attributes source (u.extraction read).references (Owns rules (u.Emits read)) := by
        intro found hfound u hu
        have hunder := h.next_under (List.mem_flatMap.mpr ⟨found, hfound, hu⟩)
        exact ih u.site.size (hn ▸ hunder.size_lt) u rfl
      rw [Stage.references_eq]
      rcases h v.context v.site with hhere | ⟨held, found, hsublist, heq, hheld⟩
      · exact (FoundAt.attributes h hhere hbelow).congr (owns_congr fun e f => Stage.emits_iff.symm)
      · have hfindings : v.findings read = held.flatMap found := heq
        rw [hfindings] at hbelow ⊢
        rw [List.flatMap_assoc]
        refine (attributes_flatMap
          (P := fun d => Owns rules fun e f => ∃ g ∈ found d, v.EmitsAfter read g e f) ?_ ?_).congr ?_
        · intro d hd
          refine FoundAt.attributes h (hheld d hd) ?_
          exact fun g hg => hbelow g (List.mem_flatMap.mpr ⟨d, hd, hg⟩)
        · -- What is found at a child is below it, and children are apart.
          refine (v.site.children_apart.sublist hsublist).imp_of_mem ?_
          intro a b ha hb hab c e e' hca hcb
          have hac := FoundAt.under_of_owns h (hheld a ha) hca
          have hbc := FoundAt.under_of_owns h (hheld b hb) hcb
          exact hab c hac.mem_line hbc.mem_line
        · intro c e
          rw [← owns_exists]
          refine owns_congr ?_ c e
          intro e f
          rw [Stage.emits_iff, hfindings]
          constructor
          · rintro ⟨d, hd, g, hg, hemits⟩
            exact ⟨g, List.mem_flatMap.mpr ⟨d, hd, hg⟩, hemits⟩
          · rintro ⟨g, hg, hemits⟩
            obtain ⟨d, hd, hg⟩ := List.mem_flatMap.mp hg
            exact ⟨d, hd, g, hg, hemits⟩

end

/-! ### Whole trees -/

/-- The walk through a tree finds a function `e` with a body that is written at the site `f`. -/
def EmitsIn (read : Reader) (limit : Option Nat) (tree : Node) (e : Element) (f : Site) : Prop :=
  ∃ w, Reaches read limit tree w ∧ w.Declares read e f

section

variable {rules : CallRules} {source : Source} {read : Reader} {limit : Option Nat} {tree : Node} {e : Element}
  {f : Site}

theorem emitsIn_iff : EmitsIn read limit tree e f ↔
    ∃ u ∈ entered limit ⟨none, false⟩ (.root tree), u.Emits read e f := by
  constructor
  · rintro ⟨w, ⟨u, hu, hvisits⟩, hdeclares⟩
    exact ⟨u, hu, w, hvisits, hdeclares⟩
  · rintro ⟨u, hu, w, hvisits, hdeclares⟩
    exact ⟨w, ⟨u, hu, hvisits⟩, hdeclares⟩

theorem Reader.Regular.attributes_ofTree (h : read.Regular rules source) (limit : Option Nat) (tree : Node) :
    Attributes source (extractionAll (ofTree read limit tree)).references
      (Owns rules (EmitsIn read limit tree)) := by
  have hapart : (entered limit ⟨none, false⟩ (.root tree)).Pairwise fun u w => u.site.Apart w.site :=
    entered_pairwise (R := Site.Apart) (Site.children_apart _)
  unfold ofTree
  rw [references_walkInside]
  refine (attributes_flatMap (fun u _ => h.attributes _ u rfl) (hapart.imp h.not_owns_of_apart)).congr ?_
  intro c e
  rw [← owns_exists]
  exact owns_congr (fun e f => emitsIn_iff.symm) c e

theorem Reader.Regular.within_of_emitsIn (h : read.Regular rules source) (hemits : EmitsIn read limit tree e f) :
    (Site.root tree).Under f := by
  obtain ⟨u, hu, hemits⟩ := emitsIn_iff.mp hemits
  have hroot : (Site.root tree).Under u.site := .child (mem_entered hu).1
  rcases h.within_of_emits _ u rfl hemits with rfl | hunder
  · exact hroot
  · exact hroot.trans hunder

/-! ### Functions are among the elements -/

theorem Stage.elements_subset {v u : Stage} (hu : u ∈ v.next read) :
    (u.extraction read).elements ⊆ (v.extraction read).elements := by
  intro e he
  obtain ⟨found, hfound, hu⟩ := List.mem_flatMap.mp hu
  rw [Stage.elements_eq v]
  exact List.mem_flatMap.mpr ⟨found, hfound, List.mem_append_right _ (List.mem_flatMap.mpr ⟨u, hu, he⟩)⟩

theorem Stage.Visits.elements_subset {v w : Stage} (h : Stage.Visits read v w) :
    (w.extraction read).elements ⊆ (v.extraction read).elements := by
  induction h with
  | here => exact List.Subset.refl _
  | later hu _ ih => exact List.Subset.trans ih (Stage.elements_subset hu)

theorem Reaches.elements_subset {v : Stage} (h : Reaches read limit tree v) :
    (v.extraction read).elements ⊆ (extractionAll (ofTree read limit tree)).elements := by
  obtain ⟨u, hu, hvisits⟩ := h
  intro e he
  unfold ofTree
  rw [elements_walkInside]
  exact List.mem_flatMap.mpr ⟨u, hu, hvisits.elements_subset he⟩

/-- What is found at a stage is declared there, apart from the children that it gets. -/
theorem Stage.mem_elements_of_scope {v : Stage} {references : List Reference} {body : Option v.site.Below}
    {isFunction : Bool} (h : Finding.scope e references body isFunction ∈ v.findings read) :
    ∃ children, { e with children := children } ∈ (v.extraction read).elements := by
  have hmem : e.withChildren (childrenOf e.id (v.elementsAfter read (.scope e references body isFunction))) ∈
      (v.extraction read).elements := by
    rw [Stage.elements_eq]
    exact List.mem_flatMap.mpr ⟨_, h, List.mem_append_left _ (List.mem_singleton.mpr rfl)⟩
  exact ⟨_, hmem⟩

theorem Stage.Declares.mem_elements {v : Stage} (h : v.Declares read e f) :
    e.kind = .function ∧ ∃ children, { e with children := children } ∈ (v.extraction read).elements := by
  obtain ⟨found, hfound, hfunction⟩ := h
  unfold Finding.IsFunction at hfunction
  split at hfunction
  · obtain ⟨rfl, hkind, -⟩ := hfunction
    exact ⟨hkind, Stage.mem_elements_of_scope hfound⟩
  · exact hfunction.elim

theorem EmitsIn.mem_elements (h : EmitsIn read limit tree e f) : e.kind = .function ∧
    ∃ children, { e with children := children } ∈ (extractionAll (ofTree read limit tree)).elements := by
  obtain ⟨w, hreaches, hdeclares⟩ := h
  obtain ⟨hkind, children, hmem⟩ := hdeclares.mem_elements
  exact ⟨hkind, children, hreaches.elements_subset hmem⟩

end
end CodeAtlas.Outline

namespace CodeAtlas.Parsing

open CodeAtlas.Graph
open CodeAtlas.Outline
open CodeAtlas.Syntax

/-! ### In files -/

theorem mem_allGrammars_of_callRules {support : Support} {rules : CallRules}
    (h : (support, rules) ∈ Language.callRules) : support ∈ allGrammars := by
  have hmem : support ∈ Language.callRules.map Prod.fst := List.mem_map.mpr ⟨_, h, rfl⟩
  exact hmem

theorem references_extract {support : Support} (hs : support ∈ allGrammars) (limit : Option Nat) (source : Source)
    (tree : Node) : (support.extract limit source tree).references =
      (extractionAll (ofTree (support.read source) limit tree)).references := by
  unfold Support.extract
  rcases mem_allGrammars.mp hs with hd | rfl
  · rw [(direct_places hd source).2.2]
    rfl
  · rfl

/-- The functions that a walk finds are elements of the file, with some list of children. -/
theorem mem_extract_of_emitsIn {support : Support} (hs : support ∈ allGrammars) {limit : Option Nat} {source : Source}
    {tree : Node} {e : Element} {f : Site} (h : EmitsIn (support.read source) limit tree e f) :
    ∃ children, { e with children := children } ∈ (support.extract limit source tree).elements := by
  obtain ⟨-, children, hmem⟩ := h.mem_elements
  unfold Support.extract
  rcases mem_allGrammars.mp hs with hd | rfl
  · rw [(direct_places hd source).2.2]
    exact ⟨children, hmem⟩
  · obtain ⟨linked, hlinked⟩ := Language.Rust.linkElement_eq
      (extractionAll (ofTree (Language.rust.read source) limit tree)).relationships { e with children := children }
    refine ⟨linked, ?_⟩
    show _ ∈ (Language.Rust.linkMembers _).elements
    exact Language.Rust.mem_linkMembers.mpr ⟨_, hmem, hlinked.symm⟩

/--
**Calls belong to the function that encloses them**, whatever the tree and in each of
the four languages.  The calls of a file are those of names whose enclosing scope is a
function with a body that the walk has found, and every such name gives one call: by
that function, with the text of the name and at its line.  These functions are among
the elements of the file.
-/
theorem calls_by_enclosing_function (support : Support) (rules : CallRules)
    (hrules : (support, rules) ∈ Language.callRules) (limit : Option Nat) (source : Source) (tree : Node) :
    (∃ calls : List (Site × Element),
      (support.extract limit source tree).references.filter (·.kind == .calls) =
        calls.map (fun call => ⟨call.2.id, source.textOf call.1.node, .calls, call.1.start.row + 1⟩) ∧
      (calls.map Prod.fst).Nodup ∧
      ∀ c e, (c, e) ∈ calls ↔ (Site.root tree).Under c ∧ rules.isCallee c = true ∧
        ∃ f, rules.enclosing c = some f ∧ EmitsIn (support.read source) limit tree e f) ∧
    ∀ e f, EmitsIn (support.read source) limit tree e f → e.kind = .function ∧
      ∃ children, { e with children := children } ∈ (support.extract limit source tree).elements := by
  have hs := mem_allGrammars_of_callRules hrules
  have hregular := Language.regular_of_mem hrules source
  refine ⟨?_, fun e f h => ⟨h.mem_elements.1, mem_extract_of_emitsIn hs h⟩⟩
  rw [references_extract hs]
  obtain ⟨calls, heq, hnodup, hmem⟩ := hregular.attributes_ofTree limit tree
  refine ⟨calls, heq, hnodup, ?_⟩
  intro c e
  rw [hmem]
  constructor
  · rintro ⟨hcallee, f, hf, hunder, hemits⟩
    exact ⟨(hregular.within_of_emitsIn hemits).trans hunder, hcallee, f, hf, hemits⟩
  · rintro ⟨hroot, hcallee, f, hf, hemits⟩
    exact ⟨hcallee, f, hf, CallRules.under_of_enclosing hroot hf, hemits⟩

/-- The tree of `h();` at a column. -/
def Line.call (l : Line) (column : Nat) : Node :=
  l.node "expression_statement" none column (column + 4) [
    l.node "call_expression" none column (column + 3) [
      l.node "identifier" (some "function") column (column + 1) [],
      l.node "arguments" (some "arguments") (column + 1) (column + 3) [l.sign "(" (column + 1), l.sign ")" (column + 2)]],
    l.sign ";" (column + 3)]

/-- The tree of `function f() { function g() { h(); } h(); } h();`. -/
def nestedFunctions : Node :=
  let l : Line := ⟨0, 0⟩
  .mk "program" true none (l.span 0 48) [
    l.node "function_declaration" none 0 43 [
      l.sign "function" 0,
      l.node "identifier" (some "name") 9 10 [],
      l.node "formal_parameters" (some "parameters") 10 12 [l.sign "(" 10, l.sign ")" 11],
      l.node "statement_block" (some "body") 13 43 [
        l.sign "\x7b" 13,
        l.node "function_declaration" none 15 36 [
          l.sign "function" 15,
          l.node "identifier" (some "name") 24 25 [],
          l.node "formal_parameters" (some "parameters") 25 27 [l.sign "(" 25, l.sign ")" 26],
          l.node "statement_block" (some "body") 28 36 [l.sign "\x7b" 28, l.call 30, l.sign "\x7d" 35]],
        l.call 37,
        l.sign "\x7d" 42]],
    l.call 44]

/-- Three calls of the same name: one by each of two functions, and one that belongs to none. -/
theorem calls_of_nested_functions :
    let source : Source := ⟨"a.js", "function f() \x7b function g() \x7b h(); \x7d h(); \x7d h();\n"⟩
    let x := Language.javascript.extract (some depthLimit) source nestedFunctions
    (Language.javascript, Language.JavaScript.callRules) ∈ Language.callRules ∧
    x.references = [⟨"a.js:f", "h", .calls, 1⟩, ⟨"a.js:f:g", "h", .calls, 1⟩] ∧
    ∃ calls : List (Site × Element), calls.length = 2 ∧ (calls.map Prod.fst).Nodup ∧
      ∀ c e, (c, e) ∈ calls ↔ (Site.root nestedFunctions).Under c ∧
        Language.JavaScript.callRules.isCallee c = true ∧
        ∃ f, Language.JavaScript.callRules.enclosing c = some f ∧
          EmitsIn (Language.javascript.read source) (some depthLimit) nestedFunctions e f := by
  intro source x
  have hrules : (Language.javascript, Language.JavaScript.callRules) ∈ Language.callRules :=
    List.mem_cons_of_mem _ List.mem_cons_self
  have hreferences : x.references = [⟨"a.js:f", "h", .calls, 1⟩, ⟨"a.js:f:g", "h", .calls, 1⟩] := by decide +kernel
  obtain ⟨calls, heq, hnodup, hmem⟩ :=
    (calls_by_enclosing_function _ _ hrules (some depthLimit) source nestedFunctions).1
  refine ⟨hrules, hreferences, calls, ?_, hnodup, hmem⟩
  have hlength := congrArg List.length heq
  rw [List.length_map] at hlength
  rw [← hlength]
  show (x.references.filter _).length = 2
  rw [hreferences]
  rfl

end CodeAtlas.Parsing

/-
What a bound on the depth leaves out.

A walk that may enter only so many lists of children inside each other gives up in some
places and goes on in others.  What it does find is the same as without the bound, so
the extraction of the bounded walk is `PartOf` that of the walk without a bound.  Only
two things are made from what was found inside, the children of a declaration and the
relationships to them, and those shrink as well.

A child is listed where it first occurs, and a child that occurs twice may lose its
first place and not its second.  So relationships may change places.  This is why
`PartOf` counts them and looks at nothing else, and why it does not look at the children
of an element.

`nesting` is how deep a walk without a bound goes.  A bound that is no smaller is never
felt.
-/
import CodeAtlas.Proofs.Lists
import CodeAtlas.Proofs.Outline.Nesting
import Mathlib.Data.List.Perm.Subperm

namespace CodeAtlas.Graph.Extraction

/-- What is found in `x` is found in `y`: elements, except for their children, and references in the same order, and
relationships at least as often. -/
structure PartOf (x y : Extraction) : Prop where
  elements : (x.elements.map (·.withChildren [])).Sublist (y.elements.map (·.withChildren []))
  relationships : x.relationships.Subperm y.relationships
  references : x.references.Sublist y.references

theorem PartOf.refl (x : Extraction) : PartOf x x :=
  ⟨List.Sublist.refl _, List.Subperm.refl _, List.Sublist.refl _⟩

theorem empty_partOf (x : Extraction) : PartOf .empty x :=
  ⟨List.nil_sublist _, List.nil_subperm, List.nil_sublist _⟩

theorem PartOf.append {a b c d : Extraction} (hab : PartOf a b) (hcd : PartOf c d) : PartOf (a ++ c) (b ++ d) := by
  refine ⟨?_, hab.relationships.append hcd.relationships, hab.references.append hcd.references⟩
  simp only [elements_append, List.map_append]
  exact hab.elements.append hcd.elements

theorem PartOf.ids {x y : Extraction} (h : PartOf x y) :
    (x.elements.map Element.id).Sublist (y.elements.map Element.id) := by
  have hids : ∀ elements : List Element,
      (elements.map (·.withChildren [])).map Element.id = elements.map Element.id := by
    intro elements
    rw [List.map_map]
    rfl
  rw [← hids x.elements, ← hids y.elements]
  exact h.elements.map _

/-- The identifiers of what stands in the declaration `id`, as often as they are declared. -/
theorem PartOf.members {x y : Extraction} (h : PartOf x y) (id : String) :
    ((x.elements.filter (·.parent == some id)).map Element.id).Sublist
      ((y.elements.filter (·.parent == some id)).map Element.id) := by
  have hmembers : ∀ elements : List Element,
      ((elements.map (·.withChildren [])).filter (·.parent == some id)).map Element.id =
        (elements.filter (·.parent == some id)).map Element.id := by
    intro elements
    rw [List.filter_map, List.map_map]
    rfl
  rw [← hmembers x.elements, ← hmembers y.elements]
  exact (h.elements.filter _).map _

end CodeAtlas.Graph.Extraction

namespace CodeAtlas.Outline

open CodeAtlas.Graph
open CodeAtlas.Graph.Extraction
open CodeAtlas.Syntax

/-! ### Each way of putting extractions together -/

theorem childrenOf_subperm {x y : Extraction} (h : PartOf x y) (id : String) :
    (childrenOf id x.elements).Subperm (childrenOf id y.elements) := by
  refine List.Nodup.subperm (Lists.nodup_eraseDups _) fun c hc => ?_
  exact List.mem_eraseDups.mpr ((h.members id).subset (List.mem_eraseDups.mp hc))

theorem partOf_enclose (e : Element) {x y : Extraction} (h : PartOf x y) : PartOf (enclose e x) (enclose e y) := by
  refine ⟨h.elements.cons_cons (e.withChildren []), ?_, h.references⟩
  obtain ⟨kept, hperm, hkept⟩ := childrenOf_subperm h e.id
  exact List.Subperm.append ⟨_, hperm.map _, hkept.map _⟩ h.relationships

theorem partOf_attach (owner : String) {x y : Extraction} (h : PartOf x y) :
    PartOf (attach owner x) (attach owner y) := by
  have hfacts : ∀ elements : List Element,
      elements.map (fun e => (⟨owner, e.id, .contains⟩ : Relationship)) =
        (elements.map Element.id).map fun c => ⟨owner, c, .contains⟩ := by
    intro elements
    rw [List.map_map]
    rfl
  refine ⟨h.elements, ?_, h.references⟩
  unfold attach
  simp only [hfacts]
  exact ((h.members owner).map _).subperm.append h.relationships

theorem extractionAll_append (a b : List Outline) :
    extractionAll (a ++ b) = extractionAll a ++ extractionAll b := by
  induction a with
  | nil => rfl
  | cons part rest ih =>
      rw [List.cons_append, extractionAll, extractionAll, ih]
      show Extraction.mk _ _ _ = Extraction.mk _ _ _
      simp only [elements_append, relationships_append, references_append, List.append_assoc]

theorem extractionAll_singleton (part : Outline) : extractionAll [part] = part.extraction := by
  show Extraction.mk _ _ _ = _
  simp [extractionAll, Extraction.empty]

/-- What is found in many places, one after the other. -/
theorem partOf_flatMap {α : Type} {f g : α → List Outline} : ∀ {l : List α},
    (∀ a ∈ l, PartOf (extractionAll (f a)) (extractionAll (g a))) →
      PartOf (extractionAll (l.flatMap f)) (extractionAll (l.flatMap g)) := by
  intro l
  induction l with
  | nil => intro _; exact PartOf.refl _
  | cons a rest ih =>
      intro h
      rw [List.flatMap_cons, List.flatMap_cons, extractionAll_append, extractionAll_append]
      exact (h a List.mem_cons_self).append (ih fun b hb => h b (List.mem_cons_of_mem _ hb))

/-! ### A bounded walk -/

theorem walkInside_partOf {read : Reader} {limit : Option Nat} {context : Context} {s : Site}
    (h : ∀ limit', ∀ c ∈ s.namedChildren,
      PartOf (extractionAll (walk read limit' context c.val)) (extractionAll (walk read none context c.val))) :
    PartOf (extractionAll (walkInside read limit context s)) (extractionAll (walkInside read none context s)) := by
  unfold walkInside
  cases enter? limit with
  | none => exact empty_partOf _
  | some limit' => exact partOf_flatMap fun c hc => h limit' c hc

/-- What the walk makes of one finding, if it is so of all that is smaller. -/
theorem ofFinding_partOf {read : Reader} {limit : Option Nat} {context : Context} {s : Site}
    (h : ∀ limit' context' (t : Site), t.size < s.size →
      PartOf (extractionAll (walk read limit' context' t)) (extractionAll (walk read none context' t)))
    (found : Finding s) :
    PartOf (extractionAll (ofFinding read limit context found)) (extractionAll (ofFinding read none context found)) := by
  have hinside : ∀ context' (t : Site), t.size ≤ s.size →
      PartOf (extractionAll (walkInside read limit context' t)) (extractionAll (walkInside read none context' t)) :=
    fun context' t ht => walkInside_partOf fun limit' c _ =>
      h limit' context' c.val (Nat.lt_of_lt_of_le c.property ht)
  have hbody : ∀ context' references (body : Option s.Below),
      PartOf (⟨[], [], references⟩ ++ extractionAll (body.elim [] fun b => walkInside read limit context' b.val))
        (⟨[], [], references⟩ ++ extractionAll (body.elim [] fun b => walkInside read none context' b.val)) := by
    intro context' references body
    refine (PartOf.refl _).append ?_
    cases body with
    | none => exact PartOf.refl _
    | some b => exact hinside context' b.val (Nat.le_of_lt b.property)
  cases found with
  | leaf e => exact PartOf.refl _
  | scope e references body isFunction =>
      rw [ofFinding, ofFinding, extractionAll_singleton, extractionAll_singleton]
      exact partOf_enclose e (hbody _ references body)
  | attached owner references body =>
      rw [ofFinding, ofFinding, extractionAll_singleton, extractionAll_singleton]
      exact partOf_attach owner (hbody _ references body)
  | readOn t => exact h limit context t.val t.property
  | inside => exact hinside context s (Nat.le_refl _)

/-- **A bound only removes.**  The induction is on the size of the site. -/
theorem walk_partOf (read : Reader) : ∀ (n : Nat) (limit : Option Nat) (context : Context) (s : Site), s.size = n →
    PartOf (extractionAll (walk read limit context s)) (extractionAll (walk read none context s)) := by
  intro n
  induction n using Nat.strongRecOn with
  | ind n ih =>
      intro limit context s hs
      rw [walk_eq, walk_eq]
      refine partOf_flatMap fun found _ => ofFinding_partOf (fun limit' context' t ht => ?_) found
      exact ih t.size (hs ▸ ht) limit' context' t rfl

theorem ofTree_partOf (read : Reader) (limit : Option Nat) (tree : Node) :
    PartOf (extractionAll (ofTree read limit tree)) (extractionAll (ofTree read none tree)) :=
  walkInside_partOf fun limit' c _ => walk_partOf read _ limit' _ c.val rfl

/-! ### How deep a walk goes -/

/-- The largest of some numbers, and zero if there are none. -/
def largest (ns : List Nat) : Nat :=
  ns.foldr Nat.max 0

theorem largest_le_iff {ns : List Nat} {m : Nat} : largest ns ≤ m ↔ ∀ n ∈ ns, n ≤ m := by
  unfold largest
  induction ns with
  | nil => simp
  | cons n rest ih => rw [List.foldr_cons, Nat.max_le, ih, List.forall_mem_cons]

/-- How many lists of children a walk without a bound enters inside each other at most, from a site on. -/
def nesting (read : Reader) (context : Context) (s : Site) : Nat :=
  let within (context : Context) : Option s.Below → Nat
    | none => 0
    | some b => 1 + largest (b.val.namedChildren.map fun c => nesting read context c.val)
  largest ((read context s).map fun
    | .leaf _ => 0
    | .scope e _ body isFunction => within ⟨some e.id, isFunction⟩ body
    | .attached owner _ body => within ⟨some owner, false⟩ body
    | .readOn t => nesting read context t.val
    | .inside => 1 + largest (s.namedChildren.map fun c => nesting read context c.val))
termination_by s.size
decreasing_by
  · exact Nat.lt_trans c.property b.property
  · exact t.property
  · exact c.property

/-- The same for a walk through what stands directly below a site, which enters its list of children first. -/
def nestingInside (read : Reader) (context : Context) (s : Site) : Nat :=
  1 + largest (s.namedChildren.map fun c => nesting read context c.val)

/-- The same for a walk that goes on from a finding. -/
def Finding.nesting (read : Reader) (context : Context) {s : Site} : Finding s → Nat
  | .leaf _ => 0
  | .scope e _ body isFunction => body.elim 0 fun b => nestingInside read ⟨some e.id, isFunction⟩ b.val
  | .attached owner _ body => body.elim 0 fun b => nestingInside read ⟨some owner, false⟩ b.val
  | .readOn t => Outline.nesting read context t.val
  | .inside => nestingInside read context s

theorem nesting_eq (read : Reader) (context : Context) (s : Site) :
    nesting read context s = largest ((read context s).map (Finding.nesting read context)) := by
  rw [nesting]
  congr 2
  funext found
  cases found with
  | leaf e => rfl
  | scope e references body isFunction => cases body <;> rfl
  | attached owner references body => cases body <;> rfl
  | readOn t => rfl
  | inside => rfl

theorem walkInside_eq_of_nesting_le {read : Reader} {context : Context} {s : Site} {n : Nat}
    (h : ∀ m, ∀ c ∈ s.namedChildren, nesting read context c.val ≤ m →
      walk read (some m) context c.val = walk read none context c.val)
    (hn : nestingInside read context s ≤ n) :
    walkInside read (some n) context s = walkInside read none context s := by
  unfold nestingInside at hn
  obtain ⟨m, rfl⟩ : ∃ m, n = m + 1 := ⟨n - 1, by omega⟩
  have hchildren : ∀ c ∈ s.namedChildren, nesting read context c.val ≤ m :=
    List.forall_mem_map.mp (largest_le_iff.mp (by omega))
  exact List.flatMap_congr fun c hc => h m c hc (hchildren c hc)

theorem ofFinding_eq_of_nesting_le {read : Reader} {context : Context} {s : Site} {n : Nat}
    (h : ∀ m context' (t : Site), t.size < s.size → nesting read context' t ≤ m →
      walk read (some m) context' t = walk read none context' t)
    {found : Finding s} (hn : found.nesting read context ≤ n) :
    ofFinding read (some n) context found = ofFinding read none context found := by
  have hinside : ∀ context' (t : Site), t.size ≤ s.size → nestingInside read context' t ≤ n →
      walkInside read (some n) context' t = walkInside read none context' t :=
    fun context' t ht => walkInside_eq_of_nesting_le fun m c _ =>
      h m context' c.val (Nat.lt_of_lt_of_le c.property ht)
  have hbody : ∀ context' (body : Option s.Below),
      (body.elim 0 fun b => nestingInside read context' b.val) ≤ n →
        (body.elim [] fun b => walkInside read (some n) context' b.val) =
          body.elim [] fun b => walkInside read none context' b.val := by
    intro context' body hle
    cases body with
    | none => rfl
    | some b => exact hinside context' b.val (Nat.le_of_lt b.property) hle
  cases found with
  | leaf e => rfl
  | scope e references body isFunction => rw [ofFinding, ofFinding, hbody _ body hn]
  | attached owner references body => rw [ofFinding, ofFinding, hbody _ body hn]
  | readOn t => exact h n context t.val t.property hn
  | inside => exact hinside context s (Nat.le_refl _) hn

/-- **A bound that is not exceeded is not felt.** -/
theorem walk_eq_of_nesting_le (read : Reader) : ∀ (size n : Nat) (context : Context) (s : Site), s.size = size →
    nesting read context s ≤ n → walk read (some n) context s = walk read none context s := by
  intro size
  induction size using Nat.strongRecOn with
  | ind size ih =>
      intro n context s hs hn
      rw [nesting_eq, largest_le_iff, List.forall_mem_map] at hn
      rw [walk_eq, walk_eq]
      refine List.flatMap_congr fun found hfound => ofFinding_eq_of_nesting_le (fun m context' t ht => ?_) (hn found hfound)
      exact ih t.size (hs ▸ ht) m context' t rfl

/-- How many lists of children a walk through a tree enters inside each other at most, if nothing bounds it. -/
def nestingOf (read : Reader) (tree : Node) : Nat :=
  nestingInside read ⟨none, false⟩ (.root tree)

theorem ofTree_eq_of_nesting_le {read : Reader} {n : Nat} {tree : Node} (h : nestingOf read tree ≤ n) :
    ofTree read (some n) tree = ofTree read none tree :=
  walkInside_eq_of_nesting_le (fun m c _ => walk_eq_of_nesting_le read _ m _ c.val rfl) h

end CodeAtlas.Outline

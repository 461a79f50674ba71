/-
Where declarations are placed by a walk.

A reader looks at one node at a time.  What it finds there is placed when it says
the right things about itself: an element belongs to the file being read and names
as its parent the declaration around it, and the references of a scope start at
that scope.  `Finding.Placed` says so of one finding, and it is all that has to be
checked of a language.

The walk carries this to whole outlines.  `walk_induction` is the one induction
over syntax trees: a property of outlines that follows, constructor by constructor,
from what the reader finds holds of everything the walk returns, whatever the tree
and wherever the bound on the depth cuts it off.
-/
import CodeAtlas.Outline.Walk

namespace CodeAtlas.Graph

/-- The children of an element, none of them if it has no list of children. -/
def Element.childIds (e : Element) : List String :=
  e.children.getD []

@[simp] theorem Element.childIds_withChildren (e : Element) (children : List String) :
    (e.withChildren children).childIds = children := by
  unfold Element.childIds Element.withChildren
  cases children with
  | nil => rfl
  | cons c rest => rfl

/-- An element as readers make it: of the file `path`, not yet with children, and inside the declaration `parent`
unless it is an import. -/
structure Element.Placed (path : String) (parent : Option String) (e : Element) : Prop where
  file : e.filePath = path
  childless : e.children = none
  inside : e.parent = if e.kind = .dependency then none else parent

end CodeAtlas.Graph

namespace CodeAtlas.Outline

open CodeAtlas.Graph
open CodeAtlas.Syntax

/-- The identifier of a type named `name` inside `parent`, which is where its implementations put their items. -/
def memberId (path : String) (parent : Option String) (name : String) : String :=
  parent.getD path ++ ":" ++ name

/-- What a reader finds is placed in the circumstances in which it was found. -/
def Finding.Placed (path : String) (context : Context) {s : Site} : Finding s → Prop
  | .leaf e => e.Placed path context.parent
  | .scope e references _ _ =>
    e.Placed path context.parent ∧ e.kind ≠ .dependency ∧ ∀ r ∈ references, r.source = e.id
  | .attached owner references _ =>
    (∃ name, owner = memberId path context.parent name) ∧ ∀ r ∈ references, r.source = owner
  | .readOn _ | .inside => True

/-- Whether a finding puts declarations into a type declared elsewhere. -/
def Finding.isAttached {s : Site} : Finding s → Bool
  | .attached _ _ _ => true
  | _ => false

/-- Everything that a reader finds is placed. -/
def Reader.Places (path : String) (read : Reader) : Prop :=
  ∀ context s, ∀ f ∈ read context s, f.Placed path context

/-- A reader puts every declaration where it stands. -/
def Reader.Direct (read : Reader) : Prop :=
  ∀ context s, ∀ f ∈ read context s, f.isAttached = false

/-- An outline whose elements and references are placed, inside the declaration `parent` of the file `path`. -/
inductive Placed (path : String) : Option String → Outline → Prop
  | leaf {parent : Option String} {e : Element} (he : e.Placed path parent) : Placed path parent (.leaf e)
  | scope {parent : Option String} {e : Element} {references : List Reference} {parts : List Outline}
      (he : e.Placed path parent) (hkind : e.kind ≠ .dependency) (hrefs : ∀ r ∈ references, r.source = e.id)
      (hparts : ∀ part ∈ parts, Placed path (some e.id) part) :
      Placed path parent (.scope e references parts)
  | attached {parent : Option String} {owner : String} {references : List Reference} {parts : List Outline}
      (howner : ∃ name, owner = memberId path parent name) (hrefs : ∀ r ∈ references, r.source = owner)
      (hparts : ∀ part ∈ parts, Placed path (some owner) part) :
      Placed path parent (.attached owner references parts)

/-- An outline in which nothing is attached to a type declared elsewhere. -/
inductive Direct : Outline → Prop
  | leaf {e : Element} : Direct (.leaf e)
  | scope {e : Element} {references : List Reference} {parts : List Outline}
      (hparts : ∀ part ∈ parts, Direct part) : Direct (.scope e references parts)

/-! ### The walk, finding by finding -/

/-- What the walk makes of one finding. -/
def ofFinding (read : Reader) (limit : Option Nat) (context : Context) {s : Site} : Finding s → List Outline
  | .leaf e => [.leaf e]
  | .scope e references body isFunction =>
    [.scope e references (body.elim [] fun b => walkInside read limit ⟨some e.id, isFunction⟩ b.val)]
  | .attached owner references body =>
    [.attached owner references (body.elim [] fun b => walkInside read limit ⟨some owner, false⟩ b.val)]
  | .readOn t => walk read limit context t.val
  | .inside => walkInside read limit context s

theorem walk_eq (read : Reader) (limit : Option Nat) (context : Context) (s : Site) :
    walk read limit context s = (read context s).flatMap (ofFinding read limit context) := by
  rw [walk]
  congr 1
  funext f
  cases f with
  | leaf e => rfl
  | scope e references body isFunction => cases body <;> rfl
  | attached owner references body => cases body <;> rfl
  | readOn t => rfl
  | inside => rfl

theorem mem_walkInside {read : Reader} {limit : Option Nat} {context : Context} {s : Site} {part : Outline}
    (h : part ∈ walkInside read limit context s) :
    ∃ limit', ∃ c ∈ s.namedChildren, part ∈ walk read limit' context c.val := by
  unfold walkInside at h
  cases hl : enter? limit with
  | none => simp [hl] at h
  | some limit' =>
      rw [hl] at h
      obtain ⟨c, hc, hpart⟩ := List.mem_flatMap.mp h
      exact ⟨limit', c, hc, hpart⟩

/--
**One induction for all trees.**  What follows for a part from what the reader
found at its node, and from the parts inside it, holds of all that a walk returns.
-/
theorem walk_induction {read : Reader} {Q : Context → Outline → Prop}
    (hleaf : ∀ {context s e}, .leaf e ∈ read context s → Q context (.leaf e))
    (hscope : ∀ {context s e references body isFunction parts},
      .scope e references body isFunction ∈ read context s →
      (∀ part ∈ parts, Q ⟨some e.id, isFunction⟩ part) → Q context (.scope e references parts))
    (hattached : ∀ {context s owner references body parts},
      .attached owner references body ∈ read context s →
      (∀ part ∈ parts, Q ⟨some owner, false⟩ part) → Q context (.attached owner references parts)) :
    ∀ (n : Nat) (limit : Option Nat) (context : Context) (s : Site), s.size = n →
      ∀ part ∈ walk read limit context s, Q context part := by
  intro n
  induction n using Nat.strongRecOn with
  | ind n ih =>
      intro limit context s hs part hpart
      -- Everything below `s` is smaller, so the hypothesis covers whole bodies too.
      have hinside : ∀ (context' : Context) (t : Site), t.size ≤ s.size →
          ∀ part ∈ walkInside read limit context' t, Q context' part := by
        intro context' t ht part hp
        obtain ⟨limit', c, -, hc⟩ := mem_walkInside hp
        exact ih c.val.size (hs ▸ Nat.lt_of_lt_of_le c.property ht) limit' context' c.val rfl part hc
      have hbody : ∀ (context' : Context) (body : Option s.Below),
          ∀ part ∈ body.elim [] fun b => walkInside read limit context' b.val, Q context' part := by
        intro context' body part hp
        cases body with
        | none => simp at hp
        | some b => exact hinside context' b.val (Nat.le_of_lt b.property) part hp
      rw [walk_eq] at hpart
      obtain ⟨f, hf, hpart⟩ := List.mem_flatMap.mp hpart
      cases f with
      | leaf e =>
          rw [List.mem_singleton.mp hpart]
          exact hleaf hf
      | scope e references body isFunction =>
          rw [List.mem_singleton.mp hpart]
          exact hscope hf (hbody _ body)
      | attached owner references body =>
          rw [List.mem_singleton.mp hpart]
          exact hattached hf (hbody _ body)
      | readOn t => exact ih t.val.size (hs ▸ t.property) limit context t.val rfl part hpart
      | inside => exact hinside context s (Nat.le_refl _) part hpart

/-! ### Placed findings make placed outlines -/

theorem walk_placed {path : String} {read : Reader} (h : read.Places path) (limit : Option Nat)
    (context : Context) (s : Site) : ∀ part ∈ walk read limit context s, Placed path context.parent part := by
  refine walk_induction (Q := fun context part => Placed path context.parent part) ?_ ?_ ?_ _ limit context s rfl
  · intro context s e hf
    exact .leaf (h context s _ hf)
  · intro context s e references body isFunction parts hf hparts
    obtain ⟨he, hkind, hrefs⟩ := h context s _ hf
    exact .scope he hkind hrefs hparts
  · intro context s owner references body parts hf hparts
    obtain ⟨howner, hrefs⟩ := h context s _ hf
    exact .attached howner hrefs hparts

theorem walk_direct {read : Reader} (h : read.Direct) (limit : Option Nat) (context : Context) (s : Site) :
    ∀ part ∈ walk read limit context s, Direct part := by
  refine walk_induction (Q := fun _ part => Direct part) ?_ ?_ ?_ _ limit context s rfl
  · intro context s e _
    exact .leaf
  · intro context s e references body isFunction parts _ hparts
    exact .scope hparts
  · intro context s owner references body parts hf _
    have := h context s _ hf
    cases this

theorem ofTree_placed {path : String} {read : Reader} (h : read.Places path) (limit : Option Nat) (tree : Node) :
    ∀ part ∈ ofTree read limit tree, Placed path none part := by
  intro part hpart
  obtain ⟨limit', c, -, hc⟩ := mem_walkInside hpart
  exact walk_placed h limit' ⟨none, false⟩ c.val part hc

theorem ofTree_direct {read : Reader} (h : read.Direct) (limit : Option Nat) (tree : Node) :
    ∀ part ∈ ofTree read limit tree, Direct part := by
  intro part hpart
  obtain ⟨limit', c, -, hc⟩ := mem_walkInside hpart
  exact walk_direct h limit' ⟨none, false⟩ c.val part hc

/-! ### What the parts of an outline contribute -/

theorem extractionAll_elements : ∀ parts : List Outline,
    (extractionAll parts).elements = parts.flatMap (·.extraction.elements)
  | [] => rfl
  | part :: rest => by
      rw [extractionAll, Extraction.elements_append, extractionAll_elements rest, List.flatMap_cons]

theorem extractionAll_relationships : ∀ parts : List Outline,
    (extractionAll parts).relationships = parts.flatMap (·.extraction.relationships)
  | [] => rfl
  | part :: rest => by
      rw [extractionAll, Extraction.relationships_append, extractionAll_relationships rest, List.flatMap_cons]

theorem extractionAll_references : ∀ parts : List Outline,
    (extractionAll parts).references = parts.flatMap (·.extraction.references)
  | [] => rfl
  | part :: rest => by
      rw [extractionAll, Extraction.references_append, extractionAll_references rest, List.flatMap_cons]

end CodeAtlas.Outline

/-
What the limit on the depth leaves out of a file.

Files are read down to a fixed depth.  Whatever the tree and in each of the four
languages, the limit only removes: what is declared, what is referred to and what
contains what would all have been found without it.  Linking the members of
implementations at the end changes nothing but lists of children, which are not compared.

Calls are collected for a whole function as soon as it is found.  So a function that is
found at all makes the same calls, however deep they stand.
-/
import CodeAtlas.Proofs.Outline.Bounded
import CodeAtlas.Proofs.Parsing.Extraction

namespace CodeAtlas.Language.Rust

open CodeAtlas.Graph
open CodeAtlas.Graph.Extraction

theorem partOf_linkMembers {x y : Extraction} (h : PartOf x y) : PartOf (linkMembers x) (linkMembers y) := by
  have hchildless : ∀ z : Extraction,
      (linkMembers z).elements.map (·.withChildren []) = z.elements.map (·.withChildren []) := by
    intro z
    unfold linkMembers
    rw [List.map_map]
    refine List.map_congr_left fun e _ => ?_
    obtain ⟨children, he⟩ := linkElement_eq z.relationships e
    rw [Function.comp_apply, he]
    rfl
  refine ⟨?_, h.relationships, h.references⟩
  rw [hchildless, hchildless]
  exact h.elements

end CodeAtlas.Language.Rust

namespace CodeAtlas.Parsing

open CodeAtlas.Graph
open CodeAtlas.Graph.Extraction
open CodeAtlas.Outline

/-- A bound on the depth only removes, also from whole files. -/
theorem extract_partOf {support : Support} (hs : support ∈ allGrammars) (limit : Option Nat) (source : Source)
    (tree : Syntax.Node) : PartOf (support.extract limit source tree) (support.extract none source tree) := by
  have hpart := ofTree_partOf (support.read source) limit tree
  rcases mem_allGrammars.mp hs with hd | rfl
  · obtain ⟨-, -, hid⟩ := direct_places hd source
    unfold Support.extract
    rw [hid]
    exact hpart
  · exact Language.Rust.partOf_linkMembers hpart

/--
**The limit on the depth only removes**, whatever the tree and in each of the four
languages.  Identifiers and references keep their order, and relationships are no more
than without the limit.  If a walk without a limit enters at most so many lists of
children inside each other as the limit allows, nothing is removed.
-/
theorem depthLimit_only_removes (support : Support) (hs : support ∈ allGrammars) (source : Source)
    (tree : Syntax.Node) :
    let bounded := support.extract (some depthLimit) source tree
    let unbounded := support.extract none source tree
    (bounded.elements.map Element.id).Sublist (unbounded.elements.map Element.id) ∧
    bounded.references.Sublist unbounded.references ∧
    bounded.relationships.Subperm unbounded.relationships ∧
    (nestingOf (support.read source) tree ≤ depthLimit → bounded = unbounded) := by
  intro bounded unbounded
  have hpart : PartOf bounded unbounded := extract_partOf hs (some depthLimit) source tree
  refine ⟨hpart.ids, hpart.references, hpart.relationships, fun hnesting => ?_⟩
  show support.complete _ = support.complete _
  rw [ofTree_eq_of_nesting_le hnesting]

/-- A tree inside `n` pairs of brackets. -/
def bracketed : Nat → Syntax.Node → Syntax.Node
  | 0, inner => inner
  | n + 1, inner => .mk "list" true none inner.span [bracketed n inner]

/-- The limit is reached and not exceeded: the file, the brackets, the body of the function and the statement in it are
entered one inside the other. -/
theorem depthLimit_of_nesting_at_limit :
    let source : Source := ⟨"a.py", "def f(): pass\n"⟩
    let tree := moduleOf [bracketed 509 (⟨0, 0⟩ : Line).functionDefinition]
    Language.python ∈ allGrammars ∧ nestingOf (Language.python.read source) tree = depthLimit ∧
    Language.python.extract (some depthLimit) source tree = Language.python.extract none source tree := by
  intro source tree
  have hnesting : nestingOf (Language.python.read source) tree = depthLimit := by decide +kernel
  exact ⟨List.mem_cons_self, hnesting,
    (depthLimit_only_removes Language.python List.mem_cons_self source tree).2.2.2 (Nat.le_of_eq hnesting)⟩

-- A function that stands too deep is left out, and the one after it is not.
example :
    let source : Source := ⟨"a.py", "def f(): pass\ndef g(): pass\n"⟩
    let tree := moduleOf [bracketed 512 (⟨0, 0⟩ : Line).functionDefinition, (⟨1, 14⟩ : Line).functionDefinition]
    (Language.python.extract (some depthLimit) source tree).elements.map Element.id = ["a.py:g"] ∧
    (Language.python.extract none source tree).elements.map Element.id = ["a.py:f", "a.py:g"] := by
  decide +kernel

end CodeAtlas.Parsing

/-
What the types of a Rust file list as their children.

A trait lists its items from the start, and any other type nothing.  The items of an
implementation are known only from the relationships then, one for every item, and there
may be many implementations, before the type and after it.  So at the end every type
takes up whatever the relationships say it contains, each member once.

After that its children are exactly what it contains.  Nothing else was listed before,
because the walk over the tree lists a child only together with the relationship.  How
often a type is declared makes no difference: all its declarations have the same
identifier, and so the same members.
-/
import CodeAtlas.Proofs.Parsing.Containment
import Mathlib.Data.List.Forall2

namespace CodeAtlas.Language.Rust

open CodeAtlas.Graph
open CodeAtlas.Graph.Extraction

/-- The second element is the first one, except that a type may have other children. -/
def SameButChildren (d e : Element) : Prop :=
  e = { d with children := e.children } ∧ (d.kind ≠ .classLike → e = d)

theorem sameButChildren_linkElement (rs : List Relationship) (e : Element) : SameButChildren e (linkElement rs e) := by
  constructor
  · obtain ⟨children, h⟩ := linkElement_eq rs e
    rw [h]
  · intro hkind
    unfold linkElement
    rw [beq_false_of_ne hkind]
    rfl

theorem forall₂_linkMembers (x : Extraction) : List.Forall₂ SameButChildren x.elements (linkMembers x).elements :=
  List.forall₂_map_right_iff.mpr (List.forall₂_same.mpr fun e _ => sameButChildren_linkElement x.relationships e)

/-- Types list what they contain, if nothing else was listed before. -/
theorem mem_childIds_of_linkMembers {path : String} {parent : Option String} {x : Extraction}
    (h : Nested path parent x) {e : Element} (he : e ∈ (linkMembers x).elements) (hkind : e.kind = .classLike)
    {c : String} : c ∈ e.childIds ↔ (⟨e.id, c, .contains⟩ : Relationship) ∈ (linkMembers x).relationships := by
  obtain ⟨d, hd, rfl⟩ := mem_linkMembers.mp he
  rw [linkElement_kind] at hkind
  rw [mem_childIds_linkElement, linkElement_id]
  constructor
  · rintro (hc | ⟨-, hr⟩)
    · exact h.children d hd c hc
    · exact hr
  · intro hr
    exact Or.inr ⟨hkind, hr⟩

end CodeAtlas.Language.Rust

namespace CodeAtlas.Parsing

open CodeAtlas.Graph
open CodeAtlas.Graph.Extraction
open CodeAtlas.Outline

/--
**Types in Rust list exactly what they contain**, each member once, whatever the tree.
A member is whatever names the type as its parent, in any implementation and in any
declaration of the type.  Apart from the children of types, the walk over the tree is
left as it was.
-/
theorem rust_types_list_members (limit : Option Nat) (source : Source) (tree : Syntax.Node) :
    let walked := extractionAll (ofTree (Language.Rust.read source) limit tree)
    let linked := Language.rust.extract limit source tree
    (∀ e ∈ linked.elements, e.kind = .classLike → e.childIds.Nodup ∧ ∀ c,
      (c ∈ e.childIds ↔ (⟨e.id, c, .contains⟩ : Relationship) ∈ linked.relationships) ∧
      (c ∈ e.childIds ↔ ∃ m ∈ linked.elements, m.parent = some e.id ∧ m.id = c)) ∧
    List.Forall₂ Language.Rust.SameButChildren walked.elements linked.elements ∧
    linked.relationships = walked.relationships ∧ linked.references = walked.references := by
  intro walked linked
  have hplaces := Language.Rust.read_placed source
  have hnested : Nested source.path none walked := ofTree_nested hplaces limit tree
  have htidy : linked.Tidy := Language.Rust.tidy_linkMembers (ofTree_tidy hplaces limit tree)
  refine ⟨?_, Language.Rust.forall₂_linkMembers walked, rfl, rfl⟩
  intro e he hkind
  refine ⟨htidy.distinct e he, fun c => ?_⟩
  have hmem : c ∈ e.childIds ↔ (⟨e.id, c, .contains⟩ : Relationship) ∈ linked.relationships :=
    Language.Rust.mem_childIds_of_linkMembers hnested he hkind
  exact ⟨hmem, hmem.trans (Language.Rust.nested_linkMembers hnested).contains_iff⟩

/-- A file with a type that is declared twice, with implementations before, between and after the declarations. -/
def implementedSource : Source :=
  ⟨"a.rs", "\n".intercalate ["impl A \x7bfn f() \x7b\x7d\x7d", "struct A;", "impl A \x7bfn g() \x7b\x7d\x7d", "struct A;",
    "impl A \x7bfn f() \x7b\x7d\x7d"]⟩

/-- Its tree. -/
def implementedTree : Syntax.Node :=
  moduleOf [(⟨0, 0⟩ : Line).implItem, (⟨1, 19⟩ : Line).structItem, (⟨2, 29⟩ : Line).implItem,
    (⟨3, 48⟩ : Line).structItem, (⟨4, 58⟩ : Line).implItem]

/-- Both declarations list the items of all implementations, each once and in the order in which they stand. -/
theorem rust_types_list_items_of_implementations :
    let linked := Language.rust.extract none implementedSource implementedTree
    linked.elements.map (fun e => (e.id, e.childIds)) =
      [("a.rs:A:f", []), ("a.rs:A", ["a.rs:A:f", "a.rs:A:g"]), ("a.rs:A:g", []),
        ("a.rs:A", ["a.rs:A:f", "a.rs:A:g"]), ("a.rs:A:f", [])] ∧
    ∀ e ∈ linked.elements, e.kind = .classLike → ∀ c,
      c ∈ e.childIds ↔ ∃ m ∈ linked.elements, m.parent = some e.id ∧ m.id = c := by
  intro linked
  refine ⟨by decide +kernel, fun e he hkind c => ?_⟩
  exact (((rust_types_list_members none implementedSource implementedTree).1 e he hkind).2 c).2

end CodeAtlas.Parsing

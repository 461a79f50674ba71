/-
What contains what, in the extraction of a file.

The relationships and the parents of the elements say the same, which is known of
nested extractions.  Two things are added about lists of children.  They are `Tidy`:
nothing is listed twice, and no import is among the members, since imports have no
parent.  And the relationships are `Listed`: the element that lists a member comes
before it, as a declaration is put in front of what stands inside it.

An implementation puts nothing in front of its items.  So in Rust a member may be
known only from the relationships, and then no element lists it.
-/
import CodeAtlas.Proofs.Lists
import CodeAtlas.Proofs.Parsing.Extraction

namespace CodeAtlas.Graph.Extraction

/-- No element of the extraction lists a child twice, and no import has a parent. -/
structure Tidy (x : Extraction) : Prop where
  distinct : ∀ d ∈ x.elements, d.childIds.Nodup
  imports : ∀ e ∈ x.elements, e.kind = .dependency → e.parent = none

/-- Every relationship of the extraction leads from an element that lists the target to one that comes later. -/
def Listed (x : Extraction) : Prop :=
  ∀ r ∈ x.relationships, ∃ d m, [d, m].Sublist x.elements ∧ d.id = r.source ∧ r.target ∈ d.childIds ∧
    m.parent = some r.source ∧ m.id = r.target

theorem tidy_empty : Tidy .empty := by
  constructor <;> simp [empty]

theorem tidy_append {a b : Extraction} (ha : Tidy a) (hb : Tidy b) : Tidy (a ++ b) :=
  ⟨List.forall_mem_append.mpr ⟨ha.distinct, hb.distinct⟩, List.forall_mem_append.mpr ⟨ha.imports, hb.imports⟩⟩

theorem listed_empty : Listed .empty := by
  intro r hr
  simp [empty] at hr

theorem listed_append {a b : Extraction} (ha : Listed a) (hb : Listed b) : Listed (a ++ b) := by
  intro r hr
  rcases List.mem_append.mp hr with h | h
  · obtain ⟨d, m, hbefore, hends⟩ := ha r h
    exact ⟨d, m, hbefore.trans (List.sublist_append_left _ _), hends⟩
  · obtain ⟨d, m, hbefore, hends⟩ := hb r h
    exact ⟨d, m, hbefore.trans (List.sublist_append_right _ _), hends⟩

end CodeAtlas.Graph.Extraction

namespace CodeAtlas.Outline

open CodeAtlas.Graph
open CodeAtlas.Graph.Extraction

/-! ### In outlines -/

theorem parent_of_placed {path : String} {parent : Option String} {e : Element} (he : e.Placed path parent) :
    e.kind = .dependency → e.parent = none := by
  intro hk
  rw [he.inside, if_pos hk]

theorem tidy_enclose {e : Element} {body : Extraction} (he : e.kind = .dependency → e.parent = none)
    (hbody : Tidy body) : Tidy (enclose e body) := by
  refine ⟨List.forall_mem_cons.mpr ⟨?_, hbody.distinct⟩, List.forall_mem_cons.mpr ⟨he, hbody.imports⟩⟩
  rw [Element.childIds_withChildren]
  exact Lists.nodup_eraseDups _

/-- What a declaration lists is inside it, and so it comes later. -/
theorem listed_enclose {e : Element} {body : Extraction} (hbody : Listed body) : Listed (enclose e body) := by
  intro r hr
  rcases List.mem_append.mp hr with h | h
  · obtain ⟨c, hc, rfl⟩ := List.mem_map.mp h
    obtain ⟨m, hm, hparent, hid⟩ := mem_childrenOf.mp hc
    refine ⟨_, m, (List.singleton_sublist.mpr hm).cons_cons _, rfl, ?_, hparent, hid⟩
    rw [Element.childIds_withChildren]
    exact hc
  · obtain ⟨d, m, hbefore, hends⟩ := hbody r h
    exact ⟨d, m, hbefore.cons _, hends⟩

theorem Placed.tidy {path : String} {parent : Option String} {o : Outline} (h : Placed path parent o) :
    Tidy o.extraction := by
  induction h with
  | leaf he =>
      refine ⟨List.forall_mem_singleton.mpr ?_, List.forall_mem_singleton.mpr (parent_of_placed he)⟩
      rw [Element.childIds, he.childless]
      exact List.nodup_nil
  | scope he hkind hrefs hparts ih =>
      have hbody := extractionAll_induction tidy_empty (fun _ _ => tidy_append) _ ih
      exact tidy_enclose (parent_of_placed he) ⟨hbody.distinct, hbody.imports⟩
  | attached howner hrefs hparts ih =>
      have hbody := extractionAll_induction tidy_empty (fun _ _ => tidy_append) _ ih
      exact ⟨hbody.distinct, hbody.imports⟩

theorem Direct.listed {o : Outline} (h : Direct o) : Listed o.extraction := by
  induction h with
  | leaf => exact fun r hr => absurd hr List.not_mem_nil
  | scope hparts ih =>
      have hbody := extractionAll_induction listed_empty (fun _ _ => listed_append) _ ih
      exact listed_enclose hbody

end CodeAtlas.Outline

namespace CodeAtlas.Language.Rust

open CodeAtlas.Graph

/-! ### After members were linked -/

theorem nodup_childIds_linkElement {rs : List Relationship} {e : Element} (h : e.childIds.Nodup) :
    (linkElement rs e).childIds.Nodup := by
  unfold linkElement
  simp only []
  split
  · exact Lists.nodup_foldl_addNew _ h
  · exact h

theorem tidy_linkMembers {x : Extraction} (h : x.Tidy) : (linkMembers x).Tidy := by
  refine ⟨?_, ?_⟩
  · intro d hd
    obtain ⟨e, he, rfl⟩ := mem_linkMembers.mp hd
    exact nodup_childIds_linkElement (h.distinct e he)
  · intro d hd hk
    obtain ⟨e, he, rfl⟩ := mem_linkMembers.mp hd
    rw [linkElement_kind] at hk
    rw [linkElement_parent]
    exact h.imports e he hk

end CodeAtlas.Language.Rust

namespace CodeAtlas.Parsing

open CodeAtlas.Graph
open CodeAtlas.Graph.Extraction
open CodeAtlas.Outline

/-! ### In files -/

theorem ofTree_tidy {path : String} {read : Reader} (h : read.Places path) (limit : Option Nat)
    (tree : Syntax.Node) : Tidy (extractionAll (ofTree read limit tree)) :=
  extractionAll_induction tidy_empty (fun _ _ => tidy_append) _ fun part hpart =>
    (ofTree_placed h limit tree part hpart).tidy

theorem ByGrammar.tidy {path : String} {x : Extraction} (h : ByGrammar allGrammars path x) : Tidy x := by
  obtain ⟨support, hs, limit, text, tree, rfl⟩ := h
  unfold Support.extract
  rcases mem_allGrammars.mp hs with hd | rfl
  · obtain ⟨hplaces, -, hid⟩ := direct_places hd ⟨path, text⟩
    rw [hid]
    exact ofTree_tidy hplaces limit tree
  · exact Language.Rust.tidy_linkMembers (ofTree_tidy (Language.Rust.read_placed ⟨path, text⟩) limit tree)

theorem ByGrammar.listed {path : String} {x : Extraction} (h : ByGrammar directGrammars path x) : Listed x := by
  obtain ⟨support, hs, limit, text, tree, rfl⟩ := h
  obtain ⟨-, hdirect, hid⟩ := direct_places hs ⟨path, text⟩
  unfold Support.extract
  rw [hid]
  exact extractionAll_induction listed_empty (fun _ _ => listed_append) _ fun part hpart =>
    (ofTree_direct hdirect limit tree part hpart).listed

/--
**Containment is consistent in what a file contributes**, whatever its tree and in
each of the four languages.  There is a relationship of containment exactly for an
element and its parent; an element lists only what it contains, and nothing twice;
imports have no parent.  Where declarations stand where they belong, whoever contains
an element lists it and comes before it.
-/
theorem containment_consistent (support : Support) (hs : support ∈ allGrammars) (limit : Option Nat)
    (source : Source) (tree : Syntax.Node) :
    (∀ p c, (⟨p, c, .contains⟩ : Relationship) ∈ (support.extract limit source tree).relationships ↔
      ∃ e ∈ (support.extract limit source tree).elements, e.parent = some p ∧ e.id = c) ∧
    (∀ d ∈ (support.extract limit source tree).elements, d.childIds.Nodup ∧
      ∀ c ∈ d.childIds, (⟨d.id, c, .contains⟩ : Relationship) ∈ (support.extract limit source tree).relationships) ∧
    (support ∈ directGrammars → ∀ p c,
      (⟨p, c, .contains⟩ : Relationship) ∈ (support.extract limit source tree).relationships →
        ∃ d e, [d, e].Sublist (support.extract limit source tree).elements ∧ d.id = p ∧ c ∈ d.childIds ∧
          e.parent = some p ∧ e.id = c) ∧
    (∀ e ∈ (support.extract limit source tree).elements, e.kind = .dependency → e.parent = none) := by
  have horigin : ByGrammar allGrammars source.path (support.extract limit source tree) :=
    ⟨support, hs, limit, source.text, tree, rfl⟩
  have hnested := horigin.nested
  have htidy := horigin.tidy
  refine ⟨?_, ?_, ?_, htidy.imports⟩
  · intro p c
    exact hnested.contains_iff
  · intro d hd
    exact ⟨htidy.distinct d hd, hnested.children d hd⟩
  · intro hdirect p c hr
    have hlisted : Listed (support.extract limit source tree) :=
      ByGrammar.listed ⟨support, hdirect, limit, source.text, tree, rfl⟩
    exact hlisted _ hr

/-- The tree of `class A: x = 1; x = 2`. -/
def redeclaredMember : Syntax.Node :=
  let l : Line := ⟨0, 0⟩
  moduleOf [l.node "class_definition" none 0 21 [
    l.sign "class" 0,
    l.node "identifier" (some "name") 6 7 [],
    l.sign ":" 7,
    l.node "block" (some "body") 9 21 [l.assignment 9, l.sign ";" 14, l.assignment 16]]]

/-- A member that is declared twice is contained and listed once. -/
theorem containment_of_redeclared_member :
    let x := Language.python.extract (some depthLimit) ⟨"a.py", "class A: x = 1; x = 2\n"⟩ redeclaredMember
    Language.python ∈ allGrammars ∧ Language.python ∈ directGrammars ∧
    x.elements.map (fun e => (e.id, e.childIds)) = [("a.py:A", ["a.py:A:x"]), ("a.py:A:x", []), ("a.py:A:x", [])] ∧
    x.relationships = [⟨"a.py:A", "a.py:A:x", .contains⟩] ∧
    (∃ d e, [d, e].Sublist x.elements ∧ d.id = "a.py:A" ∧ "a.py:A:x" ∈ d.childIds ∧
      e.parent = some "a.py:A" ∧ e.id = "a.py:A:x") ∧
    ∀ d ∈ x.elements, d.childIds.Nodup := by
  intro x
  have hrelationships : x.relationships = [⟨"a.py:A", "a.py:A:x", .contains⟩] := by decide +kernel
  obtain ⟨-, hchildren, hlisted, -⟩ := containment_consistent Language.python List.mem_cons_self (some depthLimit)
    ⟨"a.py", "class A: x = 1; x = 2\n"⟩ redeclaredMember
  refine ⟨List.mem_cons_self, List.mem_cons_self, by decide +kernel, hrelationships, ?_, ?_⟩
  · refine hlisted List.mem_cons_self "a.py:A" "a.py:A:x" ?_
    show _ ∈ x.relationships
    rw [hrelationships]
    exact List.mem_cons_self
  · intro d hd
    exact (hchildren d hd).1

end CodeAtlas.Parsing

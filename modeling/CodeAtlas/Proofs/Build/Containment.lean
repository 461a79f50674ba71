/-
What a graph says about nesting.

In the extraction of a file the parents, the children and the relationships of
containment agree.  Putting files together keeps every relationship, but of several
declarations with one identifier only the last element.  So the relationships that
leave an element are those of all its declarations, and its list of children is that
of one of them.

There is one more source of containment.  The implementations of a type in Rust give
it members wherever they stand.  Where the same file declares the type, its list of
children is completed; where it does not, the members are known from their parents
and from the relationships only.  Items of modules and functions are not given in this
way, and whoever they stand in lists them.
-/
import CodeAtlas.Proofs.Build.Merge

namespace CodeAtlas.Build

open CodeAtlas.Graph
open CodeAtlas.Graph.Assembler
open CodeAtlas.Graph.Extraction
open CodeAtlas.Outline
open CodeAtlas.Parsing

/-- A file with a syntax tree, which is read by a grammar down to some depth. -/
structure TreeFile where
  support : Support
  limit : Option Nat
  source : Source
  tree : Syntax.Node

namespace TreeFile

/-- The outline of the file. -/
def outline (f : TreeFile) : List Outline :=
  ofTree (f.support.read f.source) f.limit f.tree

/-- What the file declares. -/
def extraction (f : TreeFile) : Extraction :=
  f.support.extract f.limit f.source f.tree

/-- The file as it is merged. -/
def outcome (f : TreeFile) : Outcome :=
  ⟨f.source.path, some (f.extraction, .grammar)⟩

end TreeFile

/-- The graph of some files that are merged in order. -/
def graphOf (files : List TreeFile) : CodeGraph :=
  (ofOutcomes (files.map TreeFile.outcome)).1

/-- All declarations with an identifier in the files that were merged, in order. -/
def declarations (files : List TreeFile) (id : String) : List Element :=
  (files.flatMap (·.extraction.elements)).filter (·.id == id)

/-- An implementation in a file that declares no type `id` gives `id` a member, with the identifier `c`. -/
def MemberElsewhere (files : List TreeFile) (id c : String) : Prop :=
  ∃ f ∈ files, (∀ d ∈ f.extraction.elements, d.kind = .classLike → d.id ≠ id) ∧
    (⟨id, c, .contains⟩ : Relationship) ∈ attachedFactsAll f.outline

theorem merged_trees (files : List TreeFile) :
    merged (files.map TreeFile.outcome) = files.map fun f => (f.source.path, f.extraction) := by
  unfold merged
  rw [List.filterMap_map, ← List.filterMap_eq_map]
  rfl

theorem declared_trees (files : List TreeFile) :
    declared (merged (files.map TreeFile.outcome)) = files.flatMap (·.extraction.elements) := by
  rw [merged_trees, declared, List.flatMap_map]

theorem mem_declarations {files : List TreeFile} {id : String} {d : Element} :
    d ∈ declarations files id ↔ (∃ f ∈ files, d ∈ f.extraction.elements) ∧ d.id = id := by
  rw [declarations, List.mem_filter, List.mem_flatMap, beq_iff_eq]

theorem mem_declarations_of_get? {files : List TreeFile} {id : String} {e : Element}
    (h : (graphOf files).get? id = some e) : e ∈ declarations files id := by
  rw [graphOf, ofOutcomes_get?, declared_trees] at h
  have hmem : e ∈ (files.flatMap (·.extraction.elements)).reverse := List.mem_of_find?_eq_some h
  exact mem_declarations.mpr ⟨List.mem_flatMap.mp (List.mem_reverse.mp hmem), last?_id h⟩

/-! ### What a file lists -/

section

variable {f : TreeFile} (hf : f.support ∈ allGrammars)

include hf

theorem TreeFile.nested : Nested f.source.path none f.extraction :=
  ByGrammar.nested ⟨f.support, hf, f.limit, f.source.text, f.tree, rfl⟩

theorem TreeFile.placed : ∀ part ∈ f.outline, Placed f.source.path none part := by
  refine ofTree_placed ?_ f.limit f.tree
  rcases mem_allGrammars.mp hf with hdirect | hrust
  · exact (direct_places hdirect f.source).1
  · rw [hrust]
    exact Language.Rust.read_placed f.source

theorem TreeFile.relationships_eq : f.extraction.relationships = (extractionAll f.outline).relationships := by
  unfold TreeFile.extraction Support.extract TreeFile.outline
  rcases mem_allGrammars.mp hf with hdirect | hrust
  · rw [(direct_places hdirect f.source).2.2]
    rfl
  · rw [hrust]
    rfl

/-- What implementations give is among the facts of their file. -/
theorem TreeFile.relationship_of_attached {r : Relationship} (h : r ∈ attachedFactsAll f.outline) :
    r ∈ f.extraction.relationships := by
  rw [attachedFactsAll_eq] at h
  rw [TreeFile.relationships_eq hf, extractionAll_relationships]
  obtain ⟨part, hpart, hr⟩ := List.mem_flatMap.mp h
  exact List.mem_flatMap.mpr ⟨part, hpart, (TreeFile.placed hf part hpart).attachedFacts_subset r hr⟩

/-- Completing lists of children takes nothing away from them. -/
theorem TreeFile.listed_of_outline {d : Element} (hd : d ∈ (extractionAll f.outline).elements) {c : String}
    (hc : c ∈ d.childIds) : ∃ e ∈ f.extraction.elements, e.id = d.id ∧ c ∈ e.childIds := by
  unfold TreeFile.extraction Support.extract
  rcases mem_allGrammars.mp hf with hdirect | hrust
  · rw [(direct_places hdirect f.source).2.2]
    exact ⟨d, hd, rfl, hc⟩
  · rw [TreeFile.outline, hrust] at hd
    rw [hrust]
    exact ⟨_, Language.Rust.mem_linkMembers.mpr ⟨d, hd, rfl⟩, Language.Rust.linkElement_id _ d,
      Language.Rust.mem_childIds_linkElement.mpr (.inl hc)⟩

/-- **What a file contains is listed by who contains it**, unless an implementation gives it to a type that the file
does not declare. -/
theorem TreeFile.listed_or_given {id c : String}
    (hr : (⟨id, c, .contains⟩ : Relationship) ∈ f.extraction.relationships) :
    (∃ d ∈ f.extraction.elements, d.id = id ∧ c ∈ d.childIds) ∨
      (∀ d ∈ f.extraction.elements, d.kind = .classLike → d.id ≠ id) ∧
        (⟨id, c, .contains⟩ : Relationship) ∈ attachedFactsAll f.outline := by
  have houtline := hr
  rw [TreeFile.relationships_eq hf] at houtline
  have hcases := extractionAll_listed_or_attached
    (fun part hpart => (TreeFile.placed hf part hpart).listed_or_attached) _ houtline
  rcases hcases with ⟨d, hd, hid, hc⟩ | hattached
  · obtain ⟨e, he, heid, hlisted⟩ := TreeFile.listed_of_outline hf hd hc
    exact .inl ⟨e, he, heid.trans hid, hlisted⟩
  · rcases mem_allGrammars.mp hf with hdirect | hrust
    · -- Nothing is attached in the other languages.
      have hnone : attachedFactsAll f.outline = [] := by
        rw [attachedFactsAll_eq, List.flatMap_eq_nil_iff]
        intro part hpart
        exact (ofTree_direct (direct_places hdirect f.source).2.1 f.limit f.tree part hpart).attachedFacts_eq_nil
      rw [hnone] at hattached
      cases hattached
    · by_cases hdeclared : ∃ d ∈ f.extraction.elements, d.kind = .classLike ∧ d.id = id
      · obtain ⟨d, hd, hkind, rfl⟩ := hdeclared
        have hrust : ByGrammar [Language.rust] f.source.path f.extraction :=
          ⟨f.support, List.mem_singleton.mpr hrust, f.limit, f.source.text, f.tree, rfl⟩
        exact .inl ⟨d, hd, rfl, hrust.rust_listed hd hkind hr⟩
      · refine .inr ⟨fun d hd hkind hid => hdeclared ⟨d, hd, hkind, hid⟩, hattached⟩

end

/-! ### What leaves an element -/

theorem mem_outgoing_contains {files : List TreeFile} {id c : String} :
    c ∈ (graphOf files).outgoing id .contains ↔
      (∃ f ∈ files, (⟨id, c, .contains⟩ : Relationship) ∈ f.extraction.relationships) ∧
        id ∈ (files.flatMap (·.extraction.elements)).map Element.id ∧
        c ∈ (files.flatMap (·.extraction.elements)).map Element.id := by
  have htracks := ofPushes_tracks (merged (files.map TreeFile.outcome))
  rw [graphOf, ofOutcomes_graph, finish, CodeGraph.mem_outgoing_iff, contains_mem_ofPushes, htracks.contains,
    htracks.contains, declared_trees, merged_trees]
  simp only [List.mem_map, exists_exists_and_eq_and]

section

variable {files : List TreeFile} {id : String} {e : Element} (hfiles : ∀ f ∈ files, f.support ∈ allGrammars)
  (he : (graphOf files).get? id = some e)

include hfiles he

/-- A relationship of containment in a file leads from an element of the graph to another one. -/
theorem outgoing_of_relationship {f : TreeFile} (hf : f ∈ files) {c : String}
    (hr : (⟨id, c, .contains⟩ : Relationship) ∈ f.extraction.relationships) :
    c ∈ (graphOf files).outgoing id .contains := by
  obtain ⟨⟨g, hg, heg⟩, hid⟩ := mem_declarations.mp (mem_declarations_of_get? he)
  obtain ⟨m, hm, -, hmid⟩ := (TreeFile.nested (hfiles f hf)).contains_iff.mp hr
  refine mem_outgoing_contains.mpr ⟨⟨f, hf, hr⟩, ?_, ?_⟩
  · exact List.mem_map.mpr ⟨e, List.mem_flatMap.mpr ⟨g, hg, heg⟩, hid⟩
  · exact List.mem_map.mpr ⟨m, List.mem_flatMap.mpr ⟨f, hf, hm⟩, hmid⟩

theorem outgoing_of_child {d : Element} (hd : d ∈ declarations files id) {c : String} (hc : c ∈ d.childIds) :
    c ∈ (graphOf files).outgoing id .contains := by
  obtain ⟨⟨f, hf, hdf⟩, hid⟩ := mem_declarations.mp hd
  have hr := (TreeFile.nested (hfiles f hf)).children d hdf c hc
  rw [hid] at hr
  exact outgoing_of_relationship hfiles he hf hr

theorem outgoing_of_parent {f : TreeFile} (hf : f ∈ files) {m : Element} (hm : m ∈ f.extraction.elements)
    (hparent : m.parent = some id) : m.id ∈ (graphOf files).outgoing id .contains :=
  outgoing_of_relationship hfiles he hf ((TreeFile.nested (hfiles f hf)).contains_iff.mpr ⟨m, hm, hparent, rfl⟩)

/-- **What leaves an element is listed by a declaration of it, or was given to it elsewhere.** -/
theorem outgoing_iff {c : String} : c ∈ (graphOf files).outgoing id .contains ↔
    (∃ d ∈ declarations files id, c ∈ d.childIds) ∨ MemberElsewhere files id c := by
  constructor
  · intro hc
    obtain ⟨⟨f, hf, hr⟩, -, -⟩ := mem_outgoing_contains.mp hc
    rcases TreeFile.listed_or_given (hfiles f hf) hr with ⟨d, hd, hid, hlisted⟩ | hgiven
    · exact .inl ⟨d, mem_declarations.mpr ⟨⟨f, hf, hd⟩, hid⟩, hlisted⟩
    · exact .inr ⟨f, hf, hgiven⟩
  · rintro (⟨d, hd, hc⟩ | ⟨f, hf, -, hgiven⟩)
    · exact outgoing_of_child hfiles he hd hc
    · exact outgoing_of_relationship hfiles he hf (TreeFile.relationship_of_attached (hfiles f hf) hgiven)

end

/--
**What a graph of files read by grammars says about nesting.**  Whatever their trees
and in whatever order the files are merged, every child that an element of the graph
lists, and every element that names it as its parent, is where its edges of
containment lead.  These edges lead to the children of all declarations with its
identifier and to the members that implementations give it in files that do not
declare it as a type, and nowhere else.  So the children and the edges agree if the
element is the only declaration with its identifier and is given no such members.
-/
theorem nesting_agrees (files : List TreeFile) (h : ∀ f ∈ files, f.support ∈ allGrammars) (id : String) (e : Element)
    (he : (graphOf files).get? id = some e) :
    (∀ c ∈ e.childIds, c ∈ (graphOf files).outgoing e.id .contains) ∧
    (∀ i m, (graphOf files).get? i = some m → m.parent = some e.id →
      m.id ∈ (graphOf files).outgoing e.id .contains) ∧
    (∀ c, c ∈ (graphOf files).outgoing e.id .contains ↔
      (∃ d ∈ declarations files e.id, c ∈ d.childIds) ∨ MemberElsewhere files e.id c) ∧
    (declarations files e.id = [e] → (∀ c, ¬ MemberElsewhere files e.id c) →
      ∀ c, c ∈ e.childIds ↔ c ∈ (graphOf files).outgoing e.id .contains) := by
  have hdeclared := mem_declarations_of_get? he
  have hid : e.id = id := (mem_declarations.mp hdeclared).2
  rw [hid]
  refine ⟨?_, ?_, ?_, ?_⟩
  · intro c hc
    exact outgoing_of_child h he hdeclared hc
  · intro i m hm hparent
    obtain ⟨⟨f, hf, hmf⟩, -⟩ := mem_declarations.mp (mem_declarations_of_get? hm)
    exact outgoing_of_parent h he hf hmf hparent
  · intro c
    exact outgoing_iff h he
  · intro honly hnone c
    rw [outgoing_iff h he, honly]
    simp [hnone]

/-- A file of Rust with a module that has one item, and an implementation of a type that is declared nowhere. -/
def moduleFile : TreeFile where
  support := Language.rust
  limit := some depthLimit
  source := ⟨"a.rs", "mod m \x7bfn f() \x7b\x7d\x7d\nimpl A \x7bfn f() \x7b\x7d\x7d\n"⟩
  tree := moduleOf [Line.modItem ⟨0, 0⟩, Line.implItem ⟨1, 18⟩]

/-- A file of Python that declares the class `A` twice and the class `B` once. -/
def redeclaringFile : TreeFile where
  support := Language.python
  limit := some depthLimit
  source := ⟨"a.py", "class A: x = 1\nclass A: y = 2\nclass B: z = 3\n"⟩
  tree := moduleOf [Line.classDefinition ⟨0, 0⟩, Line.classDefinition ⟨1, 15⟩, Line.classDefinition ⟨2, 30⟩]

theorem treeFiles_grammars : ∀ f ∈ [moduleFile, redeclaringFile], f.support ∈ allGrammars := by
  simp [moduleFile, redeclaringFile, mem_allGrammars, directGrammars]

/-- The module of the first file. -/
def moduleElement : Element :=
  { Element.bare "m" .moduleBlock "a.rs" with
    lineStart := 1
    lineEnd := 1
    columnEnd := 17
    children := some ["a.rs:m:f"] }

/-- A module lists its items, which no implementation gives to it. -/
theorem nesting_agrees_of_module :
    (graphOf [moduleFile, redeclaringFile]).get? "a.rs:m" = some moduleElement ∧
    ∀ c, c ∈ ["a.rs:m:f"] ↔ c ∈ (graphOf [moduleFile, redeclaringFile]).outgoing "a.rs:m" .contains := by
  have hget : (graphOf [moduleFile, redeclaringFile]).get? "a.rs:m" = some moduleElement := by decide +kernel
  have hgiven : ∀ f ∈ [moduleFile, redeclaringFile], ∀ r ∈ attachedFactsAll f.outline, r.source ≠ "a.rs:m" := by
    decide +kernel
  refine ⟨hget, ?_⟩
  refine (nesting_agrees [moduleFile, redeclaringFile] treeFiles_grammars "a.rs:m" moduleElement hget).2.2.2
    (by decide +kernel) ?_
  rintro c ⟨f, hf, -, hfact⟩
  exact hgiven f hf _ hfact rfl

/-- **Children and edges do not agree in all graphs.**  When a class is declared again, the new element lists its own
members, while the relationships to the members of the old one stay. -/
theorem children_ne_outgoing_of_redeclared_class :
    ¬ ∀ files : List TreeFile, (∀ f ∈ files, f.support ∈ allGrammars) →
      ∀ id e, (graphOf files).get? id = some e →
        (∀ c, c ∈ e.childIds ↔ c ∈ (graphOf files).outgoing e.id .contains) ∧
        ∀ i m, (graphOf files).get? i = some m → m.parent = some e.id →
          m.id ∈ (graphOf files).outgoing e.id .contains := by
  intro hall
  have hgrammar : ∀ f ∈ [redeclaringFile], f.support ∈ allGrammars :=
    fun f hf => treeFiles_grammars f (List.mem_cons_of_mem _ hf)
  have hchildren : ((graphOf [redeclaringFile]).get? "a.py:A").map Element.childIds = some ["a.py:A:y"] := by
    decide +kernel
  obtain ⟨e, he, hlist⟩ := Option.map_eq_some_iff.mp hchildren
  have hid : e.id = "a.py:A" := (mem_declarations.mp (mem_declarations_of_get? he)).2
  have hagree := (hall _ hgrammar "a.py:A" e he).1 "a.py:A:x"
  rw [hlist, hid, mem_outgoing_contains] at hagree
  have hout : "a.py:A:x" ∈ ["a.py:A:y"] := hagree.mpr (by decide +kernel)
  revert hout
  decide

end CodeAtlas.Build

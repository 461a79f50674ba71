/-
What is nested in what, after an outline is flattened.

Flattening an outline says three times that one declaration stands inside another:
the inner one names its parent, the outer one lists its children, and there is a
relationship between the two.  `Nested` is what ties the three together in the
extraction of a part of an outline, and `Closed` adds, where nothing is attached to
a type declared elsewhere, that every relationship and every reference starts at an
element which is there.

Both are kept by each of the ways in which extractions are put together, and so
they hold of whole files.
-/
import CodeAtlas.Proofs.Outline.Placement

namespace CodeAtlas.Graph

/-- The extraction `x` of something in the file `path` that stands inside `parent`. -/
structure Extraction.Nested (path : String) (parent : Option String) (x : Extraction) : Prop where
  file : ∀ e ∈ x.elements, e.filePath = path
  inside : ∀ e ∈ x.elements, e.parent = none ∨ e.parent = parent ∨
    ∃ p, e.parent = some p ∧ (⟨p, e.id, .contains⟩ : Relationship) ∈ x.relationships
  edges : ∀ r ∈ x.relationships, r.kind = .contains ∧
    ∃ e ∈ x.elements, e.parent = some r.source ∧ e.id = r.target
  children : ∀ d ∈ x.elements, ∀ c ∈ d.childIds,
    (⟨d.id, c, .contains⟩ : Relationship) ∈ x.relationships

/-- Every relationship of the extraction is in the list of children of an element, and every reference starts at an
element. -/
structure Extraction.Closed (x : Extraction) : Prop where
  listed : ∀ r ∈ x.relationships, ∃ d ∈ x.elements, d.id = r.source ∧ r.target ∈ d.childIds
  referring : ∀ r ∈ x.references, ∃ d ∈ x.elements, d.id = r.source

namespace Extraction

theorem nested_references (path : String) (parent : Option String) (references : List Reference) :
    Nested path parent ⟨[], [], references⟩ := by
  constructor <;> simp

theorem nested_append {path : String} {parent : Option String} {a b : Extraction}
    (ha : Nested path parent a) (hb : Nested path parent b) : Nested path parent (a ++ b) := by
  refine ⟨?_, ?_, ?_, ?_⟩
  · intro e he
    rcases List.mem_append.mp he with h | h
    · exact ha.file e h
    · exact hb.file e h
  · intro e he
    rcases List.mem_append.mp he with h | h
    · rcases ha.inside e h with h1 | h1 | ⟨p, hp, hr⟩
      · exact Or.inl h1
      · exact Or.inr (Or.inl h1)
      · exact Or.inr (Or.inr ⟨p, hp, List.mem_append_left _ hr⟩)
    · rcases hb.inside e h with h1 | h1 | ⟨p, hp, hr⟩
      · exact Or.inl h1
      · exact Or.inr (Or.inl h1)
      · exact Or.inr (Or.inr ⟨p, hp, List.mem_append_right _ hr⟩)
  · intro r hr
    rcases List.mem_append.mp hr with h | h
    · obtain ⟨hk, e, he, hends⟩ := ha.edges r h
      exact ⟨hk, e, List.mem_append_left _ he, hends⟩
    · obtain ⟨hk, e, he, hends⟩ := hb.edges r h
      exact ⟨hk, e, List.mem_append_right _ he, hends⟩
  · intro d hd c hc
    rcases List.mem_append.mp hd with h | h
    · exact List.mem_append_left _ (ha.children d h c hc)
    · exact List.mem_append_right _ (hb.children d h c hc)

theorem closed_append {a b : Extraction} (ha : Closed a) (hb : Closed b) : Closed (a ++ b) := by
  refine ⟨?_, ?_⟩
  · intro r hr
    rcases List.mem_append.mp hr with h | h
    · obtain ⟨d, hd, hends⟩ := ha.listed r h
      exact ⟨d, List.mem_append_left _ hd, hends⟩
    · obtain ⟨d, hd, hends⟩ := hb.listed r h
      exact ⟨d, List.mem_append_right _ hd, hends⟩
  · intro r hr
    rcases List.mem_append.mp hr with h | h
    · obtain ⟨d, hd, hsource⟩ := ha.referring r h
      exact ⟨d, List.mem_append_left _ hd, hsource⟩
    · obtain ⟨d, hd, hsource⟩ := hb.referring r h
      exact ⟨d, List.mem_append_right _ hd, hsource⟩

theorem closed_empty : Closed .empty := by
  constructor <;> simp [empty]

end Extraction
end CodeAtlas.Graph

namespace CodeAtlas.Outline

open CodeAtlas.Graph
open CodeAtlas.Graph.Extraction

theorem mem_childrenOf {id c : String} {elements : List Element} :
    c ∈ childrenOf id elements ↔ ∃ e ∈ elements, e.parent = some id ∧ e.id = c := by
  simp [childrenOf, List.mem_eraseDups, and_assoc]

/-! ### Each way of putting extractions together -/

theorem nested_leaf {path : String} {parent : Option String} {e : Element} (he : e.Placed path parent) :
    Nested path parent ⟨[e], [], []⟩ := by
  refine ⟨?_, ?_, by simp, ?_⟩
  · intro d hd
    rw [List.mem_singleton.mp hd]
    exact he.file
  · intro d hd
    rw [List.mem_singleton.mp hd, he.inside]
    by_cases hk : e.kind = .dependency
    · exact Or.inl (if_pos hk)
    · exact Or.inr (Or.inl (if_neg hk))
  · intro d hd c hc
    rw [List.mem_singleton.mp hd, Element.childIds, he.childless] at hc
    simp at hc

theorem nested_enclose {path : String} {parent : Option String} {e : Element} {body : Extraction}
    (he : e.Placed path parent) (hbody : Nested path (some e.id) body) :
    Nested path parent (enclose e body) := by
  -- An element of the body whose parent is `e` has become one of its children.
  have hchild : ∀ b ∈ body.elements, b.parent = some e.id →
      (⟨e.id, b.id, .contains⟩ : Relationship) ∈ (enclose e body).relationships := by
    intro b hb hparent
    exact List.mem_append_left _ (List.mem_map.mpr ⟨b.id, mem_childrenOf.mpr ⟨b, hb, hparent, rfl⟩, rfl⟩)
  refine ⟨?_, ?_, ?_, ?_⟩
  · intro d hd
    rcases List.mem_cons.mp hd with rfl | hd
    · exact he.file
    · exact hbody.file d hd
  · intro d hd
    rcases List.mem_cons.mp hd with rfl | hd
    · by_cases hk : e.kind = .dependency
      · exact Or.inl (he.inside.trans (if_pos hk))
      · exact Or.inr (Or.inl (he.inside.trans (if_neg hk)))
    · rcases hbody.inside d hd with h | h | ⟨p, hp, hr⟩
      · exact Or.inl h
      · exact Or.inr (Or.inr ⟨e.id, h, hchild d hd h⟩)
      · exact Or.inr (Or.inr ⟨p, hp, List.mem_append_right _ hr⟩)
  · intro r hr
    rcases List.mem_append.mp hr with h | h
    · obtain ⟨c, hc, rfl⟩ := List.mem_map.mp h
      obtain ⟨b, hb, hends⟩ := mem_childrenOf.mp hc
      exact ⟨rfl, b, List.mem_cons_of_mem _ hb, hends⟩
    · obtain ⟨hk, b, hb, hends⟩ := hbody.edges r h
      exact ⟨hk, b, List.mem_cons_of_mem _ hb, hends⟩
  · intro d hd c hc
    rcases List.mem_cons.mp hd with rfl | hd
    · rw [Element.childIds_withChildren] at hc
      obtain ⟨b, hb, hparent, rfl⟩ := mem_childrenOf.mp hc
      exact hchild b hb hparent
    · exact List.mem_append_right _ (hbody.children d hd c hc)

theorem nested_attach {path : String} {parent : Option String} {owner : String} {body : Extraction}
    (hbody : Nested path (some owner) body) : Nested path parent (attach owner body) := by
  refine ⟨hbody.file, ?_, ?_, ?_⟩
  · intro d hd
    rcases hbody.inside d hd with h | h | ⟨p, hp, hr⟩
    · exact Or.inl h
    · have hmember : d ∈ body.elements.filter (·.parent == some owner) :=
        List.mem_filter.mpr ⟨hd, by simpa using h⟩
      exact Or.inr (Or.inr ⟨owner, h, List.mem_append_left _ (List.mem_map.mpr ⟨d, hmember, rfl⟩)⟩)
    · exact Or.inr (Or.inr ⟨p, hp, List.mem_append_right _ hr⟩)
  · intro r hr
    rcases List.mem_append.mp hr with h | h
    · obtain ⟨d, hd, rfl⟩ := List.mem_map.mp h
      obtain ⟨hd, hparent⟩ := List.mem_filter.mp hd
      exact ⟨rfl, d, hd, by simpa using hparent, rfl⟩
    · exact hbody.edges r h
  · intro d hd c hc
    exact List.mem_append_right _ (hbody.children d hd c hc)

theorem closed_enclose {e : Element} {references : List Reference} {body : Extraction}
    (hrefs : ∀ r ∈ references, r.source = e.id) (hbody : Closed body) :
    Closed (enclose e (⟨[], [], references⟩ ++ body)) := by
  refine ⟨?_, ?_⟩
  · intro r hr
    rcases List.mem_append.mp hr with h | h
    · obtain ⟨c, hc, rfl⟩ := List.mem_map.mp h
      refine ⟨_, List.mem_cons_self, rfl, ?_⟩
      rw [Element.childIds_withChildren]
      exact hc
    · obtain ⟨d, hd, hends⟩ := hbody.listed r h
      exact ⟨d, List.mem_cons_of_mem _ hd, hends⟩
  · intro r hr
    rcases List.mem_append.mp hr with h | h
    · exact ⟨_, List.mem_cons_self, (hrefs r h).symm⟩
    · obtain ⟨d, hd, hsource⟩ := hbody.referring r h
      exact ⟨d, List.mem_cons_of_mem _ hd, hsource⟩

/-! ### Whole outlines -/

/-- A property of extractions that appending keeps holds of all parts together. -/
theorem extractionAll_induction {P : Extraction → Prop} (hempty : P .empty)
    (happend : ∀ a b, P a → P b → P (a ++ b)) :
    ∀ parts : List Outline, (∀ part ∈ parts, P part.extraction) → P (extractionAll parts) := by
  intro parts
  induction parts with
  | nil => intro _; exact hempty
  | cons part rest ih =>
      intro h
      exact happend _ _ (h part List.mem_cons_self) (ih fun q hq => h q (List.mem_cons_of_mem _ hq))

theorem nested_extractionAll {path : String} {parent : Option String} {parts : List Outline}
    (h : ∀ part ∈ parts, Nested path parent part.extraction) : Nested path parent (extractionAll parts) :=
  extractionAll_induction (nested_references path parent []) (fun _ _ => nested_append) parts h

theorem Placed.nested {path : String} {parent : Option String} {o : Outline} (h : Placed path parent o) :
    Nested path parent o.extraction := by
  induction h with
  | leaf he => exact nested_leaf he
  | scope he hkind hrefs hparts ih =>
      exact nested_enclose he (nested_append (nested_references _ _ _) (nested_extractionAll ih))
  | attached howner hrefs hparts ih =>
      exact nested_attach (nested_append (nested_references _ _ _) (nested_extractionAll ih))

theorem Placed.closed {path : String} {parent : Option String} {o : Outline} (h : Placed path parent o)
    (hdirect : Direct o) : Closed o.extraction := by
  induction h with
  | leaf he => exact ⟨by simp [extraction], by simp [extraction]⟩
  | scope he hkind hrefs hparts ih =>
      cases hdirect with
      | scope hd =>
          exact closed_enclose hrefs
            (extractionAll_induction closed_empty (fun _ _ => closed_append) _ fun part hp => ih part hp (hd part hp))
  | attached howner hrefs hparts ih => cases hdirect

/-! ### What implementations add -/

mutual

/-- The facts that are added by attaching declarations to types, wherever they stand in an outline. -/
def attachedFacts : Outline → List Relationship
  | .leaf _ => []
  | .scope _ _ parts => attachedFactsAll parts
  | .attached owner _ parts =>
    ((extractionAll parts).elements.filter (·.parent == some owner)).map (fun e => ⟨owner, e.id, .contains⟩) ++
      attachedFactsAll parts

/-- The facts that are so added in some parts of an outline. -/
def attachedFactsAll : List Outline → List Relationship
  | [] => []
  | part :: rest => part.attachedFacts ++ attachedFactsAll rest

end

theorem attachedFactsAll_eq (parts : List Outline) : attachedFactsAll parts = parts.flatMap attachedFacts := by
  induction parts with
  | nil => rfl
  | cons part rest ih => rw [attachedFactsAll, ih, List.flatMap_cons]

theorem Placed.attachedFacts_subset {path : String} {parent : Option String} {o : Outline} (h : Placed path parent o) :
    ∀ r ∈ o.attachedFacts, r ∈ o.extraction.relationships := by
  have hall : ∀ {parts : List Outline}, (∀ part ∈ parts, ∀ r ∈ part.attachedFacts, r ∈ part.extraction.relationships) →
      ∀ r ∈ attachedFactsAll parts, r ∈ (extractionAll parts).relationships := by
    intro parts hparts r hr
    rw [attachedFactsAll_eq] at hr
    rw [extractionAll_relationships]
    obtain ⟨part, hpart, hr⟩ := List.mem_flatMap.mp hr
    exact List.mem_flatMap.mpr ⟨part, hpart, hparts part hpart r hr⟩
  induction h with
  | leaf he => exact List.forall_mem_nil _
  | scope he hkind hrefs hparts ih =>
      intro r hr
      exact List.mem_append_right _ (hall ih r hr)
  | attached howner hrefs hparts ih =>
      intro r hr
      rcases List.mem_append.mp hr with hadded | hbelow
      · exact List.mem_append_left _ hadded
      · exact List.mem_append_right _ (hall ih r hbelow)

theorem extractionAll_listed_or_attached {parts : List Outline}
    (h : ∀ part ∈ parts, ∀ r ∈ part.extraction.relationships,
      (∃ d ∈ part.extraction.elements, d.id = r.source ∧ r.target ∈ d.childIds) ∨ r ∈ part.attachedFacts) :
    ∀ r ∈ (extractionAll parts).relationships,
      (∃ d ∈ (extractionAll parts).elements, d.id = r.source ∧ r.target ∈ d.childIds) ∨ r ∈ attachedFactsAll parts := by
  intro r hr
  rw [extractionAll_relationships] at hr
  rw [extractionAll_elements, attachedFactsAll_eq]
  obtain ⟨part, hpart, hr⟩ := List.mem_flatMap.mp hr
  rcases h part hpart r hr with ⟨d, hd, hends⟩ | hattached
  · exact .inl ⟨d, List.mem_flatMap.mpr ⟨part, hpart, hd⟩, hends⟩
  · exact .inr (List.mem_flatMap.mpr ⟨part, hpart, hattached⟩)

/-- **Every fact of an outline is in the list of children of an element, or was added by attaching something.** -/
theorem Placed.listed_or_attached {path : String} {parent : Option String} {o : Outline} (h : Placed path parent o) :
    ∀ r ∈ o.extraction.relationships,
      (∃ d ∈ o.extraction.elements, d.id = r.source ∧ r.target ∈ d.childIds) ∨ r ∈ o.attachedFacts := by
  induction h with
  | leaf he => exact List.forall_mem_nil _
  | scope he hkind hrefs hparts ih =>
      intro r hr
      rcases List.mem_append.mp hr with hchild | hbelow
      · obtain ⟨c, hc, rfl⟩ := List.mem_map.mp hchild
        refine .inl ⟨_, List.mem_cons_self, rfl, ?_⟩
        rw [Element.childIds_withChildren]
        exact hc
      · rcases extractionAll_listed_or_attached ih r hbelow with ⟨d, hd, hends⟩ | hattached
        · exact .inl ⟨d, List.mem_cons_of_mem _ hd, hends⟩
        · exact .inr hattached
  | attached howner hrefs hparts ih =>
      intro r hr
      rcases List.mem_append.mp hr with hadded | hbelow
      · exact .inr (List.mem_append_left _ hadded)
      · rcases extractionAll_listed_or_attached ih r hbelow with hlisted | hattached
        · exact .inl hlisted
        · exact .inr (List.mem_append_right _ hattached)

theorem Direct.attachedFacts_eq_nil {o : Outline} (h : Direct o) : o.attachedFacts = [] := by
  induction h with
  | leaf => rfl
  | scope hparts ih =>
      rw [attachedFacts, attachedFactsAll_eq]
      exact List.flatMap_eq_nil_iff.mpr ih

/-! ### Whole files -/

/-- **What a file declares is nested**, whatever its tree and however deep it is read. -/
theorem ofTree_nested {path : String} {read : Reader} (h : read.Places path) (limit : Option Nat)
    (tree : Syntax.Node) : Nested path none (extractionAll (ofTree read limit tree)) :=
  nested_extractionAll fun part hpart => (ofTree_placed h limit tree part hpart).nested

/-- **What a file declares is closed**, if its reader attaches nothing to types declared elsewhere. -/
theorem ofTree_closed {path : String} {read : Reader} (h : read.Places path) (hdirect : read.Direct)
    (limit : Option Nat) (tree : Syntax.Node) : Closed (extractionAll (ofTree read limit tree)) :=
  extractionAll_induction closed_empty (fun _ _ => closed_append) _ fun part hpart =>
    (ofTree_placed h limit tree part hpart).closed (ofTree_direct hdirect limit tree part hpart)

end CodeAtlas.Outline

namespace CodeAtlas.Graph.Extraction

/-- In a whole file the relationships and the parents of its elements say the same. -/
theorem Nested.contains_iff {path : String} {x : Extraction} (h : Nested path none x) {p c : String} :
    (⟨p, c, .contains⟩ : Relationship) ∈ x.relationships ↔ ∃ e ∈ x.elements, e.parent = some p ∧ e.id = c := by
  constructor
  · intro hr
    exact (h.edges _ hr).2
  · rintro ⟨e, he, hparent, rfl⟩
    rcases h.inside e he with h1 | h1 | ⟨q, hq, hr⟩
    · rw [hparent] at h1
      cases h1
    · rw [hparent] at h1
      cases h1
    · rw [hparent] at hq
      cases hq
      exact hr

end CodeAtlas.Graph.Extraction

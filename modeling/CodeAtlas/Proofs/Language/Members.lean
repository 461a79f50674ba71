/-
Members that implementations bring to a type.

An implementation is flattened on its own, so at first its items are not among the
children of the type they belong to.  `Rust.linkMembers` goes over the elements of
the file once more and lets every type list whatever it is known to contain.
Nothing but lists of children changes by that, and those only grow.
-/
import CodeAtlas.Language.Rust.Reader
import CodeAtlas.Proofs.Lists
import CodeAtlas.Proofs.Outline.Nesting

namespace CodeAtlas.Language.Rust

open CodeAtlas.Graph
open CodeAtlas.Graph.Extraction

theorem mem_membersOf {id c : String} {rs : List Relationship} :
    c ∈ membersOf id rs ↔ (⟨id, c, .contains⟩ : Relationship) ∈ rs := by
  simp only [membersOf, List.mem_map, List.mem_filter, Bool.and_eq_true, beq_iff_eq]
  constructor
  · rintro ⟨r, ⟨hr, hkind, hsource⟩, htarget⟩
    subst hsource htarget
    rw [← hkind]
    exact hr
  · intro hr
    exact ⟨_, ⟨hr, rfl, rfl⟩, rfl⟩

/-! ### What linking leaves alone -/

theorem linkElement_eq (rs : List Relationship) (e : Element) :
    ∃ children, linkElement rs e = { e with children := children } := by
  unfold linkElement
  simp only []
  split
  · exact ⟨_, rfl⟩
  · exact ⟨e.children, rfl⟩

@[simp] theorem linkElement_id (rs : List Relationship) (e : Element) : (linkElement rs e).id = e.id := by
  obtain ⟨children, h⟩ := linkElement_eq rs e
  rw [h]
  rfl

@[simp] theorem linkElement_kind (rs : List Relationship) (e : Element) : (linkElement rs e).kind = e.kind := by
  obtain ⟨children, h⟩ := linkElement_eq rs e
  rw [h]

@[simp] theorem linkElement_parent (rs : List Relationship) (e : Element) :
    (linkElement rs e).parent = e.parent := by
  obtain ⟨children, h⟩ := linkElement_eq rs e
  rw [h]

@[simp] theorem linkElement_filePath (rs : List Relationship) (e : Element) :
    (linkElement rs e).filePath = e.filePath := by
  obtain ⟨children, h⟩ := linkElement_eq rs e
  rw [h]

/-- **A type lists what it listed before and whatever it contains**; any other element lists what it did. -/
theorem mem_childIds_linkElement {rs : List Relationship} {e : Element} {c : String} :
    c ∈ (linkElement rs e).childIds ↔
      c ∈ e.childIds ∨ e.kind = .classLike ∧ (⟨e.id, c, .contains⟩ : Relationship) ∈ rs := by
  unfold linkElement
  simp only []
  split
  · next h =>
    simp only [Bool.and_eq_true, beq_iff_eq] at h
    show c ∈ (membersOf e.id rs).foldl Lists.addNew (e.children.getD []) ↔ _
    rw [Lists.mem_foldl_addNew, mem_membersOf]
    simp [Element.childIds, h.1]
  · next h =>
    -- Either it is no type, or nothing is known to be in it.
    constructor
    · exact Or.inl
    · rintro (hc | ⟨hk, hr⟩)
      · exact hc
      · exfalso
        have hmem := mem_membersOf.mpr hr
        apply h
        simp only [Bool.and_eq_true, beq_iff_eq, Bool.not_eq_true', List.isEmpty_eq_false_iff]
        exact ⟨hk, List.ne_nil_of_mem hmem⟩

theorem mem_linkMembers {x : Extraction} {e : Element} :
    e ∈ (linkMembers x).elements ↔ ∃ d ∈ x.elements, e = linkElement x.relationships d := by
  show e ∈ x.elements.map (linkElement x.relationships) ↔ _
  simp only [List.mem_map, eq_comm]

/-- What is nested stays nested. -/
theorem nested_linkMembers {path : String} {parent : Option String} {x : Extraction}
    (h : Nested path parent x) : Nested path parent (linkMembers x) := by
  refine ⟨?_, ?_, ?_, ?_⟩
  · intro e he
    obtain ⟨d, hd, rfl⟩ := mem_linkMembers.mp he
    rw [linkElement_filePath]
    exact h.file d hd
  · intro e he
    obtain ⟨d, hd, rfl⟩ := mem_linkMembers.mp he
    rw [linkElement_parent, linkElement_id]
    exact h.inside d hd
  · intro r hr
    obtain ⟨hk, d, hd, hparent, hid⟩ := h.edges r hr
    exact ⟨hk, _, mem_linkMembers.mpr ⟨d, hd, rfl⟩, by rw [linkElement_parent, hparent], by rw [linkElement_id, hid]⟩
  · intro e he c hc
    obtain ⟨d, hd, rfl⟩ := mem_linkMembers.mp he
    rw [linkElement_id]
    rcases mem_childIds_linkElement.mp hc with hc | ⟨-, hr⟩
    · exact h.children d hd c hc
    · exact hr

end CodeAtlas.Language.Rust

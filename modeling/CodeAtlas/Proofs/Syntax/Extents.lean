/-
What nodes and elements cover.

A report gives lines and columns, so extents are stated in these.  Two extents of a
tree are never entangled: one is inside the other or one comes before the other.
This is so because a tree is well-formed when it is at each of its nodes, which is
what a parser sees to: a node covers its children, and they follow each other.
-/
import CodeAtlas.Graph.Element
import CodeAtlas.Proofs.Syntax.Sites

namespace CodeAtlas.Text

/-- A line, counted from one, and a column in it. -/
structure Position where
  line : Nat
  column : Nat
deriving DecidableEq, Repr

namespace Position

/-- Earlier lines come first, and on a line earlier columns. -/
instance : LE Position :=
  ⟨fun a b => a.line < b.line ∨ a.line = b.line ∧ a.column ≤ b.column⟩

theorem le_iff {a b : Position} : a ≤ b ↔ a.line < b.line ∨ a.line = b.line ∧ a.column ≤ b.column :=
  Iff.rfl

instance (a b : Position) : Decidable (a ≤ b) :=
  decidable_of_iff _ le_iff.symm

theorem le_refl (a : Position) : a ≤ a := by
  rw [le_iff]
  omega

theorem le_trans {a b c : Position} (hab : a ≤ b) (hbc : b ≤ c) : a ≤ c := by
  rw [le_iff] at *
  omega

end Position

/-- A stretch of a text, by its lines and columns. -/
structure Extent where
  start : Position
  stop : Position
deriving DecidableEq, Repr

namespace Extent

/-- The stretch does not end before it starts. -/
def Proper (a : Extent) : Prop :=
  a.start ≤ a.stop

/-- One stretch is a part of another, or all of it. -/
def Inside (a b : Extent) : Prop :=
  b.start ≤ a.start ∧ a.stop ≤ b.stop

/-- One stretch ends where another begins, or earlier. -/
def Before (a b : Extent) : Prop :=
  a.stop ≤ b.start

instance (a : Extent) : Decidable a.Proper :=
  inferInstanceAs (Decidable (_ ≤ _))

instance (a b : Extent) : Decidable (a.Inside b) :=
  inferInstanceAs (Decidable (_ ∧ _))

instance (a b : Extent) : Decidable (a.Before b) :=
  inferInstanceAs (Decidable (_ ≤ _))

theorem inside_refl (a : Extent) : a.Inside a :=
  ⟨Position.le_refl _, Position.le_refl _⟩

theorem Inside.trans {a b c : Extent} (hab : a.Inside b) (hbc : b.Inside c) : a.Inside c :=
  ⟨Position.le_trans hbc.1 hab.1, Position.le_trans hab.2 hbc.2⟩

/-- What is inside two stretches follows each other as they do. -/
theorem Before.inside {a b a' b' : Extent} (h : a.Before b) (ha : a'.Inside a) (hb : b'.Inside b) : a'.Before b' :=
  Position.le_trans ha.2 (Position.le_trans h hb.1)

theorem Before.start_le {a b : Extent} (h : a.Before b) (ha : a.Proper) : a.start ≤ b.start :=
  Position.le_trans ha h

end Extent
end CodeAtlas.Text

namespace CodeAtlas.Graph

open CodeAtlas.Text

/-- What an element covers. -/
def Element.extent (e : Element) : Extent :=
  ⟨⟨e.lineStart, e.columnStart⟩, ⟨e.lineEnd, e.columnEnd⟩⟩

end CodeAtlas.Graph

namespace CodeAtlas.Syntax

open CodeAtlas.Text

/-- What a node covers. -/
def Node.extent (n : Node) : Extent :=
  ⟨⟨n.start.row + 1, n.start.column⟩, ⟨n.stop.row + 1, n.stop.column⟩⟩

/-- A tree in which every node covers its children, and these follow each other. -/
inductive Node.WellFormed : Node → Prop
  | mk {n : Node} (proper : n.extent.Proper) (inside : ∀ c ∈ n.children, c.extent.Inside n.extent)
      (ordered : n.children.Pairwise fun a b => a.extent.Before b.extent)
      (below : ∀ c ∈ n.children, WellFormed c) : WellFormed n

theorem Node.wellFormed_iff {n : Node} : n.WellFormed ↔ n.extent.Proper ∧
    (∀ c ∈ n.children, c.extent.Inside n.extent) ∧
    (n.children.Pairwise fun a b => a.extent.Before b.extent) ∧ ∀ c ∈ n.children, c.WellFormed := by
  constructor
  · rintro ⟨proper, inside, ordered, below⟩
    exact ⟨proper, inside, ordered, below⟩
  · rintro ⟨proper, inside, ordered, below⟩
    exact ⟨proper, inside, ordered, below⟩

mutual

/-- Whether a tree is well-formed can be decided node by node. -/
def Node.decideWellFormed : (n : Node) → Decidable n.WellFormed
  | .mk kind named field span children =>
    have := Node.decideAllWellFormed children
    decidable_of_iff ((Node.mk kind named field span children).extent.Proper ∧
      (∀ c ∈ children, c.extent.Inside (Node.mk kind named field span children).extent) ∧
      (children.Pairwise fun a b => a.extent.Before b.extent) ∧ ∀ c ∈ children, c.WellFormed)
      Node.wellFormed_iff.symm

/-- Whether all of some trees are well-formed. -/
def Node.decideAllWellFormed : (ns : List Node) → Decidable (∀ n ∈ ns, n.WellFormed)
  | [] => isTrue (List.forall_mem_nil _)
  | n :: rest =>
    have := n.decideWellFormed
    have := Node.decideAllWellFormed rest
    decidable_of_iff (n.WellFormed ∧ ∀ c ∈ rest, c.WellFormed) List.forall_mem_cons.symm

end

instance (n : Node) : Decidable n.WellFormed :=
  n.decideWellFormed

namespace Site

/-- What the node at a site covers. -/
def extent (s : Site) : Extent :=
  s.node.extent

theorem Holds.wellFormed {s c : Site} (h : s.Holds c) (hs : s.node.WellFormed) : c.node.WellFormed :=
  (Node.wellFormed_iff.mp hs).2.2.2 _ h.node_mem

theorem Holds.inside {s c : Site} (h : s.Holds c) (hs : s.node.WellFormed) : c.extent.Inside s.extent :=
  (Node.wellFormed_iff.mp hs).2.1 _ h.node_mem

/-- A well-formed site covers itself and its children, and they are well-formed too. -/
theorem wellFormed_inside_of_here {s d : Site} (hd : d = s ∨ s.Holds d) (hs : s.node.WellFormed) :
    d.node.WellFormed ∧ d.extent.Inside s.extent := by
  rcases hd with rfl | hholds
  · exact ⟨hs, d.extent.inside_refl⟩
  · exact ⟨hholds.wellFormed hs, hholds.inside hs⟩

theorem Under.wellFormed {s t : Site} (h : s.Under t) (hs : s.node.WellFormed) : t.node.WellFormed := by
  induction h with
  | child h => exact h.wellFormed hs
  | step _ h ih => exact h.wellFormed ih

theorem Under.inside {s t : Site} (h : s.Under t) (hs : s.node.WellFormed) : t.extent.Inside s.extent := by
  induction h with
  | child h => exact h.inside hs
  | step ht h ih => exact (h.inside (ht.wellFormed hs)).trans ih

theorem children_before {s : Site} (hs : s.node.WellFormed) :
    s.children.Pairwise (fun a b => a.val.extent.Before b.val.extent) := by
  have hordered := (Node.wellFormed_iff.mp hs).2.2.1
  rw [← map_node_children, List.pairwise_map] at hordered
  exact hordered

end Site
end CodeAtlas.Syntax

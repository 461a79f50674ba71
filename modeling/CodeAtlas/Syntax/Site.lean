import CodeAtlas.Syntax.Node

/-!
Nodes where they stand.

A site is a node together with the siblings before it and the sites above it, so that one can look back at a
comment before a declaration or up at what surrounds a name. What is reached by going down from a site is smaller
than the site, which is why walks over a tree end.
-/
namespace CodeAtlas.Syntax

open CodeAtlas.Text

mutual

/-- How many nodes a tree has. -/
def Node.size : Node → Nat
  | .mk _ _ _ _ children => 1 + Node.sizeAll children

/-- How many nodes some trees have together. -/
def Node.sizeAll : List Node → Nat
  | [] => 0
  | n :: rest => n.size + Node.sizeAll rest

end

/-- A node with what stands before and above it. -/
inductive Site where
  | root (node : Node)
  | child (node : Node) (before : List Node) (above : Site)

namespace Site

/-- The node. -/
def node : Site → Node
  | root n | child n _ _ => n

/-- The siblings before the node, nearest first. -/
def before : Site → List Node
  | root _ => []
  | child _ before _ => before

/-- What the node stands in. -/
def above : Site → Option Site
  | root _ => none
  | child _ _ above => some above

/-- What the node is. -/
def kind (s : Site) : String := s.node.kind

/-- The part that the node plays in what it stands in. -/
def field (s : Site) : Option String := s.node.field

/-- What the node covers. -/
def span (s : Site) : Span := s.node.span

/-- Where the node begins. -/
def start (s : Site) : Place := s.node.start

/-- How large the node is. -/
def size (s : Site) : Nat := s.node.size

/-- A smaller site. -/
def Below (s : Site) : Type := { t : Site // t.size < s.size }

namespace Below

/-- What is below something below `s` is below `s`. -/
def trans {s : Site} (t : s.Below) (u : t.val.Below) : s.Below :=
  ⟨u.val, Nat.lt_trans u.property t.property⟩

end Below

/-- The nodes of a list as sites in `s`, given the siblings before them. -/
def place (s : Site) : (children : List Node) → List Node → Node.sizeAll children < s.size →
    List s.Below
  | [], _, _ => []
  | n :: rest, before, h =>
    have hn : n.size < s.size := by simp only [Node.sizeAll] at h; omega
    have hr : Node.sizeAll rest < s.size := by simp only [Node.sizeAll] at h; omega
    ⟨child n before s, hn⟩ :: s.place rest (n :: before) hr

theorem sizeAll_children_lt (s : Site) : Node.sizeAll s.node.children < s.size := by
  generalize hn : s.node = n
  cases n
  simp [size, hn, Node.children, Node.size]

/-- The sites directly below. -/
def children (s : Site) : List s.Below :=
  s.place s.node.children [] s.sizeAll_children_lt

/-- The sites directly below, without keywords and signs. -/
def namedChildren (s : Site) : List s.Below :=
  s.children.filter (·.val.node.named)

/-- The first site directly below in the given field. -/
def child? (s : Site) (name : String) : Option s.Below :=
  s.children.find? (·.val.field == some name)

/-- The sites directly below in the given field. -/
def childrenIn (s : Site) (name : String) : List s.Below :=
  s.children.filter (·.val.field == some name)

end Site
end CodeAtlas.Syntax

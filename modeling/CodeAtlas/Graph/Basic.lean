import CodeAtlas.Graph.Element
import CodeAtlas.Graph.Relationship
import CodeAtlas.Text.Lowercase
import Std.Data.HashMap
import Std.Data.TreeMap

/-!
Graphs of declarations.

A graph keeps all elements by their identifiers and all relationships in the order in which they were found. Beside
that it holds a view in which both ends of every edge are elements, with the neighbours of each element at hand.
-/
namespace CodeAtlas.Graph

/-- Elements by their identifiers. -/
abbrev ElementMap := Std.TreeMap String Element

/-- The neighbours of elements: for each identifier the other ends and kinds of its edges, in order. -/
abbrev Neighbours := Std.HashMap String (List (String × RelationshipKind))

/-- A graph of declarations. -/
structure CodeGraph where
  elements : ElementMap
  relationships : List Relationship
  /-- The relationships between elements. -/
  edges : List Relationship
  successors : Neighbours
  predecessors : Neighbours

/-- Adds a neighbour. -/
def Neighbours.add (n : Neighbours) (id other : String) (kind : RelationshipKind) : Neighbours :=
  n.insert id (n.getD id [] ++ [(other, kind)])

/-- The neighbours of an element that edges of the given kind lead to. -/
def Neighbours.along (n : Neighbours) (id : String) (kind : RelationshipKind) : List String :=
  ((n.getD id []).filter (·.2 == kind)).map Prod.fst

namespace CodeGraph

/-- Adds an edge to the view. -/
def addEdge (g : CodeGraph) (r : Relationship) : CodeGraph :=
  { g with
    edges := g.edges ++ [r]
    successors := g.successors.add r.source r.target r.kind
    predecessors := g.predecessors.add r.target r.source r.kind }

/-- The graph of some elements and relationships. -/
def ofRelationships (elements : ElementMap) (relationships : List Relationship) : CodeGraph :=
  relationships.foldl
    (fun g r => if elements.contains r.source && elements.contains r.target then g.addEdge r else g)
    ⟨elements, relationships, [], ∅, ∅⟩

/-- The element with an identifier. -/
def get? (g : CodeGraph) (id : String) : Option Element :=
  g.elements[id]?

/-- The identifiers of all elements, in the order of their bytes. -/
def nodes (g : CodeGraph) : List String :=
  g.elements.keys

/-- Whether there are no elements. -/
def isEmpty (g : CodeGraph) : Bool :=
  g.elements.isEmpty

/-- The relationships of a kind, whether or not their ends are elements. -/
def ofKind (g : CodeGraph) (kind : RelationshipKind) : List Relationship :=
  g.relationships.filter (·.kind == kind)

/-- Where the edges of a kind lead that leave an element. -/
def outgoing (g : CodeGraph) (id : String) (kind : RelationshipKind) : List String :=
  g.successors.along id kind

/-- Where the edges of a kind come from that arrive at an element. -/
def incoming (g : CodeGraph) (id : String) (kind : RelationshipKind) : List String :=
  g.predecessors.along id kind

/-- The kind of relationship that a question in words is about. -/
def askedKind? (question : String) : Option RelationshipKind :=
  let text := (Text.lowercase question).toList
  if Text.occursIn "calls".toList text then some .calls
  else if Text.occursIn "inherits".toList text then some .inherits
  else none

/-- The relationships that a question in words is about. -/
def query (g : CodeGraph) (question : String) : List Relationship :=
  match askedKind? question with
  | some kind => g.ofKind kind
  | none => []

end CodeGraph
end CodeAtlas.Graph

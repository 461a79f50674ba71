import CodeAtlas.Graph.Basic
import CodeAtlas.Graph.Extraction

/-!
Putting the files of a repository together.

Files are added one after the other. The last declaration with an identifier is the one that is kept. A reference is
resolved as soon as its file is added, against everything added so far: a declaration in the same file goes before
one in an earlier file, and among several of them the one whose identifier came first.
-/
namespace CodeAtlas.Graph

/-- What has been put together so far. -/
structure Assembler where
  elements : ElementMap
  relationships : List Relationship
  /-- The identifiers that elements of a name were first added with, in order. -/
  byName : Std.HashMap String (List String)
  /-- How many references had no target. -/
  dropped : Nat

/-- The kind of element that a reference can lead to. -/
def RelationshipKind.targetKind? : RelationshipKind → Option ElementKind
  | .calls => some .function
  | .inherits | .implements => some .classLike
  | .contains => none

namespace Assembler

/-- Nothing put together yet. -/
def empty : Assembler := ⟨∅, [], ∅, 0⟩

/-- Adds an element. -/
def addElement (a : Assembler) (e : Element) : Assembler :=
  let id := e.id
  { a with
    byName := if a.elements.contains id then a.byName
      else a.byName.insert e.name (a.byName.getD e.name [] ++ [id])
    elements := a.elements.insert id e }

/-- The elements that a reference may lead to. -/
def candidates (a : Assembler) (r : Reference) : List Element :=
  match r.kind.targetKind? with
  | none => []
  | some kind => ((a.byName.getD r.name []).filterMap (a.elements[·]?)).filter (·.kind == kind)

/-- The element that a reference in the given file leads to. -/
def resolve? (a : Assembler) (filePath : String) (r : Reference) : Option Element :=
  let candidates := a.candidates r
  match candidates.find? (·.filePath == filePath) with
  | some e => some e
  | none => candidates.head?

/-- Adds a reference of a file: a relationship if it leads to an element. -/
def addReference (filePath : String) (a : Assembler) (r : Reference) : Assembler :=
  match a.resolve? filePath r with
  | some e => { a with relationships := a.relationships ++ [⟨r.source, e.id, r.kind⟩] }
  | none => { a with dropped := a.dropped + 1 }

/-- Adds what a file contributes. -/
def push (a : Assembler) (filePath : String) (x : Extraction) : Assembler :=
  let a := x.elements.foldl addElement a
  let a := { a with relationships := a.relationships ++ x.relationships }
  x.references.foldl (addReference filePath) a

/-- The graph of everything put together. -/
def finish (a : Assembler) : CodeGraph :=
  .ofRelationships a.elements a.relationships

end Assembler
end CodeAtlas.Graph

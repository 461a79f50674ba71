import CodeAtlas.Graph.Element
import CodeAtlas.Graph.Relationship

/-!
What one file contributes: its declarations in the order of the text, the facts between them, and the names they
refer to.
-/
namespace CodeAtlas.Graph

/-- The declarations, facts and references found in a file or a part of it. -/
structure Extraction where
  elements : List Element
  relationships : List Relationship
  references : List Reference
deriving DecidableEq, Repr, Inhabited

namespace Extraction

/-- Nothing found. -/
def empty : Extraction := ⟨[], [], []⟩

/-- What is found in one part and then in another. -/
def append (a b : Extraction) : Extraction :=
  ⟨a.elements ++ b.elements, a.relationships ++ b.relationships, a.references ++ b.references⟩

instance : Append Extraction := ⟨append⟩

/-- Whether nothing was found. -/
def isEmpty (x : Extraction) : Bool :=
  x.elements.isEmpty && x.relationships.isEmpty && x.references.isEmpty

@[simp] theorem elements_append (a b : Extraction) : (a ++ b).elements = a.elements ++ b.elements := rfl

@[simp] theorem relationships_append (a b : Extraction) :
    (a ++ b).relationships = a.relationships ++ b.relationships := rfl

@[simp] theorem references_append (a b : Extraction) :
    (a ++ b).references = a.references ++ b.references := rfl

end Extraction
end CodeAtlas.Graph

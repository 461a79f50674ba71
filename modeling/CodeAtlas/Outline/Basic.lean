import CodeAtlas.Graph.Extraction

/-!
Outlines: what a file declares, nested as it is written.

An outline is flattened into an extraction. A declaration precedes what stands inside it, and the declarations
that name it as their parent become its children, each listed once, with a fact for each child.
-/
namespace CodeAtlas

open CodeAtlas.Graph

/-- A part of the outline of a file. -/
inductive Outline where
  /-- A declaration with nothing inside. -/
  | leaf (element : Element)
  /-- A declaration with the references it makes and what stands inside. -/
  | scope (element : Element) (references : List Reference) (parts : List Outline)
  /-- Declarations that belong to a type declared elsewhere. -/
  | attached (owner : String) (references : List Reference) (parts : List Outline)

namespace Outline

/-- The identifiers of the elements whose parent is `id`, each once. -/
def childrenOf (id : String) (elements : List Element) : List String :=
  ((elements.filter (·.parent == some id)).map Element.id).eraseDups

/-- Puts a declaration around what stands inside it. -/
def enclose (e : Element) (body : Extraction) : Extraction :=
  let children := childrenOf e.id body.elements
  { elements := e.withChildren children :: body.elements
    relationships := children.map (fun c => ⟨e.id, c, .contains⟩) ++ body.relationships
    references := body.references }

/-- Declarations of a type that is declared elsewhere: every member is a fact of its own. -/
def attach (owner : String) (body : Extraction) : Extraction :=
  let members := body.elements.filter (·.parent == some owner)
  { body with
    relationships := members.map (fun e => ⟨owner, e.id, .contains⟩) ++ body.relationships }

mutual

/-- What a part of an outline contributes. -/
def extraction : Outline → Extraction
  | .leaf e => ⟨[e], [], []⟩
  | .scope e references parts => enclose e (⟨[], [], references⟩ ++ extractionAll parts)
  | .attached owner references parts => attach owner (⟨[], [], references⟩ ++ extractionAll parts)

/-- What the parts of an outline contribute together. -/
def extractionAll : List Outline → Extraction
  | [] => .empty
  | part :: rest => part.extraction ++ extractionAll rest

end

end Outline
end CodeAtlas

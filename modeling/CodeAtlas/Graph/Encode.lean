import CodeAtlas.Graph.Extraction
import CodeAtlas.Json.Basic

/-!
JSON forms of elements and relationships.
-/
namespace CodeAtlas.Graph

/-- The JSON form of an element; all fields are always there. -/
def Element.toJson (e : Element) : Json := .obj [
  ("name", .str e.name),
  ("type", .str e.kind.name),
  ("file_path", .str e.filePath),
  ("line_start", .nat e.lineStart),
  ("line_end", .nat e.lineEnd),
  ("column_start", .nat e.columnStart),
  ("column_end", .nat e.columnEnd),
  ("docstring", .ofOption .str e.docstring),
  ("parameters", .ofOption .strings e.parameters),
  ("return_type", .ofOption .str e.returnType),
  ("parent", .ofOption .str e.parent),
  ("children", .ofOption .strings e.children)]

/-- The JSON form of a relationship. -/
def Relationship.toJson (r : Relationship) : Json :=
  .arr [.str r.source, .str r.target, .str r.kind.name]

/-- The JSON form of a reference. -/
def Reference.toJson (r : Reference) : Json :=
  .arr [.str r.source, .str r.name, .str r.kind.name, .nat r.line]

end CodeAtlas.Graph

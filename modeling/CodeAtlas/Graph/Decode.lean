import CodeAtlas.Graph.Basic
import CodeAtlas.Graph.Encode
import CodeAtlas.Json.Decode

/-!
Elements, relationships and whole graphs from their JSON forms.
-/
namespace CodeAtlas.Graph

open CodeAtlas.Json

/-- The fields of an element. -/
def Element.fieldNames : List String := [
  "name", "type", "file_path", "line_start", "line_end", "column_start", "column_end", "docstring",
  "parameters", "return_type", "parent", "children"]

/-- The element that a JSON value stands for. -/
def Element.ofJson (j : Json) : Decoded Element := do
  let field ← toFields fieldNames 0 j
  return {
    name := ← required (field "name") toText
    kind := ← required (field "type") (toWord ElementKind.ofName?)
    filePath := ← required (field "file_path") toText
    lineStart := ← required (field "line_start") toNat
    lineEnd := ← required (field "line_end") toNat
    columnStart := ← required (field "column_start") toNat
    columnEnd := ← required (field "column_end") toNat
    docstring := ← optional (field "docstring") toText
    parameters := ← optional (field "parameters") (toList toText)
    returnType := ← optional (field "return_type") toText
    parent := ← optional (field "parent") toText
    children := ← optional (field "children") (toList toText) }

/-- The relationship that a JSON value stands for. -/
def Relationship.ofJson : Json → Decoded Relationship
  | .arr [source, target, kind] => do
    let source ← toText source
    let target ← toText target
    let kind ← toText kind
    match RelationshipKind.ofName? kind with
    | some kind => return ⟨source, target, kind⟩
    | none => .error (.unknownRelationship kind)
  | _ => .error .malformed

/-- An answer to a question: the ends of a relationship and the word for its kind. -/
structure QueryMatch where
  source : String
  target : String
  relationship : String
deriving DecidableEq, Repr

/-- The answer that a relationship gives. -/
def Relationship.toMatch (r : Relationship) : QueryMatch :=
  ⟨r.source, r.target, r.kind.name⟩

/-- The JSON form of an answer. -/
def QueryMatch.toJson (m : QueryMatch) : Json :=
  .obj [("from", .str m.source), ("to", .str m.target), ("relationship", .str m.relationship)]

/-- The answer that a JSON value stands for. -/
def QueryMatch.ofJson (j : Json) : Decoded QueryMatch := do
  let field ← toFields ["from", "to", "relationship"] 0 j
  return {
    source := ← required (field "from") toText
    target := ← required (field "to") toText
    relationship := ← required (field "relationship") toText }

/-- A graph written out. -/
structure GraphExport where
  elements : ElementMap
  relationships : List Relationship
  nodes : List String
  edges : List Relationship

/-- A graph written out. -/
def CodeGraph.toExport (g : CodeGraph) : GraphExport :=
  ⟨g.elements, g.relationships, g.nodes, g.edges⟩

/-- The JSON form of a graph. -/
def GraphExport.toJson (x : GraphExport) : Json := .obj [
  ("elements", .obj (x.elements.toList.map fun (id, e) => (id, e.toJson))),
  ("relationships", .arr (x.relationships.map Relationship.toJson)),
  ("graph_nodes", .strings x.nodes),
  ("graph_edges", .arr (x.edges.map Relationship.toJson))]

/-- The graph that a JSON value stands for. Fields are read in alphabetical order. -/
def GraphExport.ofJson (j : Json) : Decoded GraphExport := do
  let field ← toFields ["elements", "relationships", "graph_nodes", "graph_edges"] 0 j
  let elements ← present (field "elements") (toPairs Element.ofJson)
  let edges ← present (field "graph_edges") (Json.toList Relationship.ofJson)
  let nodes ← present (field "graph_nodes") (Json.toList toText)
  let relationships ← present (field "relationships") (Json.toList Relationship.ofJson)
  return {
    elements := Std.TreeMap.ofList (← need elements)
    relationships := ← need relationships
    nodes := ← need nodes
    edges := ← need edges }

end CodeAtlas.Graph

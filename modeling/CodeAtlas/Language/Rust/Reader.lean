import CodeAtlas.Outline.Calls
import CodeAtlas.Outline.Documentation

/-!
What is declared in Rust: functions, types and traits, modules, imports and constants. What stands in an
implementation belongs to the type that it implements. Documentation is in the comments right before an item.
-/
namespace CodeAtlas.Language.Rust

open CodeAtlas.Graph
open CodeAtlas.Outline
open CodeAtlas.Syntax
open CodeAtlas.Text

/-- How calls are written. -/
def callRules : CallRules where
  patterns := [
    ⟨"identifier", [("function", "call_expression")]⟩,
    ⟨"identifier", [("name", "scoped_identifier"), ("function", "call_expression")]⟩,
    ⟨"field_identifier", [("field", "field_expression"), ("function", "call_expression")]⟩]
  isScope s := s.kind == "function_item"

/-- The text of a line of documentation. -/
def docLine? (text : String) : Option String :=
  match text.toList with
  | '/' :: '/' :: '/' :: rest =>
    if rest.head? == some '/' then none else some (String.ofList (trimList rest))
  | _ => none

/-- The documentation in the siblings before an item, nearest first; `lines` is what was found so far. Attributes
are passed over. A block comment counts only where there are no lines. -/
def documentationIn (source : Source) (lines : List String) : List Node → Option String
  | [] => if lines.isEmpty then none else some ("\n".intercalate lines)
  | sibling :: rest =>
    let found := if lines.isEmpty then none else some ("\n".intercalate lines)
    match sibling.kind with
    | "attribute_item" => documentationIn source lines rest
    | "line_comment" =>
      match docLine? (source.textOf sibling) with
      | some line => documentationIn source (line :: lines) rest
      | none => found
    | "block_comment" => if lines.isEmpty then cleanBlock (source.textOf sibling) else found
    | _ => found

/-- The documentation right before an item. -/
def documentation? (source : Source) (s : Site) : Option String :=
  documentationIn source [] s.before

/-- The name of a parameter. -/
def parameter? (source : Source) (p : Node) : Option String :=
  match p.kind with
  | "self_parameter" => some "self"
  | "parameter" => source.fieldText? p "pattern"
  | _ => none

/-- A function with its calls. -/
def function (source : Source) (context : Context) (s : Site) : List (Finding s) :=
  match source.fieldText? s.node "name" with
  | none => []
  | some name =>
    let e := { source.element name .function s.node with
      parent := context.parent
      parameters := (s.node.child? "parameters").map fun p =>
        p.namedChildren.filterMap (parameter? source)
      returnType := source.fieldText? s.node "return_type"
      docstring := documentation? source s }
    let body := s.child? "body"
    [.scope e (if body.isSome then callRules.calls source e.id s else []) body true]

/-- A named item that other items may stand in. -/
def block (source : Source) (context : Context) (kind : ElementKind) (hasItems : Bool) (s : Site) :
    List (Finding s) :=
  match source.fieldText? s.node "name" with
  | none => []
  | some name =>
    let e := { source.element name kind s.node with
      parent := context.parent
      docstring := documentation? source s }
    [.scope e [] (if hasItems then s.child? "body" else none) false]

/-- The items of an implementation, which belong to the implemented type. -/
def implementation (source : Source) (context : Context) (s : Site) : List (Finding s) :=
  match s.child? "type" with
  | none => []
  | some type =>
    let owner := context.parent.getD source.path ++ ":" ++ typeName source type.val
    let references := match s.child? "trait" with
      | none => []
      | some t => [⟨owner, typeName source t.val, .implements, t.val.start.row + 1⟩]
    [.attached owner references (s.child? "body")]

/-- The path that is imported. -/
def imports (source : Source) (s : Site) : List (Finding s) :=
  match source.fieldText? s.node "argument" with
  | none => []
  | some path => [.leaf (source.element path .dependency s.node)]

/-- A constant or a static variable. -/
def constant (source : Source) (context : Context) (s : Site) : List (Finding s) :=
  match source.fieldText? s.node "name" with
  | none => []
  | some name => [.leaf { source.element name .binding s.node with
      parent := context.parent
      docstring := documentation? source s }]

/-- Reads a node. -/
def read (source : Source) : Reader := fun context s =>
  match s.kind with
  | "function_item" | "function_signature_item" => function source context s
  | "struct_item" | "enum_item" | "union_item" => block source context .classLike false s
  | "trait_item" => block source context .classLike true s
  | "mod_item" => block source context .moduleBlock true s
  | "impl_item" => implementation source context s
  | "use_declaration" => imports source s
  | "const_item" | "static_item" => if context.inFunction then [.inside] else constant source context s
  | _ => [.inside]

/-- The targets of the facts that `id` contains something, in order. -/
def membersOf (id : String) (relationships : List Relationship) : List String :=
  (relationships.filter fun r => r.kind == .contains && r.source == id).map Relationship.target

/-- Adds to the children of a type the members that its implementations bring, each once. -/
def linkElement (relationships : List Relationship) (e : Element) : Element :=
  let members := membersOf e.id relationships
  if e.kind == .classLike && !members.isEmpty then
    let children := members.foldl (fun children m =>
      if children.contains m then children else children ++ [m]) (e.children.getD [])
    { e with children := some children }
  else e

/-- Adds the members of implementations to the children of the types declared in the same file. -/
def linkMembers (x : Extraction) : Extraction :=
  { x with elements := x.elements.map (linkElement x.relationships) }

end CodeAtlas.Language.Rust

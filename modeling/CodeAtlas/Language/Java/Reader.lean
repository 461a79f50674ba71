import CodeAtlas.Outline.Calls
import CodeAtlas.Outline.Documentation

/-!
What is declared in Java: types, methods and constructors, fields and imports. Documentation is a block comment
before the declaration.
-/
namespace CodeAtlas.Language.Java

open CodeAtlas.Graph
open CodeAtlas.Outline
open CodeAtlas.Syntax
open CodeAtlas.Text

/-- Whether a kind of node declares a type. -/
def isTypeDeclaration (kind : String) : Bool :=
  ["class_declaration", "interface_declaration", "enum_declaration", "record_declaration",
    "annotation_type_declaration"].contains kind

/-- Whether a kind of node declares a method or a constructor. -/
def isMethodDeclaration (kind : String) : Bool :=
  ["method_declaration", "constructor_declaration", "compact_constructor_declaration"].contains kind

/-- How calls are written. -/
def callRules : CallRules where
  patterns := [⟨"identifier", [("name", "method_invocation")]⟩]
  isScope s := isTypeDeclaration s.kind || isMethodDeclaration s.kind

/-- The types named in a clause that follows `extends` or `implements`. -/
def typesNamed (source : Source) (id : String) (kind : RelationshipKind) (clause : Site) :
    List Reference :=
  let reference (t : Site) : Reference := ⟨id, typeName source t, kind, t.start.row + 1⟩
  clause.namedChildren.flatMap fun c =>
    if c.val.kind == "type_list" then c.val.namedChildren.map fun t => reference t.val
    else [reference c.val]

/-- A type with what it extends and implements. -/
def typeDeclaration (source : Source) (context : Context) (s : Site) : List (Finding s) :=
  match source.fieldText? s.node "name" with
  | none => []
  | some name =>
    let e := { source.element name .classLike s.node with
      parent := context.parent
      docstring := blockBefore source s }
    let named (kind : RelationshipKind) (clause : s.Below) : List Reference :=
      typesNamed source e.id kind clause.val
    let references :=
      (s.child? "superclass").toList.flatMap (named .inherits) ++
      (s.child? "interfaces").toList.flatMap (named .implements) ++
      (s.namedChildren.filter (·.val.kind == "extends_interfaces")).flatMap (named .inherits)
    [.scope e references (s.child? "body") false]

/-- The name of a parameter. -/
def parameter? (source : Source) (p : Node) : Option String :=
  match p.kind with
  | "formal_parameter" => source.fieldText? p "name"
  | "spread_parameter" =>
    (p.namedChildren.find? (·.kind == "variable_declarator")).bind (source.fieldText? · "name")
  | _ => none

/-- A method or constructor with its calls. -/
def method (source : Source) (context : Context) (s : Site) : List (Finding s) :=
  match source.fieldText? s.node "name" with
  | none => []
  | some name =>
    let e := { source.element name .function s.node with
      parent := context.parent
      parameters := (s.node.child? "parameters").map fun p =>
        p.namedChildren.filterMap (parameter? source)
      returnType := source.fieldText? s.node "type"
      docstring := blockBefore source s }
    let body := s.child? "body"
    [.scope e (if body.isSome then callRules.calls source e.id s else []) body true]

/-- The fields that a declaration introduces. -/
def fields (source : Source) (context : Context) (s : Site) : List (Finding s) :=
  (s.node.childrenIn "declarator").filterMap fun d =>
    (source.fieldText? d "name").map fun name =>
      .leaf { source.element name .binding s.node with parent := context.parent }

/-- The name or package that is imported. -/
def imports (source : Source) (s : Site) : List (Finding s) :=
  let isPath (n : Node) : Bool := n.kind == "scoped_identifier" || n.kind == "identifier"
  match (s.node.namedChildren.filter isPath).getLast? with
  | none => []
  | some path =>
    let suffix := if s.node.namedChildren.any (·.kind == "asterisk") then ".*" else ""
    [.leaf (source.element (source.textOf path ++ suffix) .dependency s.node)]

/-- Reads a node. -/
def read (source : Source) : Reader := fun context s =>
  if isTypeDeclaration s.kind then typeDeclaration source context s
  else if isMethodDeclaration s.kind then method source context s
  else match s.kind with
    | "field_declaration" => if context.inFunction then [.inside] else fields source context s
    | "import_declaration" => imports source s
    | _ => [.inside]

end CodeAtlas.Language.Java

import CodeAtlas.Outline.Calls
import CodeAtlas.Outline.Documentation

/-!
What is declared in JavaScript: functions, also those bound to variables, classes with their methods and fields,
imports, and variables outside functions. Documentation is a block comment before the declaration.
-/
namespace CodeAtlas.Language.JavaScript

open CodeAtlas.Graph
open CodeAtlas.Outline
open CodeAtlas.Syntax
open CodeAtlas.Text

/-- Whether a kind of expression is a function. -/
def isFunctionValue (kind : String) : Bool :=
  ["arrow_function", "function_expression", "function", "generator_function"].contains kind

/-- Whether a kind of node declares a function by itself. -/
def isFunctionDeclaration (kind : String) : Bool :=
  ["function_declaration", "generator_function_declaration", "method_definition"].contains kind

/-- Whether calls belong to the node at a site rather than to what is around it. -/
def isScope (s : Site) : Bool :=
  isFunctionDeclaration s.kind || s.kind == "class_declaration" ||
    (isFunctionValue s.kind && s.above.any (·.kind == "variable_declarator"))

/-- How calls are written. -/
def callRules : CallRules where
  patterns := [
    ⟨"identifier", [("function", "call_expression")]⟩,
    ⟨"property_identifier", [("property", "member_expression"), ("function", "call_expression")]⟩]
  isScope := isScope

/-- The documentation of a declaration, looking past what exports or declares it. -/
def documentation? (source : Source) : Site → Option String
  | .root n => blockBefore source (.root n)
  | .child n before above =>
    match blockBefore source (.child n before above) with
    | some doc => some doc
    | none =>
      if ["export_statement", "lexical_declaration", "variable_declaration"].contains above.kind then
        documentation? source above
      else none

/-- The name of a parameter. -/
def parameter? (source : Source) (p : Node) : Option String :=
  match p.kind with
  | "comment" => none
  | "assignment_pattern" => source.fieldText? p "left"
  | "rest_pattern" => p.namedChildren.head?.map source.textOf
  | _ => some (source.textOf p)

/-- The names of the parameters of a function. -/
def parameters (source : Source) (f : Node) : List String :=
  match f.child? "parameter" with
  | some p => [source.textOf p]
  | none => match f.child? "parameters" with
    | some ps => ps.namedChildren.filterMap (parameter? source)
    | none => []

/-- A function that is declared at the site `s` and written at the site `f`, with its calls. -/
def functionElement (source : Source) (context : Context) (name : String) (s f : Site) :
    Element × List Reference :=
  let e := { source.element name .function s.node with
    parent := context.parent
    parameters := some (parameters source f.node)
    docstring := documentation? source s }
  (e, if (f.child? "body").isSome then callRules.calls source e.id f else [])

/-- A class with its base. -/
def classDeclaration (source : Source) (context : Context) (s : Site) : List (Finding s) :=
  match source.fieldText? s.node "name" with
  | none => []
  | some name =>
    let e := { source.element name .classLike s.node with
      parent := context.parent
      docstring := documentation? source s }
    let bases := s.namedChildren.filterMap fun c =>
      if c.val.kind == "class_heritage" then
        c.val.namedChildren.head?.map fun base =>
          ⟨e.id, typeName source base.val, .inherits, base.val.start.row + 1⟩
      else none
    [.scope e bases (s.child? "body") false]

/-- A field of a class. -/
def fieldDefinition (source : Source) (context : Context) (s : Site) : List (Finding s) :=
  match source.fieldText? s.node "property" with
  | none => []
  | some name => [.leaf { source.element name .binding s.node with parent := context.parent }]

/-- What one declarator declares: a function bound to a name, a variable, or nothing but what its value holds. -/
def declarator (source : Source) (context : Context) (s : Site) (d : s.Below) : List (Finding s) :=
  match d.val.node.child? "name" with
  | none => []
  | some nameNode =>
    let isName := nameNode.kind == "identifier"
    let name := source.textOf nameNode
    let binding := if isName && !context.inFunction then
        [.leaf { source.element name .binding d.val.node with parent := context.parent }]
      else []
    match d.val.child? "value" with
    | none => binding
    | some value =>
      if isName && isFunctionValue value.val.kind then
        let (e, calls) := functionElement source context name d.val value.val
        [.scope e calls ((value.val.child? "body").map fun b => d.trans (value.trans b)) true]
      else binding ++ [.readOn (d.trans value)]

/-- The module that is imported. -/
def imports (source : Source) (s : Site) : List (Finding s) :=
  match source.fieldText? s.node "source" with
  | none => []
  | some text =>
    let path := stripBoth (fun c => c == '"' || c == '\'' || c == '\x60') text.toList
    [.leaf (source.element (String.ofList path) .dependency s.node)]

/-- Reads a node. -/
def read (source : Source) : Reader := fun context s =>
  match s.kind with
  | "function_declaration" | "generator_function_declaration" | "method_definition" =>
    match source.fieldText? s.node "name" with
    | some name =>
      let (e, calls) := functionElement source context name s s
      [.scope e calls (s.child? "body") true]
    | none => [.inside]
  | "class_declaration" => classDeclaration source context s
  | "field_definition" => if context.inFunction then [.inside] else fieldDefinition source context s
  | "lexical_declaration" | "variable_declaration" =>
    (s.namedChildren.filter (·.val.kind == "variable_declarator")).flatMap (declarator source context s)
  | "import_statement" => imports source s
  | _ => [.inside]

end CodeAtlas.Language.JavaScript

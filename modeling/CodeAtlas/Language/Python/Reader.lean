import CodeAtlas.Outline.Calls
import CodeAtlas.Outline.Documentation

/-!
What is declared in Python: functions, classes, imports, and variables of modules and classes. Documentation is the
string at the start of a body.
-/
namespace CodeAtlas.Language.Python

open CodeAtlas.Graph
open CodeAtlas.Outline
open CodeAtlas.Syntax
open CodeAtlas.Text

/-- How calls are written. -/
def callRules : CallRules where
  patterns := [
    ⟨"identifier", [("function", "call")]⟩,
    ⟨"identifier", [("attribute", "attribute"), ("function", "call")]⟩]
  isScope s := s.kind == "function_definition" || s.kind == "class_definition"

/-- Whether a letter may stand before the quotes of a string. -/
def isStringLetter (c : Char) : Bool :=
  "rRuUbBfF".toList.contains c

/-- The text of a string without letters, quotes and surrounding white space. -/
def unquote (text : String) : String :=
  let tripleDouble := ['"', '"', '"']
  let tripleSingle := ['\'', '\'', '\'']
  let bare := text.toList.dropWhile isStringLetter
  let bare := stripEnd tripleDouble (stripStart tripleDouble bare)
  let bare := stripEnd tripleSingle (stripStart tripleSingle bare)
  let bare := stripBoth (· == '\'') (stripBoth (· == '"') bare)
  String.ofList (trimList bare)

/-- The documentation at the start of a body. -/
def docstring? (source : Source) (body : Node) : Option String :=
  match body.namedChildren with
  | first :: _ =>
    if first.kind == "expression_statement" then
      match first.namedChildren with
      | string :: _ =>
        if string.kind == "string" then some (unquote (source.textOf string)) else none
      | [] => none
    else none
  | [] => none

/-- The name of a parameter. -/
def parameter? (source : Source) (p : Node) : Option String :=
  match p.kind with
  | "identifier" | "list_splat_pattern" | "dictionary_splat_pattern" => some (source.textOf p)
  | "default_parameter" | "typed_default_parameter" => source.fieldText? p "name"
  | "typed_parameter" => p.namedChildren.head?.map source.textOf
  | _ => none

/-- A function with its calls. -/
def function (source : Source) (context : Context) (s : Site) : List (Finding s) :=
  match source.fieldText? s.node "name" with
  | none => []
  | some name =>
    let e := { source.element name .function s.node with
      parent := context.parent
      parameters := (s.node.child? "parameters").map fun p =>
        p.namedChildren.filterMap (parameter? source)
      returnType := source.fieldText? s.node "return_type" }
    match s.child? "body" with
    | none => [.scope e [] none true]
    | some body =>
      let e := { e with docstring := docstring? source body.val.node }
      [.scope e (callRules.calls source e.id s) (some body) true]

/-- A class with its bases. -/
def classDefinition (source : Source) (context : Context) (s : Site) : List (Finding s) :=
  match source.fieldText? s.node "name" with
  | none => []
  | some name =>
    let body := s.child? "body"
    let e := { source.element name .classLike s.node with
      parent := context.parent
      docstring := body.bind fun b => docstring? source b.val.node }
    let bases := match s.child? "superclasses" with
      | none => []
      | some list => list.val.namedChildren.filterMap fun base =>
        if base.val.kind == "identifier" || base.val.kind == "attribute" then
          some ⟨e.id, typeName source base.val, .inherits, base.val.start.row + 1⟩
        else none
    [.scope e bases body false]

/-- The modules named in an import. -/
def imports (source : Source) (s : Site) : List (Finding s) :=
  (s.node.childrenIn "name").filterMap fun name =>
    let path := if name.kind == "aliased_import" then source.fieldText? name "name"
      else some (source.textOf name)
    path.map fun path => .leaf (source.element path .dependency s.node)

/-- The module from which names are imported. -/
def importFrom (source : Source) (s : Site) : List (Finding s) :=
  match source.fieldText? s.node "module_name" with
  | none => []
  | some path => [.leaf (source.element path .dependency s.node)]

/-- The variable that a statement assigns to. -/
def assignment (source : Source) (context : Context) (s : Site) : List (Finding s) :=
  match s.node.namedChildren with
  | [] => []
  | first :: _ =>
    if first.kind == "assignment" then
      match first.child? "left" with
      | none => []
      | some left =>
        if left.kind == "identifier" then
          [.leaf { source.element (source.textOf left) .binding s.node with parent := context.parent }]
        else []
    else []

/-- Reads a node. -/
def read (source : Source) : Reader := fun context s =>
  match s.kind with
  | "function_definition" => function source context s
  | "class_definition" => classDefinition source context s
  | "decorated_definition" =>
    match s.child? "definition" with
    | some d => [.readOn d]
    | none => []
  | "import_statement" => imports source s
  | "import_from_statement" => importFrom source s
  | "expression_statement" => if context.inFunction then [.inside] else assignment source context s
  | _ => [.inside]

end CodeAtlas.Language.Python

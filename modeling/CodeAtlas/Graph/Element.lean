/-!
Declared things.

An element is one declaration in a file: a function, a class-like type, a variable, an import or a module.
Its identifier is made of the path of its file and the names of the declarations around it, so that the same
text at the same path always gives the same identifiers.
-/
namespace CodeAtlas.Graph

/-- What is declared. -/
inductive ElementKind where
  /-- A function, method or constructor. -/
  | function
  /-- A class, structure, enumeration, interface or trait. -/
  | classLike
  /-- A variable of a module or a class. -/
  | binding
  /-- An import of another module. -/
  | dependency
  /-- A named module. -/
  | moduleBlock
deriving DecidableEq, Repr, Inhabited

namespace ElementKind

/-- The word for a kind in reports. -/
def name : ElementKind → String
  | function => "function"
  | classLike => "class"
  | binding => "variable"
  | dependency => "import"
  | moduleBlock => "module"

/-- The kind that a word stands for. -/
def ofName? : String → Option ElementKind
  | "function" => some function
  | "class" => some classLike
  | "variable" => some binding
  | "import" => some dependency
  | "module" => some moduleBlock
  | _ => none

/-- Whether a call can lead to it. -/
def isCallable (k : ElementKind) : Bool :=
  k == function

/-- Whether declarations can stand inside it. -/
def isScope : ElementKind → Bool
  | function | classLike | moduleBlock => true
  | binding | dependency => false

/-- A kind can be told from its word. -/
@[simp] theorem ofName?_name (k : ElementKind) : ofName? k.name = some k := by
  cases k <;> rfl

end ElementKind

/-- A declaration in a file. Lines count from one and columns, in bytes, from zero. -/
structure Element where
  name : String
  kind : ElementKind
  filePath : String
  lineStart : Nat
  lineEnd : Nat
  columnStart : Nat
  columnEnd : Nat
  docstring : Option String
  parameters : Option (List String)
  returnType : Option String
  /-- The identifier of the declaration around it. -/
  parent : Option String
  /-- The identifiers of the declarations directly inside it. -/
  children : Option (List String)
deriving DecidableEq, Repr, Inhabited

namespace Element

/-- An element of which only the name, kind and file are known. -/
def bare (name : String) (kind : ElementKind) (filePath : String) : Element where
  name := name
  kind := kind
  filePath := filePath
  lineStart := 1
  lineEnd := 1
  columnStart := 0
  columnEnd := 0
  docstring := none
  parameters := none
  returnType := none
  parent := none
  children := none

/-- The same element with the given children; no children are the same as an empty list. -/
def withChildren (e : Element) (children : List String) : Element :=
  { e with children := if children.isEmpty then none else some children }

/-- The identifier: the path of the file and the names down to the element. Imports have identifiers of their
own form. -/
def id (e : Element) : String :=
  match e.kind with
  | .dependency => e.filePath ++ ":import:" ++ e.name
  | _ => e.parent.getD e.filePath ++ ":" ++ e.name

/-- How many lines the element covers. -/
def lineCount (e : Element) : Nat :=
  e.lineEnd - e.lineStart + 1

/-- The file and the lines of the element. -/
def location (e : Element) : String :=
  s!"{e.filePath}:{e.lineStart}-{e.lineEnd}"

/-- The children do not matter for the identifier. -/
@[simp] theorem id_withChildren (e : Element) (children : List String) :
    (e.withChildren children).id = e.id := rfl

end Element
end CodeAtlas.Graph

import CodeAtlas.Outline.Basic
import CodeAtlas.Syntax.Site

/-!
Walking a syntax tree for its outline.

A reader says, for a single node, what is declared there and where to look on: in the body of a declaration, at
another node in the same circumstances, or simply further down. The walk does the looking on. It may be given a
bound on how many lists of children it enters inside each other; what lies deeper is left out.
-/
namespace CodeAtlas

open CodeAtlas.Graph
open CodeAtlas.Syntax

/-- The text of a file, with the path by which it is known. -/
structure Source where
  path : String
  text : String

namespace Source

/-- The stretch of the text that a node covers. -/
def textOf (source : Source) (n : Node) : String :=
  String.Pos.Raw.extract source.text ⟨n.start.offset⟩ ⟨n.stop.offset⟩

/-- The text of the first child in a field. -/
def fieldText? (source : Source) (n : Node) (field : String) : Option String :=
  (n.child? field).map source.textOf

/-- An element for what is declared at a node. -/
def element (source : Source) (name : String) (kind : ElementKind) (n : Node) : Element :=
  { Element.bare name kind source.path with
    lineStart := n.start.row + 1
    columnStart := n.start.column
    lineEnd := n.stop.row + 1
    columnEnd := n.stop.column }

end Source

namespace Outline

/-- The circumstances of a node: the declaration around it, and whether that is a function. -/
structure Context where
  parent : Option String
  inFunction : Bool

/-- Something that a reader finds at the site `s`. -/
inductive Finding (s : Site) where
  /-- A declaration with nothing inside. -/
  | leaf (element : Element)
  /-- A declaration, the references it makes, and its body, which is that of a function or not. -/
  | scope (element : Element) (references : List Reference) (body : Option s.Below) (isFunction : Bool)
  /-- Declarations for a type declared elsewhere. -/
  | attached (owner : String) (references : List Reference) (body : Option s.Below)
  /-- A site to read in the same circumstances. -/
  | readOn (t : s.Below)
  /-- Nothing by itself: what stands directly below is read in the same circumstances. -/
  | inside

/-- How a language reads a single node. -/
def Reader : Type := Context → (s : Site) → List (Finding s)

/-- The bound after entering one more list of children, if it may be entered. `none` is no bound. -/
def enter? : Option Nat → Option (Option Nat)
  | none => some none
  | some 0 => none
  | some (n + 1) => some (some n)

/-- The outline of what stands at a site. -/
def walk (read : Reader) (limit : Option Nat) (context : Context) (s : Site) : List Outline :=
  let within (context : Context) : Option s.Below → List Outline
    | none => []
    | some b => match enter? limit with
      | none => []
      | some limit => b.val.namedChildren.flatMap fun c => walk read limit context c.val
  (read context s).flatMap fun
    | .leaf e => [.leaf e]
    | .scope e references body isFunction => [.scope e references (within ⟨some e.id, isFunction⟩ body)]
    | .attached owner references body => [.attached owner references (within ⟨some owner, false⟩ body)]
    | .readOn t => walk read limit context t.val
    | .inside => match enter? limit with
      | none => []
      | some limit => s.namedChildren.flatMap fun c => walk read limit context c.val
termination_by s.size
decreasing_by
  · exact Nat.lt_trans c.property b.property
  · exact t.property
  · exact c.property

/-- The outline of what stands directly below a site. -/
def walkInside (read : Reader) (limit : Option Nat) (context : Context) (s : Site) : List Outline :=
  match enter? limit with
  | none => []
  | some limit => s.namedChildren.flatMap fun c => walk read limit context c.val

/-- How many lists of children are entered inside each other at most. -/
def depthLimit : Nat := 512

/-- The outline of a file. -/
def ofTree (read : Reader) (limit : Option Nat) (tree : Node) : List Outline :=
  walkInside read limit ⟨none, false⟩ (.root tree)

end Outline
end CodeAtlas

import CodeAtlas.Text.Cursor

/-!
Syntax trees.

A node has a kind, which is a name of the grammar or the very text of a keyword or sign; it stands in a
field of its parent or in none; and it covers a stretch of the text. Keywords and signs are nodes too,
but not named ones. Comments are nodes wherever they stand.
-/
namespace CodeAtlas.Syntax

open CodeAtlas.Text

/-- A node of a syntax tree. -/
inductive Node where
  | mk (kind : String) (named : Bool) (field : Option String) (span : Span) (children : List Node)
deriving Inhabited

namespace Node

/-- What the node is. -/
def kind : Node → String
  | mk k _ _ _ _ => k

/-- Whether the node is more than a keyword or a sign. -/
def named : Node → Bool
  | mk _ n _ _ _ => n

/-- The part that the node plays in its parent. -/
def field : Node → Option String
  | mk _ _ f _ _ => f

/-- What the node covers. -/
def span : Node → Span
  | mk _ _ _ s _ => s

/-- The nodes directly below. -/
def children : Node → List Node
  | mk _ _ _ _ cs => cs

/-- The same node in the field `name`, unless it is in a field already. -/
def inField (name : String) : Node → Node
  | mk k n f s cs => mk k n (some (f.getD name)) s cs

/-- The children without keywords and signs. -/
def namedChildren (n : Node) : List Node :=
  n.children.filter Node.named

/-- The first child in the given field. -/
def child? (n : Node) (field : String) : Option Node :=
  n.children.find? (fun c => c.field == some field)

/-- The children in the given field. -/
def childrenIn (n : Node) (field : String) : List Node :=
  n.children.filter (fun c => c.field == some field)

/-- Where the node begins. -/
def start (n : Node) : Place := n.span.start

/-- Where the node ends. -/
def stop (n : Node) : Place := n.span.stop

end Node
end CodeAtlas.Syntax

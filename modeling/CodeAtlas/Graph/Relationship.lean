/-!
Facts between declarations.

A relationship leads from one identifier to another. A reference is a relationship whose target is known only by
its name. The same fact may be stated more than once, so lists of relationships are bags.
-/
namespace CodeAtlas.Graph

/-- How two declarations are related. -/
inductive RelationshipKind where
  /-- The first stands around the second. -/
  | contains
  /-- A function calls a function. -/
  | calls
  /-- A class derives from a class. -/
  | inherits
  /-- A type implements an interface or a trait. -/
  | implements
deriving DecidableEq, Repr, Inhabited

namespace RelationshipKind

/-- The word for a kind in reports and questions. -/
def name : RelationshipKind → String
  | contains => "contains"
  | calls => "calls"
  | inherits => "inherits"
  | implements => "implements"

/-- The kind that a word stands for. -/
def ofName? : String → Option RelationshipKind
  | "contains" => some contains
  | "calls" => some calls
  | "inherits" => some inherits
  | "implements" => some implements
  | _ => none

/-- Whether it is about what stands inside what. -/
def isStructural (k : RelationshipKind) : Bool :=
  k == contains

/-- Whether it is about types. -/
def isTypeRelationship : RelationshipKind → Bool
  | inherits | implements => true
  | contains | calls => false

/-- A kind can be told from its word. -/
@[simp] theorem ofName?_name (k : RelationshipKind) : ofName? k.name = some k := by
  cases k <;> rfl

end RelationshipKind

/-- A fact between two identifiers. -/
structure Relationship where
  source : String
  target : String
  kind : RelationshipKind
deriving DecidableEq, Repr, Inhabited

/-- A fact whose target is known by its name only, with the line where the name stands. -/
structure Reference where
  source : String
  name : String
  kind : RelationshipKind
  line : Nat
deriving DecidableEq, Repr, Inhabited

end CodeAtlas.Graph

/-!
JSON values.

Whole numbers without a sign are kept apart from other numbers, since sizes and counts are written in no other way.
The fields of an object keep their order.
-/
namespace CodeAtlas

/-- A JSON value. -/
inductive Json where
  | null
  | bool (b : Bool)
  /-- A whole number without a sign. -/
  | nat (n : Nat)
  /-- Any other number. -/
  | float (x : Float)
  | str (s : String)
  | arr (items : List Json)
  | obj (fields : List (String × Json))
deriving Inhabited

namespace Json

/-- The field of an object; of fields with the same name the last counts. -/
def field? (name : String) : Json → Option Json
  | .obj fields => fields.reverse.lookup name
  | _ => none

/-- A list of texts. -/
def strings (items : List String) : Json :=
  .arr (items.map .str)

/-- A value that may be missing. -/
def ofOption {α : Type} (encode : α → Json) : Option α → Json
  | none => .null
  | some a => encode a

end Json
end CodeAtlas

import CodeAtlas.Json.Basic

/-!
Reading values of other types out of JSON values.

A record is written as an object or as the array of its fields. Fields that a record does not know are passed over.
-/
namespace CodeAtlas.Json

/-- Why a JSON value could not be read. -/
inductive DecodeError where
  /-- It does not have the right form. -/
  | malformed
  /-- A relationship is of a kind that does not exist. -/
  | unknownRelationship (kind : String)
deriving DecidableEq, Repr

/-- The wording of an error, where it has one. -/
def DecodeError.message? : DecodeError → Option String
  | .malformed => none
  | .unknownRelationship kind => some ("unknown relationship kind: " ++ kind)

/-- The result of reading a value. -/
abbrev Decoded (α : Type) := Except DecodeError α

/-- A text. -/
def toText : Json → Decoded String
  | .str s => .ok s
  | _ => .error .malformed

/-- A whole number of at most 64 bits. -/
def toNat : Json → Decoded Nat
  | .nat n => if n < UInt64.size then .ok n else .error .malformed
  | _ => .error .malformed

/-- Any number. -/
def toFloat : Json → Decoded Float
  | .nat n => .ok n.toFloat
  | .float x => .ok x
  | _ => .error .malformed

/-- A word out of a fixed list, also written as an object whose one field has no value. -/
def toWord {α : Type} (ofName? : String → Option α) (j : Json) : Decoded α :=
  let name? := match j with
    | .str s => some s
    | .obj [(name, .null)] => some name
    | _ => none
  match name?.bind ofName? with
  | some a => .ok a
  | none => .error .malformed

/-- A list. -/
def toList {α : Type} (decode : Json → Decoded α) : Json → Decoded (List α)
  | .arr items => items.mapM decode
  | _ => .error .malformed

/-- A value that may be missing. -/
def toOption {α : Type} (decode : Json → Decoded α) : Json → Decoded (Option α)
  | .null => .ok none
  | j => (decode j).map some

/-- The fields of an object with their values. -/
def toPairs {α : Type} (decode : Json → Decoded α) : Json → Decoded (List (String × α))
  | .obj fields => fields.mapM fun (name, j) => (decode j).map (name, ·)
  | _ => .error .malformed

/-! ### Records -/

/-- The fields of a record in the order of `names`, as far as they are there. In an array all fields have to be there
except the last ones, of which the given number have a default. -/
def toFields (names : List String) (defaults : Nat) : Json → Decoded (String → Option Json)
  | .obj fields => .ok fun name => (Json.obj fields).field? name
  | .arr items =>
    if names.length ≤ items.length + defaults ∧ items.length ≤ names.length then
      .ok fun name => (names.zip items).lookup name
    else .error .malformed
  | _ => .error .malformed

/-- The value of a field, if it is there. -/
def present {α : Type} (field : Option Json) (decode : Json → Decoded α) : Decoded (Option α) :=
  match field with
  | none => .ok none
  | some j => (decode j).map some

/-- A field that has to be there. -/
def required {α : Type} (field : Option Json) (decode : Json → Decoded α) : Decoded α :=
  match field with
  | none => .error .malformed
  | some j => decode j

/-- A field that may be missing or have no value. -/
def optional {α : Type} (field : Option Json) (decode : Json → Decoded α) : Decoded (Option α) :=
  match field with
  | none => .ok none
  | some j => toOption decode j

/-- A value that has to be there. -/
def need {α : Type} : Option α → Decoded α
  | none => .error .malformed
  | some a => .ok a

end CodeAtlas.Json

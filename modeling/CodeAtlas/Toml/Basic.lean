/-!
TOML values and the tables of a document.

A table can be begun in several ways, and how it was begun decides who may add to it later: a header completes a table
that only longer headers have implied, and a dotted key goes on with a table that dotted keys have begun.
-/
namespace CodeAtlas

namespace Toml

/-- How a table was begun. -/
inductive Origin where
  /-- By a header of its own. -/
  | header
  /-- By a header of a table inside it. -/
  | implied
  /-- By a dotted key. -/
  | dotted
  /-- Between braces. -/
  | inline
deriving DecidableEq, Repr

end Toml

/-- A TOML value. Numbers that are not whole and dates are kept as they are written. -/
inductive Toml where
  | string (s : String)
  | integer (n : Int)
  | float (written : String)
  | boolean (b : Bool)
  | date (written : String)
  | array (items : List Toml)
  | table (origin : Toml.Origin) (entries : List (String × Toml))
  /-- The tables that headers with two brackets have begun, in order. -/
  | tables (all : List (List (String × Toml)))
deriving Inhabited

namespace Toml

/-- The entries of a table. -/
abbrev Entries := List (String × Toml)

/-- Puts a value under a key, in place of what was there. -/
def Entries.put (key : String) (v : Toml) : Entries → Entries
  | [] => [(key, v)]
  | (k, w) :: rest => if k == key then (key, v) :: rest else (k, w) :: Entries.put key v rest

/-- An entry with the tables that its key leads through. -/
structure Entry where
  path : List String
  key : String
  value : Toml

/-- Adds an entry. It leads only through tables that dotted keys have begun, or through implied ones on the way to
such a table; nothing is ever replaced. -/
def Entries.add (path : List String) (key : String) (v : Toml) (es : Entries) : Option Entries :=
  match path with
  | [] => if (es.lookup key).isSome then none else some (es ++ [(key, v)])
  | k :: rest =>
    match es.lookup k with
    | none => (Entries.add rest key v []).map fun inner => es ++ [(k, .table .dotted inner)]
    | some (.table origin inner) =>
      if origin == .dotted || (origin == .implied && !rest.isEmpty) then
        (Entries.add rest key v inner).map fun inner => es.put k (.table origin inner)
      else none
    | some (.tables all) =>
      if rest.isEmpty then none
      else
        match all.getLast? with
        | none => none
        | some inner =>
          (Entries.add rest key v inner).map fun inner => es.put k (.tables (all.dropLast ++ [inner]))
    | some _ => none

/-- Adds entries one after the other. -/
def Entries.addAll (es : Entries) : List Entry → Option Entries
  | [] => some es
  | e :: rest => (es.add e.path e.key e.value).bind (Entries.addAll · rest)

/-- Changes what stands at the end of the path of a header. Tables on the way are implied where they are missing; of
several tables with one name the last is meant. -/
def Entries.change (f : Option Toml → Option Toml) (path : List String) (es : Entries) : Option Entries :=
  match path with
  | [] => some es
  | [k] => (f (es.lookup k)).map (es.put k)
  | k :: rest =>
    match es.lookup k with
    | none => (Entries.change f rest []).map fun inner => es.put k (.table .implied inner)
    | some (.table .inline _) => none
    | some (.table origin inner) =>
      (Entries.change f rest inner).map fun inner => es.put k (.table origin inner)
    | some (.tables all) =>
      match all.getLast? with
      | none => none
      | some inner =>
        (Entries.change f rest inner).map fun inner => es.put k (.tables (all.dropLast ++ [inner]))
    | some _ => none

/-- A part of a document: what follows a header. -/
structure Section where
  /-- The tables and the name in the header; nothing before the first header. -/
  path : List String
  /-- Whether the header begins one more table of the same name. -/
  repeated : Bool
  entries : List Entry

/-- The table of a header, with the entries below it. -/
def Section.define (s : Section) (old : Option Toml) : Option Toml :=
  if s.repeated then
    match old with
    | none => (Entries.addAll [] s.entries).map fun es => .tables [es]
    | some (.tables all) => (Entries.addAll [] s.entries).map fun es => .tables (all ++ [es])
    | some _ => none
  else
    match old with
    | none => (Entries.addAll [] s.entries).map (.table .header)
    | some (.table .implied inner) => (Entries.addAll inner s.entries).map (.table .header)
    | some _ => none

/-- Adds a part of a document. -/
def Entries.addSection (es : Entries) (s : Section) : Option Entries :=
  if s.path.isEmpty then es.addAll s.entries else es.change s.define s.path

/-- The table of a document. -/
def ofSections (sections : List Section) : Option Entries :=
  sections.foldlM Entries.addSection []

end Toml
end CodeAtlas

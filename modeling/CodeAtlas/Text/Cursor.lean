/-!
Places in a text, and reading it from a place.

A place counts bytes of the UTF-8 form: its offset from the beginning, its row, and its column within
the row. Rows end at line feeds only.
-/
namespace CodeAtlas.Text

/-- A place in a text. -/
structure Place where
  offset : Nat
  row : Nat
  column : Nat
deriving BEq, DecidableEq, Repr, Inhabited

namespace Place

/-- The beginning of a text. -/
def zero : Place := ⟨0, 0, 0⟩

/-- The place after the character `c`. -/
def advance (p : Place) (c : Char) : Place :=
  if c = '\n' then ⟨p.offset + 1, p.row + 1, 0⟩
  else ⟨p.offset + c.utf8Size, p.row, p.column + c.utf8Size⟩

/-- The place after the characters `cs`. -/
def advanceAll (p : Place) (cs : List Char) : Place :=
  cs.foldl advance p

end Place

/-- A stretch of a text: from `start` up to `stop`. -/
structure Span where
  start : Place
  stop : Place
deriving BEq, DecidableEq, Repr, Inhabited

/-- A text being read: what is left of it, and where that begins. -/
structure Cursor where
  rest : List Char
  place : Place
deriving Inhabited

namespace Cursor

/-- A text before anything of it is read. -/
def ofString (text : String) : Cursor :=
  ⟨text.toList, .zero⟩

/-- The next character. -/
def peek? (c : Cursor) : Option Char :=
  c.rest.head?

/-- The next character, or the null character at the end. -/
def peek (c : Cursor) : Char :=
  c.rest.headD '\x00'

/-- Whether everything is read. -/
def atEnd (c : Cursor) : Bool :=
  c.rest.isEmpty

/-- Reads one character; at the end nothing happens. -/
def next (c : Cursor) : Cursor :=
  match c.rest with
  | [] => c
  | x :: rest => ⟨rest, c.place.advance x⟩

/-- Reads characters as long as they satisfy `p`. -/
def skipWhile (p : Char → Bool) (c : Cursor) : Cursor :=
  go c.rest c.place
where
  /-- The loop, on the characters that are left. -/
  go : List Char → Place → Cursor
    | [], place => ⟨[], place⟩
    | x :: rest, place => if p x then go rest (place.advance x) else ⟨x :: rest, place⟩

end Cursor
end CodeAtlas.Text

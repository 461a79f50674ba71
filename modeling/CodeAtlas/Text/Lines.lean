/-!
Lines of a text.

A line ends with a line feed, which a carriage return may precede; neither belongs to the line. What follows the
last line feed is a line of its own unless it is empty.
-/
namespace CodeAtlas.Text

/-- A line without the carriage return at its end. -/
def dropReturn (line : List Char) : List Char :=
  if line.getLast? = some '\r' then line.dropLast else line

/-- The lines of the rest of a text, where `line` holds, in reverse, what is read of the present line. -/
def linesFrom (line : List Char) : List Char → List (List Char)
  | [] => if line.isEmpty then [] else [line.reverse]
  | c :: rest =>
    if c = '\n' then dropReturn line.reverse :: linesFrom [] rest
    else linesFrom (c :: line) rest

/-- The lines of a text. -/
def lines (text : List Char) : List (List Char) :=
  linesFrom [] text

end CodeAtlas.Text

import CodeAtlas.Grammar.Lexer

/-!
Tokens of Python that depend on layout and on open strings.

Line ends, and growing and shrinking indentation, are tokens of width zero at the end of the line before. The
scanner keeps the indentations of the open blocks, innermost first, and the delimiters of the open strings.
-/
namespace CodeAtlas.Language.Python

open CodeAtlas.Text
open CodeAtlas.Grammar

/-- How a string was opened. -/
structure Delimiter where
  quote : Char
  triple : Bool
  raw : Bool
  bytes : Bool
  format : Bool
deriving BEq, Inhabited

/-- What the scanner remembers. -/
structure Layout where
  indents : List Nat
  delimiters : List Delimiter
  inFormat : Bool
deriving BEq, Inhabited

namespace Layout

/-! ### The external tokens, in the order of the grammar -/

/-- The end of a logical line. -/
def newline : Nat := 0
/-- Deeper indentation. -/
def indent : Nat := 1
/-- The end of a block. -/
def dedent : Nat := 2
/-- The opening quote of a string. -/
def stringStart : Nat := 3
/-- Plain text of a string. -/
def stringContent : Nat := 4
/-- A doubled brace in a formatted string. -/
def escapedBrace : Nat := 5
/-- The closing quote of a string. -/
def stringEnd : Nat := 6
/-- The closing brackets. -/
def closing : List Nat := [8, 9, 10]
/-- The keyword that continues a `try`. -/
def exceptWord : Nat := 11

/-- The outcome of looking for the text of a string. -/
inductive Content where
  /-- The text ended without a token. -/
  | exhausted
  /-- There is no token. -/
  | refused
  /-- Plain text up to a place. -/
  | text (stop : Cursor)
  /-- The closing quote. -/
  | closed (stop : Cursor)

/-- How far the escape after a backslash in a raw string has been read. -/
inductive RawEscape where
  | none
  | backslash
  | escaped
  | lineReturn
deriving BEq

/-- The next stage of an escape in a raw string, if the character belongs to it. -/
def RawEscape.next? (quote c : Char) : RawEscape → Option RawEscape
  | .none => Option.none
  | .backslash =>
    if c == quote || c == '\\' then some .escaped
    else if c == '\r' then some .lineReturn
    else if c == '\n' then some .none
    else Option.none
  | .escaped =>
    if c == '\r' then some .lineReturn else if c == '\n' then some .none else Option.none
  | .lineReturn => if c == '\n' then some .none else Option.none

/-- The text of a string opened by `d`; `begun` tells whether some of it is read already. -/
def content (d : Delimiter) : RawEscape → Bool → List Char → Place → Content
  | _, _, [], _ => .exhausted
  | escape, begun, c :: rest, p =>
    let here : Cursor := ⟨c :: rest, p⟩
    match escape.next? d.quote c with
    | some escape => content d escape begun rest (p.advance c)
    | none =>
      if c == '\x00' then .exhausted
      else if d.format && (c == '{' || c == '}') then (if begun then .text here else .refused)
      else if c == '\\' then
        if d.raw then content d .backslash begun rest (p.advance c)
        else if d.bytes then
          match rest with
          | x :: y :: more =>
            if x == 'N' || x == 'u' || x == 'U' then
              content d .none true more (((p.advance c).advance x).advance y)
            else if begun then .text here else .refused
          | _ => if begun then .text here else .refused
        else if begun then .text here else .refused
      else if c == d.quote then
        let one : Cursor := ⟨rest, p.advance c⟩
        if d.triple then
          if one.peek == d.quote then
            let two := one.next
            if two.peek == d.quote then (if begun then .text here else .closed two.next)
            else .text two
          else .text one
        else if begun then .text here else .closed one
      else if c == '\n' && begun && !d.triple then .refused
      else content d .none true rest (p.advance c)

/-- What separates two tokens: whether a line ended, the indentation after it, and that of the first comment. -/
structure Gap where
  lineEnded : Bool
  indent : Nat
  comment : Option Nat
  stop : Cursor

/-- Measures the gap before the next token. Comments are passed over only where layout tokens are wanted; one on
the line of the token before ends the search. -/
def gap (layoutWanted : Bool) : Bool → Bool → Nat → Option Nat → List Char → Place → Option Gap
  | _, _, _, comment, [], p => some ⟨true, 0, comment, ⟨[], p⟩⟩
  | true, ended, indent, comment, c :: rest, p =>
    gap layoutWanted (c != '\n' && c != '\x00') ended indent comment rest (p.advance c)
  | false, ended, indent, comment, '\\' :: '\r' :: '\n' :: rest, p =>
    gap layoutWanted false ended indent comment rest (((p.advance '\\').advance '\r').advance '\n')
  | false, ended, indent, comment, '\\' :: '\n' :: rest, p =>
    gap layoutWanted false ended indent comment rest ((p.advance '\\').advance '\n')
  | false, ended, indent, comment, c :: rest, p =>
    if c == '\n' then gap layoutWanted false true 0 comment rest (p.advance c)
    else if c == ' ' then gap layoutWanted false ended (indent + 1) comment rest (p.advance c)
    else if c == '\r' || c == '\x0c' then gap layoutWanted false ended 0 comment rest (p.advance c)
    else if c == '\t' then gap layoutWanted false ended (indent + 8) comment rest (p.advance c)
    else if c == '#' && layoutWanted then
      if ended then gap layoutWanted true ended 0 (some (comment.getD indent)) rest (p.advance c)
      else none
    else if c == '\\' then
      if rest.isEmpty || rest == ['\r'] then some ⟨true, 0, comment, ⟨[], p⟩⟩ else none
    else some ⟨ended, indent, comment, ⟨c :: rest, p⟩⟩

/-- The letters before a quote, put into a delimiter. -/
def stringFlags : Delimiter → List Char → Place → Delimiter × Cursor
  | d, [], p => (d, ⟨[], p⟩)
  | d, c :: rest, p =>
    if c == 'f' || c == 'F' then stringFlags { d with format := true } rest (p.advance c)
    else if c == 'r' || c == 'R' then stringFlags { d with raw := true } rest (p.advance c)
    else if c == 'b' || c == 'B' then stringFlags { d with bytes := true } rest (p.advance c)
    else if c == 'u' || c == 'U' then stringFlags d rest (p.advance c)
    else (d, ⟨c :: rest, p⟩)

/-- The opening of a string at a place. -/
def opening (c : Cursor) : Option (Delimiter × Cursor) :=
  let (d, c) := stringFlags ⟨'"', false, false, false, false⟩ c.rest c.place
  match c.rest with
  | q :: rest =>
    if q == '"' || q == '\'' then
      let d := { d with quote := q }
      match rest with
      | a :: b :: _ =>
        if a == q && b == q then some ({ d with triple := true }, c.next.next.next) else some (d, c.next)
      | _ => some (d, c.next)
    else if q == '\x60' then some ({ d with quote := q }, c.next)
    else none
  | [] => none

/-- Tokens between strings: ends of lines and blocks, and the opening of a string. -/
def scanOutside (s : Layout) (wanted : Nat → Bool) (c : Cursor) : Option (Scan Layout) :=
  let recovering := wanted stringContent && wanted indent
  let layoutWanted := wanted indent || wanted dedent || wanted newline || wanted exceptWord
  match gap layoutWanted false false 0 none c.rest c.place with
  | none => none
  | some g =>
    let current := s.indents.headD 0
    let next := g.stop.peek
    let stringNext := next == '"' || next == '\'' || next == '\x60'
    let mayClose := wanted dedent ||
      (!wanted newline && !(wanted stringStart && stringNext) && !closing.any wanted)
    -- Comments as deep as the block still belong to it.
    let commentsOutside := match g.comment with
      | some n => n < current
      | none => true
    if g.lineEnded && !s.indents.isEmpty && wanted indent && current < g.indent then
      some ⟨indent, c, c, { s with indents := g.indent :: s.indents }⟩
    else if g.lineEnded && !s.indents.isEmpty && mayClose && g.indent < current && !s.inFormat
        && commentsOutside then
      some ⟨dedent, c, c, { s with indents := s.indents.tail }⟩
    else if g.lineEnded && wanted newline && !recovering then some ⟨newline, c, c, s⟩
    else if g.comment.isNone && wanted stringStart then
      match opening g.stop with
      | some (d, stop) =>
        some ⟨stringStart, g.stop, stop,
          { s with delimiters := d :: s.delimiters, inFormat := d.format }⟩
      | none => none
    else none

/-- Looks for a layout or string token. -/
def scan (s : Layout) (wanted : Nat → Bool) (c : Cursor) : Option (Scan Layout) :=
  let recovering := wanted stringContent && wanted indent
  match s.delimiters with
  | [] => scanOutside s wanted c
  | d :: outer =>
    let brace := c.peek
    if wanted escapedBrace && (brace == '{' || brace == '}') && !recovering && d.format then
      if c.next.peek == brace then some ⟨escapedBrace, c, c.next.next, s⟩ else none
    else if wanted stringContent && !recovering then
      match content d .none false c.rest c.place with
      | .exhausted => scanOutside s wanted c
      | .refused => none
      | .text stop => some ⟨stringContent, c, stop, s⟩
      | .closed stop => some ⟨stringEnd, c, stop, { s with delimiters := outer, inFormat := false }⟩
    else scanOutside s wanted c

end Layout

/-- The scanner for layout and strings. -/
def scanner : Scanner Layout where
  initial := ⟨[0], [], false⟩
  scan := Layout.scan

end CodeAtlas.Language.Python

import CodeAtlas.Grammar.Lexer
import CodeAtlas.Text.Blank

/-!
Tokens of Rust that no regular expression describes: the text of strings, raw strings with their counted hashes,
decimal numbers that a method call may follow, and comments, which nest.
-/
namespace CodeAtlas.Language.Rust

open CodeAtlas.Text
open CodeAtlas.Grammar

/-! ### The external tokens, in the order of the grammar -/

/-- Plain text of a string. -/
def stringText : Nat := 0
/-- The opening of a raw string. -/
def rawStart : Nat := 1
/-- The text of a raw string. -/
def rawText : Nat := 2
/-- The closing of a raw string. -/
def rawEnd : Nat := 3
/-- A number with a fraction or an exponent. -/
def decimalNumber : Nat := 4
/-- A comment up to the end of the line. -/
def lineComment : Nat := 5
/-- A comment between delimiters. -/
def blockComment : Nat := 6

/-! ### Strings -/

/-- Plain text of a string: up to a quote or a backslash. -/
def plainText : Bool → List Char → Place → Option Cursor
  | _, [], _ => none
  | begun, c :: rest, p =>
    if c == '"' || c == '\\' then (if begun then some ⟨c :: rest, p⟩ else none)
    else plainText true rest (p.advance c)

/-- The opening of a raw string with the number of its hashes. -/
def openRaw (c : Cursor) : Option (Nat × Cursor) :=
  let c := if c.peek == 'b' || c.peek == 'c' then c.next else c
  if c.peek == 'r' then
    let hashes := c.next.rest.takeWhile (· == '#')
    let c := c.next.skipWhile (· == '#')
    if c.peek == '"' then some (hashes.length, c.next) else none
  else none

/-- Whether a text begins with a number of hashes. -/
def startsWithHashes : Nat → List Char → Bool
  | 0, _ => true
  | n + 1, c :: rest => c == '#' && startsWithHashes n rest
  | _ + 1, [] => false

/-- The text of a raw string: up to a quote that enough hashes follow. -/
def rawContent (hashes : Nat) : List Char → Place → Option Cursor
  | [], _ => none
  | c :: rest, p =>
    if c == '"' && startsWithHashes hashes rest then some ⟨c :: rest, p⟩
    else rawContent hashes rest (p.advance c)

/-- Passes over a number of characters. -/
def skip : Nat → Cursor → Cursor
  | 0, c => c
  | n + 1, c => skip n c.next

/-! ### Numbers -/

/-- A digit, or the mark that divides groups of digits. -/
def isDigitPart (c : Char) : Bool := c == '_' || c.isDigit

/-- The exponent of a number, with a suffix for its type. The flag tells whether a fraction was read. -/
def numberTail (fraction : Bool) (c : Cursor) : Option Cursor :=
  let suffixed (c : Cursor) : Cursor :=
    if c.peek == 'u' || c.peek == 'i' || c.peek == 'f' then
      let digits := c.next.skipWhile Char.isDigit
      if c.next.peek.isDigit then digits else c
    else c
  if c.peek == 'e' || c.peek == 'E' then
    let sign := c.next
    let digits := if sign.peek == '+' || sign.peek == '-' then sign.next else sign
    if isDigitPart digits.peek then some (suffixed (digits.skipWhile isDigitPart)) else some c
  else if fraction then some (suffixed c)
  else none

/-- A number with a fraction or an exponent. A point before a letter or a second point is not part of it. -/
def number (c : Cursor) : Option Cursor :=
  let c := c.skipWhile isDigitPart
  if c.peek == '.' then
    let after := c.next
    if after.peek.isAlpha || after.peek == '.' then none
    else numberTail true (after.skipWhile isDigitPart)
  else numberTail false c

/-! ### Comments -/

/-- How far a block comment has been read. -/
inductive BlockPart where
  | text
  /-- After a slash. -/
  | slash
  /-- After an asterisk. -/
  | star

/-- The end of a block comment with a number of open comments. -/
def blockEnd : BlockPart → Nat → List Char → Place → Option Cursor
  | _, 0, cs, p => some ⟨cs, p⟩
  | _, _ + 1, [], _ => none
  | part, depth + 1, c :: rest, p =>
    let p := p.advance c
    match part with
    | .slash => blockEnd .text (if c == '*' then depth + 2 else depth + 1) rest p
    | .star =>
      if c == '*' then blockEnd .star (depth + 1) rest p
      else blockEnd .text (if c == '/' then depth else depth + 1) rest p
    | .text =>
      blockEnd (if c == '/' then .slash else if c == '*' then .star else .text) (depth + 1) rest p

/-- The end of a line comment that begins with two slashes. Documentation takes in the end of the line. -/
def lineEnd (c : Cursor) : Cursor :=
  let body := c.next.next
  let lineStop := body.skipWhile (· != '\n')
  let documents := body.peek == '!' || (body.peek == '/' && body.next.peek != '/')
  if documents then lineStop.next else lineStop

/-- A comment at a place. -/
def comment? (c : Cursor) : Option (Nat × Cursor) :=
  match c.rest with
  | '/' :: '/' :: _ => some (lineComment, lineEnd c)
  | '/' :: '*' :: rest =>
    (blockEnd .text 1 rest (c.place.advance '/' |>.advance '*')).map fun stop => (blockComment, stop)
  | _ => none

/-! ### The scanner -/

/-- A token between strings. -/
def scanOutside (hashes : Nat) (wanted : Nat → Bool) (c : Cursor) : Option (Scan Nat) :=
  let c := c.skipWhile isBlank
  match comment? c with
  | some (token, stop) => some ⟨token, c, stop, hashes⟩
  | none =>
    let opened := if wanted rawStart then openRaw c else none
    match opened with
    | some (n, stop) => some ⟨rawStart, c, stop, n⟩
    | none =>
      if wanted decimalNumber && c.peek.isDigit then
        (number c).map fun stop => ⟨decimalNumber, c, stop, hashes⟩
      else none

/-- Looks for a string, a raw string, a number or a comment. -/
def scan (hashes : Nat) (wanted : Nat → Bool) (c : Cursor) : Option (Scan Nat) :=
  if wanted stringText && !wanted decimalNumber then
    (plainText false c.rest c.place).map fun stop => ⟨stringText, c, stop, hashes⟩
  else if wanted rawText then
    (rawContent hashes c.rest c.place).map fun stop => ⟨rawText, c, stop, hashes⟩
  else if wanted rawEnd && c.peek == '"' then
    some ⟨rawEnd, c, skip (hashes + 1) c, hashes⟩
  else scanOutside hashes wanted c

/-- The scanner; it remembers the hashes of the raw string opened last. -/
def scanner : Scanner Nat := ⟨0, scan⟩

end CodeAtlas.Language.Rust

import CodeAtlas.Grammar.Lexer

/-!
Tokens of JavaScript that depend on what surrounds them: semicolons that line ends imply, the text of templates and
of markup, the question mark of conditional expressions, and comments in the style of markup.
-/
namespace CodeAtlas.Language.JavaScript

open CodeAtlas.Text
open CodeAtlas.Grammar

/-! ### The external tokens, in the order of the grammar -/

/-- A semicolon that is not written. -/
def impliedSemicolon : Nat := 0
/-- Plain text of a template. -/
def templateText : Nat := 1
/-- The question mark of a conditional expression. -/
def questionMark : Nat := 2
/-- A comment in the style of markup. -/
def markupComment : Nat := 3
/-- The sign `||`, which tells that an operator may follow. -/
def orSign : Nat := 4
/-- An escape in a string, which tells that a string is open. -/
def escapeInString : Nat := 5
/-- The inside of a regular expression. -/
def regexInside : Nat := 6
/-- Plain text of markup. -/
def markupText : Nat := 7

/-- Whether a character ends a line. -/
def endsLine (c : Char) : Bool :=
  c == '\n' || c.toNat == 0x2028 || c.toNat == 0x2029

/-- White space between tokens, as far as it counts for implied semicolons. -/
def isSpace (c : Char) : Bool :=
  c == ' ' || (9 ≤ c.toNat && c.toNat ≤ 13)

/-- Plain text of a template: up to a backslash, a closing quote or a substitution. The place after the last
character that is certainly text is kept. -/
def template : Bool → List Char → Place → Option Cursor
  | _, [], _ => none
  | begun, '$' :: rest, p =>
    match rest with
    | '{' :: _ => if begun then some ⟨'$' :: rest, p⟩ else none
    | _ => template true rest (p.advance '$')
  | begun, c :: rest, p =>
    if c == '\x60' || c == '\\' then (if begun then some ⟨c :: rest, p⟩ else none)
    else if c == '\x00' then none
    else template true rest (p.advance c)

/-- How far a comment has been read. -/
inductive CommentPart where
  | outside
  /-- After a slash. -/
  | slash
  | line
  | block
  /-- After an asterisk in a block comment. -/
  | star
deriving BEq

/-- What follows spaces and comments, and whether there was a comment; nothing if a slash follows that begins no
comment. -/
def passComments : CommentPart → Bool → List Char → Option (Bool × List Char)
  | .slash, _, [] => none
  | _, commented, [] => some (commented, [])
  | .outside, commented, c :: rest =>
    if isSpace c then passComments .outside commented rest
    else if c == '/' then passComments .slash commented rest
    else some (commented, c :: rest)
  | .slash, commented, c :: rest =>
    if c == '/' then passComments .line true rest
    else if c == '*' then passComments .block commented rest
    else none
  | .line, commented, c :: rest =>
    if c == '\n' then passComments .outside commented rest
    else if endsLine c || c == '\x00' then some (commented, c :: rest)
    else passComments .line commented rest
  | .block, commented, c :: rest =>
    passComments (if c == '*' then .star else .block) commented rest
  | .star, commented, c :: rest =>
    if c == '/' then passComments .outside true rest
    else passComments (if c == '*' then .star else .block) commented rest

/-- Whether a word other than `in` and `instanceof` begins here, after an `i`. -/
def notRelation (rest : List Char) : Bool :=
  match rest with
  | 'n' :: rest =>
    if !(rest.headD ' ').isAlpha then false
    else if "stanceof".toList.isPrefixOf rest then ((rest.drop 8).headD ' ').isAlpha
    else true
  | _ => true

/-- Whether a semicolon is implied before what follows a line end. -/
def impliedBefore : List Char → Bool
  | '.' :: rest => (rest.headD ' ').isDigit
  | '+' :: rest => rest.head? == some '+'
  | '-' :: rest => rest.head? == some '-'
  | '!' :: rest => rest.head? != some '='
  | 'i' :: rest => notRelation rest
  | c :: _ =>
    !(['\x60', ',', ':', ';', '*', '%', '>', '<', '=', '[', '(', '?', '^', '|', '&', '/'].contains c)
  | [] => true

/-- The answer to whether a semicolon is implied: yes or no, whether a comment was passed over, and what is left
where the search ended. -/
structure Implied where
  answer : Bool
  commented : Bool
  rest : List Char

/-- The answer after a line end. -/
def impliedAfterLine (commented : Bool) (rest : List Char) : Implied :=
  match passComments .outside commented rest with
  | none => ⟨false, commented, []⟩
  | some (commented, rest) => ⟨impliedBefore rest, commented, rest⟩

/-- Where the search for an implied semicolon stands. -/
inductive Search where
  /-- Between spaces. -/
  | look
  /-- Behind a block comment. -/
  | behind
  /-- In or after a comment; a block comment has spanned lines or not. -/
  | comment (part : CommentPart) (spanned : Bool)

/-- Whether a semicolon is implied. `afterComment` tells whether the end of a comment may be enough. A comma or an
equals sign there always continues the line. -/
def implied (afterComment : Bool) : Search → Bool → List Char → Implied
  | .look, commented, [] => ⟨true, commented, []⟩
  | .behind, commented, [] => ⟨false, commented, []⟩
  | .comment .slash _, commented, [] => ⟨false, commented, []⟩
  | .comment _ _, commented, [] => ⟨afterComment, commented, []⟩
  | search, commented, c :: rest =>
    let enough (next : Option Char) : Bool := afterComment && next != some ',' && next != some '='
    let judged : Implied :=
      if c == '}' then ⟨true, commented, c :: rest⟩
      else if endsLine c then impliedAfterLine commented rest
      else if isSpace c then implied afterComment .look commented rest
      else ⟨false, commented, c :: rest⟩
    match search with
    | .look =>
      if c == '\x00' then ⟨true, commented, c :: rest⟩
      else if c == '/' then implied afterComment (.comment .slash false) commented rest
      else judged
    | .behind => judged
    | .comment .outside spanned =>
      if isSpace c then implied afterComment (.comment .outside spanned) commented rest
      else if c == '/' then implied afterComment (.comment .slash spanned) commented rest
      else if enough (some c) then ⟨true, commented, c :: rest⟩
      else judged
    | .comment .slash spanned =>
      if c == '/' then implied afterComment (.comment .line spanned) true rest
      else if c == '*' then implied afterComment (.comment .block spanned) commented rest
      else ⟨false, commented, []⟩
    | .comment .line spanned =>
      if c == '\n' then implied afterComment (.comment .outside spanned) commented rest
      else if endsLine c || c == '\x00' then
        (if enough (some c) then ⟨true, commented, c :: rest⟩ else judged)
      else implied afterComment (.comment .line spanned) commented rest
    | .comment .block spanned =>
      implied afterComment (.comment (if c == '*' then .star else .block) (spanned || endsLine c))
        commented rest
    | .comment .star spanned =>
      if c == '/' then
        if rest.head? == some '/' then implied afterComment (.comment .outside spanned) true rest
        else if spanned && enough rest.head? then ⟨true, true, rest⟩
        else implied afterComment .behind true rest
      else
        implied afterComment (.comment (if c == '*' then .star else .block) (spanned || endsLine c))
          commented rest

/-- The question mark of a conditional expression: neither doubled nor followed by a point, unless a digit follows
the point. -/
def question (c : Cursor) : Option (Scan Unit) :=
  let start := c.skipWhile isSpace
  match start.rest with
  | '?' :: '?' :: _ => none
  | '?' :: '.' :: d :: _ => if d.isDigit then some ⟨questionMark, start, start.next, ()⟩ else none
  | '?' :: '.' :: [] => none
  | '?' :: _ => some ⟨questionMark, start, start.next, ()⟩
  | _ => none

/-- A comment in the style of markup. -/
def markupCommentAt (c : Cursor) : Option (Scan Unit) :=
  let start := c.skipWhile fun x => isSpace x || endsLine x
  let toEnd (c : Cursor) : Option (Scan Unit) :=
    some ⟨markupComment, start, c.skipWhile fun x => x != '\x00' && !endsLine x, ()⟩
  match start.rest with
  | '<' :: '!' :: '-' :: '-' :: _ => toEnd start.next.next.next.next
  | '-' :: '-' :: '>' :: _ => toEnd start.next.next.next
  | _ => none

/-- Plain text of markup, with whether any of it is more than the white space around line ends. -/
def markupTextEnd : Bool → Bool → List Char → Place → Bool × Cursor
  | seen, _, [], p => (seen, ⟨[], p⟩)
  | seen, atLineEnd, c :: rest, p =>
    if c == '\x00' || c == '<' || c == '>' || c == '{' || c == '}' || c == '&' then (seen, ⟨c :: rest, p⟩)
    else if c == '\n' then markupTextEnd seen true rest (p.advance c)
    else
      let atLineEnd := atLineEnd && isSpace c
      markupTextEnd (seen || !atLineEnd) atLineEnd rest (p.advance c)

/-- Looks for a token that depends on its surroundings. -/
def scan (_ : Unit) (wanted : Nat → Bool) (c : Cursor) : Option (Scan Unit) :=
  if wanted templateText then
    if wanted impliedSemicolon then none
    else (template false c.rest c.place).map fun stop => ⟨templateText, c, stop, ()⟩
  else
    let (seen, stop) := if wanted markupText then markupTextEnd false false c.rest c.place else (false, c)
    if seen then some ⟨markupText, c, stop, ()⟩
    else
      -- A search for markup text that fails has still read what it passed over.
      let c := stop
      if wanted impliedSemicolon then
        let found := if c.place.offset == 0 then ⟨true, false, c.rest⟩
          else implied (!wanted orSign) .look false c.rest
        if found.answer then some ⟨impliedSemicolon, c, c, ()⟩
        else if !found.commented && wanted questionMark && found.rest.head? == some '?' then question c
        else none
      else if wanted questionMark then question c
      else if wanted markupComment && !wanted orSign && !wanted escapeInString && !wanted regexInside then
        markupCommentAt c
      else none

/-- The scanner for these tokens; it remembers nothing. -/
def scanner : Scanner Unit where
  initial := ()
  scan := scan

end CodeAtlas.Language.JavaScript

import CodeAtlas.Text.Blank
import CodeAtlas.Text.Identifier
import CodeAtlas.Text.Word

/-!
Regular expressions over characters.

One type serves two readings. Tokens of a grammar read an expression as a set of words and want the
longest one (`Regex.step`, `Regex.nullable`); line patterns read it as an ordered list of choices and
want the first one that succeeds, with its named groups (`CodeAtlas.Regex.Search`).
-/
namespace CodeAtlas

/-- A set of characters. -/
inductive CharSet where
  /-- No character. -/
  | nothing
  /-- The characters from `lo` to `hi`, both included. -/
  | range (lo hi : Char)
  /-- Letters, marks, digits, connectors and joiners. -/
  | word
  /-- White space. -/
  | blank
  /-- Decimal digits of any script. -/
  | decimal
  /-- Characters that may begin an identifier. -/
  | identifierStart
  /-- Characters that may stand inside an identifier. -/
  | identifierPart
  | union (a b : CharSet)
  | compl (a : CharSet)
  /-- The characters of `a` and those that differ from them only in case. -/
  | eitherCase (a : CharSet)
deriving BEq, Repr, Inhabited

namespace CharSet

/-- The one-character set. -/
def single (c : Char) : CharSet := .range c c

/-- The characters that a case-insensitive comparison identifies with `c`. Beside the two cases of an
ASCII letter these are the long s and the Kelvin sign. -/
def caseVariants (c : Char) : List Char :=
  if c == 's' || c == 'S' || c == '\u017f' then ['s', 'S', '\u017f']
  else if c == 'k' || c == 'K' || c == '\u212a' then ['k', 'K', '\u212a']
  else [c.toLower, c.toUpper]

/-- Membership. -/
def mem : CharSet → Char → Bool
  | .nothing, _ => false
  | .range lo hi, c => lo.val ≤ c.val && c.val ≤ hi.val
  | .word, c => Text.isWord c
  | .blank, c => Text.isBlank c
  | .decimal, c => Text.isDecimal c
  | .identifierStart, c => Text.isIdentifierStart c
  | .identifierPart, c => Text.isIdentifierPart c
  | .union a b, c => a.mem c || b.mem c
  | .compl a, c => !a.mem c
  | .eitherCase a, c => (caseVariants c).any a.mem

/-- The union of a list of sets. -/
def ofList (sets : List CharSet) : CharSet :=
  sets.foldl (fun acc s => if acc == .nothing then s else .union acc s) .nothing

end CharSet

/-- A regular expression. -/
inductive Regex where
  /-- No word at all. -/
  | never
  /-- The empty word. -/
  | empty
  /-- One character of the set. -/
  | chars (set : CharSet)
  | seq (a b : Regex)
  /-- `a`, or else `b`. -/
  | alt (a b : Regex)
  /-- Any number of `a`: as many as possible, or as few when `lazy`. -/
  | star (a : Regex) (lazy : Bool)
  /-- `a`, remembered under a name. -/
  | group (name : String) (a : Regex)
  /-- The beginning of a line. -/
  | lineStart
  /-- The end of a line. -/
  | lineEnd
  /-- The beginning of the text. -/
  | textStart
  /-- The end of the text. -/
  | textEnd
  /-- A place with a word character on exactly one side. -/
  | wordBoundary
deriving BEq, Repr, Inhabited

namespace Regex

/-- A fixed character. -/
def char (c : Char) : Regex := .chars (.single c)

/-- Concatenation that drops trivial parts. -/
def cat : Regex → Regex → Regex
  | .never, _ => .never
  | _, .never => .never
  | .empty, b => b
  | a, .empty => a
  | a, b => .seq a b

/-- Whether `b` is one of the alternatives of `a`. -/
def hasAlternative (a b : Regex) : Bool :=
  a == b || match a with
    | .alt x y => x.hasAlternative b || y.hasAlternative b
    | _ => false

/-- Choice that drops impossible and repeated alternatives. -/
def orElse (a b : Regex) : Regex :=
  match a, b with
  | .never, b => b
  | a, .never => a
  | a, b => if a.hasAlternative b then a else .alt a b

/-- A fixed word. -/
def literal (word : List Char) : Regex :=
  word.foldr (fun c r => cat (char c) r) .empty

/-- The concatenation of a list. -/
def concat (rs : List Regex) : Regex :=
  rs.foldr cat .empty

/-- The choice between the members of a list, the first preferred. -/
def oneOf : List Regex → Regex
  | [] => .never
  | [r] => r
  | r :: rs => .alt r (oneOf rs)

/-- `r` or nothing. -/
def optional (r : Regex) : Regex := .alt r .empty

/-- One or more times `r`. -/
def plus (r : Regex) : Regex := .seq r (.star r false)

/-- `n` times `r`. -/
def times (r : Regex) : Nat → Regex
  | 0 => .empty
  | n + 1 => cat r (times r n)

/-- At most `n` times `r`. -/
def atMost (r : Regex) : Nat → Regex
  | 0 => .empty
  | n + 1 => .alt (cat r (atMost r n)) .empty

/-! ### The set of words

Places (line ends and the like) stand for the empty word here: no token uses them.
-/

/-- Whether the empty word belongs to the expression. -/
def nullable : Regex → Bool
  | .never => false
  | .empty => true
  | .chars _ => false
  | .seq a b => a.nullable && b.nullable
  | .alt a b => a.nullable || b.nullable
  | .star _ _ => true
  | .group _ a => a.nullable
  | .lineStart | .lineEnd | .textStart | .textEnd | .wordBoundary => true

/-- What may follow the character `c`: the words `w` such that `c` followed by `w` belongs to the
expression. -/
def step (c : Char) : Regex → Regex
  | .never => .never
  | .empty => .never
  | .chars set => if set.mem c then .empty else .never
  | .seq a b =>
    let first := cat (a.step c) b
    if a.nullable then orElse first (b.step c) else first
  | .alt a b => orElse (a.step c) (b.step c)
  | .star a lazy => cat (a.step c) (.star a lazy)
  | .group _ a => a.step c
  | .lineStart | .lineEnd | .textStart | .textEnd | .wordBoundary => .never

/-- Whether the whole word belongs to the expression. -/
def accepts (r : Regex) (word : List Char) : Bool :=
  (word.foldl (fun r c => r.step c) r).nullable

end Regex
end CodeAtlas

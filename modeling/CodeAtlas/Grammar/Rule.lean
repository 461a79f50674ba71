import CodeAtlas.Regex.Reader

/-!
Grammars as data.

A grammar lists named rules. A rule says how a piece of text is built from tokens and from other rules;
besides, it may put parts into fields, show them under another name, and say how strongly it binds when
two readings compete.
-/
namespace CodeAtlas.Grammar

/-- How strongly a rule binds: not at all in particular, by a number, or by a name whose rank the grammar
gives. -/
inductive Strength where
  | none
  | level (n : Int)
  | rank (name : String)
deriving BEq, Repr, Inhabited

/-- Which way repeated application of a rule groups. -/
inductive Side where
  | left
  | right
deriving BEq, Repr, Inhabited

/-- A name under which a part is shown, and whether it counts as a named node. -/
structure Label where
  name : String
  named : Bool
deriving BEq, Repr, Inhabited

/-- The right side of a rule. -/
inductive Rule where
  /-- Nothing. -/
  | blank
  /-- A token with exactly this text. -/
  | text (s : String)
  /-- A token of this shape. -/
  | pattern (r : Regex)
  /-- What the rule or external token of that name derives. -/
  | ref (name : String)
  | seq (a b : Rule)
  | alt (a b : Rule)
  /-- One or more times `a`. -/
  | many (a : Rule)
  | field (name : String) (a : Rule)
  | shown (label : Label) (a : Rule)
  /-- `a` read as one token. -/
  | token (a : Rule)
  /-- `a` read as one token that follows the token before it without a gap. -/
  | immediate (a : Rule)
  | binding (s : Strength) (side : Option Side) (a : Rule)
  /-- `a` is preferred by the amount `n` when the whole text has several readings. -/
  | weight (n : Int) (a : Rule)
deriving BEq, Repr, Inhabited

/-- An entry of a ranking: a named strength, or all rules for a symbol. -/
inductive RankEntry where
  | rank (name : String)
  | symbol (name : String)
deriving BEq, Repr, Inhabited

/-- A grammar. -/
structure Spec where
  /-- The rules, the first one for whole texts. -/
  rules : List (String × Rule)
  /-- What may stand between any two tokens. -/
  extras : List Rule
  /-- Tokens that need a scanner of their own. -/
  externals : List Rule
  /-- Rules that leave no trace of their own: their uses are replaced by their right sides. -/
  inlined : List String
  /-- Rules whose nodes are not shown although their names are. -/
  categories : List String
  /-- The token that keywords are cases of. -/
  word : Option String
  /-- Rankings of strengths, strongest first. -/
  rankings : List (List RankEntry)
deriving Inhabited

/-! ### Notation for rules -/

instance : Coe String Rule := ⟨.text⟩

/-- The use of a rule by its name. -/
abbrev ref (name : String) : Rule := .ref name

/-- Parts in a row. -/
def seq : List Rule → Rule
  | [] => .blank
  | [r] => r
  | r :: rs => .seq r (seq rs)

/-- One of several parts. -/
def choice : List Rule → Rule
  | [] => .blank
  | [r] => r
  | r :: rs => .alt r (choice rs)

/-- A part or nothing. -/
def optional (r : Rule) : Rule := .alt r .blank

/-- One or more times a part. -/
def many1 (r : Rule) : Rule := .many r

/-- Any number of times a part. -/
def many (r : Rule) : Rule := .alt (.many r) .blank

/-- Parts with a separator between them, at least one. -/
def sepBy1 (sep r : Rule) : Rule := .seq r (many (.seq sep r))

/-- Parts with commas between them, at least one. -/
def commas1 (r : Rule) : Rule := sepBy1 "," r

/-- Parts with commas between them. -/
def commas (r : Rule) : Rule := optional (commas1 r)

/-- A part in a field. -/
def field (name : String) (r : Rule) : Rule := .field name r

/-- A part shown as a node of another name. -/
def shownAs (name : String) (r : Rule) : Rule := .shown ⟨name, true⟩ r

/-- A part shown as a sign. -/
def shownAsSign (name : String) (r : Rule) : Rule := .shown ⟨name, false⟩ r

/-- A left brace. -/
def openBrace : Rule := "\x7b"

/-- A right brace. -/
def closeBrace : Rule := "\x7d"

/-- A token of the shape that a regular expression describes. -/
def shape (regex : String) : Rule := .pattern (.ofString regex)

/-- A rule that binds at a level. -/
def prec (n : Int) (r : Rule) : Rule := .binding (.level n) none r

/-- A rule that binds at a level and groups to the left. -/
def precLeft (n : Int) (r : Rule) : Rule := .binding (.level n) (some .left) r

/-- A rule that binds at a level and groups to the right. -/
def precRight (n : Int) (r : Rule) : Rule := .binding (.level n) (some .right) r

/-- A rule that binds at a rank. -/
def ranked (name : String) (r : Rule) : Rule := .binding (.rank name) none r

/-- A rule that binds at a rank and groups to the left. -/
def rankedLeft (name : String) (r : Rule) : Rule := .binding (.rank name) (some .left) r

/-- A rule that binds at a rank and groups to the right. -/
def rankedRight (name : String) (r : Rule) : Rule := .binding (.rank name) (some .right) r

end CodeAtlas.Grammar

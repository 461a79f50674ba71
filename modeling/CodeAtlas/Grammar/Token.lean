import CodeAtlas.Grammar.Rule

/-!
Tokens of a grammar.

A token is a fixed text, a shape, or a rule that is read as one piece. When several tokens fit, the
stronger one wins over a longer one, then the longer, then the one that is more of a fixed text, then the
one the grammar uses first.
-/
namespace CodeAtlas.Grammar

/-- A token. -/
structure Token where
  /-- The name of its nodes. -/
  kind : String
  /-- Whether its nodes count as named. -/
  named : Bool
  /-- Whether it has nodes at all. -/
  visible : Bool
  shape : Regex
  /-- Whether no gap may stand before it. -/
  immediate : Bool
  strength : Int
  /-- How much of a fixed text it is. -/
  fixedness : Nat
  /-- The fixed text, if it is one. -/
  fixedText : Option String
deriving Inhabited

namespace Rule

/-- Whether the rule is a token by itself. -/
def isToken : Rule → Bool
  | .text _ | .pattern _ | .token _ | .immediate _ => true
  | _ => false

/-- A token that is only a text or a shape is the same with or without the mark of a token. -/
def plainToken : Rule → Rule
  | .token (.text s) => .text s
  | .token (.pattern r) => .pattern r
  | r => r

/-- The words of a rule that is read as one token; it must not refer to other rules. -/
def toRegex : Rule → Regex
  | .blank => .empty
  | .text s => .literal s.toList
  | .pattern r => r
  | .ref _ => .never
  | .seq a b => .cat a.toRegex b.toRegex
  | .alt a b => .alt a.toRegex b.toRegex
  | .many a => .plus a.toRegex
  | .field _ a | .shown _ a | .token a | .immediate a | .binding _ _ a | .weight _ a => a.toRegex

/-- The level a token is declared at. -/
def tokenStrength : Rule → Int
  | .token a | .immediate a => a.tokenStrength
  | .binding (.level n) _ _ => n
  | _ => 0

/-- Fixed texts count more than shapes, and tokens that allow no gap more than those that do. -/
def tokenFixedness : Rule → Nat
  | .text _ => 2
  | .token a | .binding _ _ a => a.tokenFixedness
  | .immediate a => a.tokenFixedness + 1
  | _ => 0

/-- The text of a token that is nothing else. -/
def fixedText? : Rule → Option String
  | .text s => some s
  | _ => none

/-- The text under which a token without a name is shown. -/
def signText? : Rule → Option String
  | .text s => some s
  | .token a | .immediate a | .binding _ _ a => a.signText?
  | _ => none

/-- The uses of tokens in a rule, in order. -/
def tokenUses : Rule → List Rule
  | .blank | .ref _ => []
  | .text s => [.text s]
  | .pattern r => [.pattern r]
  | .token a => [(Rule.token a).plainToken]
  | .immediate a => [.immediate a]
  | .seq a b | .alt a b => a.tokenUses ++ b.tokenUses
  | .many a | .field _ a | .shown _ a | .binding _ _ a | .weight _ a => a.tokenUses

/-- The contents of the repetitions in a rule, inner ones after outer ones. -/
def repeated : Rule → List Rule
  | .blank | .ref _ | .text _ | .pattern _ | .token _ | .immediate _ => []
  | .seq a b | .alt a b => a.repeated ++ b.repeated
  | .many a => a :: a.repeated
  | .field _ a | .shown _ a | .binding _ _ a | .weight _ a => a.repeated

end Rule

/-- The token of a rule, under the name of a rule or under its own text. -/
def Token.ofRule (name : Option String) (r : Rule) : Token where
  kind := name.getD (r.signText?.getD "")
  named := name.isSome
  visible := match name with
    | some n => !n.startsWith "_"
    | none => r.signText?.isSome
  shape := r.toRegex
  immediate := match r with
    | .immediate _ => true
    | _ => false
  strength := r.tokenStrength
  fixedness := r.tokenFixedness
  fixedText := r.fixedText?

end CodeAtlas.Grammar

import CodeAtlas.Grammar.Production
import Std.Data.HashMap

/-!
A grammar with everything numbered.

Symbols are tokens first, then the things that rules build; the last token is the end of the text. A dot is a
production with a marked place in it; the dots of one production are numbered in a row. For each symbol the
table knows with which tokens it can begin, and for each built symbol which productions can begin it, at any
depth, and what can follow them.
-/
namespace CodeAtlas.Grammar

/-- A set of tokens, as the number whose binary digits tell the members. -/
abbrev TokenSet := Nat

namespace TokenSet

/-- The one-element set. -/
def single (t : Nat) : TokenSet := (1 : Nat) <<< t

/-- Membership. -/
def has (s : TokenSet) (t : Nat) : Bool := Nat.testBit s t

/-- Union. -/
def union (a b : TokenSet) : TokenSet := a ||| b

/-- Intersection. -/
def inter (a b : TokenSet) : TokenSet := a &&& b

/-- The set of the members of a list. -/
def ofList (ts : List Nat) : TokenSet := ts.foldl (fun s t => union s (single t)) 0

end TokenSet

/-- What is known of a symbol apart from how it is built. -/
structure Symbol where
  kind : String
  named : Bool
  visible : Bool
  /-- Whether it stands for a repetition inside a rule. -/
  repetition : Bool
deriving Inhabited

/-- A production with a marked place. -/
structure Dot where
  production : Nat
  index : Nat
  /-- The symbol after the place. -/
  next : Option Nat
  /-- The symbol after that. -/
  following : Option Nat
deriving Inhabited

/-- A production that can begin a symbol: its dot after the first step, the tokens that can follow it
because of what stands around it, and whether what follows the symbol can follow it too. -/
structure Start where
  dot : Nat
  tokens : TokenSet
  propagates : Bool
deriving Inhabited

/-- A grammar with everything numbered. -/
structure Table where
  tokens : Array Token
  symbols : Array Symbol
  productions : Array Production
  /-- The first dot of each production. -/
  bases : Array Nat
  dots : Array Dot
  /-- The tokens a symbol can begin with. -/
  first : Array TokenSet
  /-- The productions that can begin a symbol with a given first step, under the key of the two. -/
  starts : Std.HashMap Nat (Array Start)
  externals : Array Nat
  extras : TokenSet
  /-- What separates tokens without being one. -/
  separator : Regex
  word : Option Nat
  keywords : Std.HashMap String Nat
  keywordSet : TokenSet
  rankings : List (List RankEntry)
  /-- The tokens that can begin with an ASCII character. -/
  byCharacter : Array TokenSet
deriving Inhabited

namespace Table

/-- The number of tokens. -/
def tokenCount (t : Table) : Nat := t.tokens.size

/-- The token for the end of the text. -/
def endToken (t : Table) : Nat := t.tokens.size - 1

/-- The key of a symbol and a first step. -/
def startKey (t : Table) (symbol step : Nat) : Nat := symbol * t.symbols.size + step

/-! ### Numbering -/

/-- The rules that are tokens of their own: a single token that nothing else uses. -/
def isNamedToken (uses : List Rule) (isFirst : Bool) (r : Rule) : Bool :=
  !isFirst && r.isToken && uses.count r.plainToken == 1

/-- The members of a list in order of first occurrence. -/
def distinct (rs : List Rule) : Array Rule :=
  rs.foldl (fun acc r => if acc.contains r then acc else acc.push r) #[]

/-- Adds to each set what `more` gives it until nothing changes. -/
def closeFirst (productions : Array Production) : Nat → Array TokenSet → Array TokenSet
  | 0, first => first
  | fuel + 1, first =>
    let (next, changed) := productions.foldl (fun (first, changed) p =>
      match p.steps[0]? with
      | none => (first, changed)
      | some s =>
        let old := first.getD p.symbol 0
        let new := TokenSet.union old (first.getD s.symbol 0)
        if new == old then (first, changed) else (first.setIfInBounds p.symbol new, true)) (first, false)
    if changed then closeFirst productions fuel next else next

/-- What can follow a symbol that begins another one. -/
structure Follow where
  reached : Bool
  tokens : TokenSet
  propagates : Bool
deriving Inhabited

/-- Finds the symbols that can begin a symbol, with what can follow them. Each piece of work adds tokens, or
the permission to propagate, to what is known of one symbol; only news is passed on. -/
def closeFollow (productions : Array Production) (productionsOf : Array (List Nat))
    (first : Array TokenSet) : Nat → List (Nat × Follow) → Array Follow → Array Follow
  | 0, _, known => known
  | _, [], known => known
  | fuel + 1, (symbol, news) :: work, known =>
    let old := known.getD symbol default
    let new : Follow := ⟨true, TokenSet.union old.tokens news.tokens, old.propagates || news.propagates⟩
    if old.reached && new.tokens == old.tokens && new.propagates == old.propagates then
      closeFollow productions productionsOf first fuel work known
    else
      let work := (productionsOf.getD symbol []).foldl (fun work p =>
        let steps := (productions.getD p default).steps
        match steps[0]?, steps[1]? with
        | some a, some b =>
          if (productionsOf.getD a.symbol []).isEmpty then work
          else (a.symbol, ⟨true, first.getD b.symbol 0, false⟩) :: work
        | some a, none =>
          if (productionsOf.getD a.symbol []).isEmpty then work
          else (a.symbol, new) :: work
        | none, _ => work) work
      closeFollow productions productionsOf first fuel work (known.setIfInBounds symbol new)

/-- The table of a grammar. Names that nothing defines stand for a token that never occurs. -/
def ofSpec (spec : Spec) : Table := Id.run do
  let uses := (spec.rules.flatMap fun (_, r) => r.tokenUses)
    ++ spec.externals.flatMap Rule.tokenUses
  let tokenRules := distinct uses
  let firstName := (spec.rules.head?.map Prod.fst).getD ""
  -- Names of rules that are tokens, and of those that are built.
  let tokenNames := spec.rules.filter fun (n, r) => isNamedToken uses (n == firstName) r
  let builtRules := spec.rules.filter fun (n, r) =>
    !isNamedToken uses (n == firstName) r
  let tokenNumber (r : Rule) : Option Nat := tokenRules.findIdx? (· == r.plainToken)
  let ownTokens := tokenRules.map fun r =>
    Token.ofRule ((tokenNames.find? fun (_, q) => q.plainToken == r).map Prod.fst) r
  -- External tokens that no rule describes come next, then one that never occurs, then the end.
  let outside := spec.externals.filterMap fun
    | .ref n => if spec.rules.any (·.1 == n) then none else some n
    | _ => none
  let bare (kind : String) (visible : Bool) : Token := ⟨kind, true, visible, .never, false, 0, 0, none⟩
  let tokens := ownTokens ++ (outside.map fun n => bare n (!n.startsWith "_")).toArray
    ++ #[bare "" false, bare "" false]
  let tokenCount := tokens.size
  let unknown := tokenCount - 2
  let contents := distinct (builtRules.flatMap fun (_, r) => r.repeated)
  let mut numbers : Std.HashMap String Nat := ∅
  for (n, r) in tokenNames do
    numbers := numbers.insert n ((tokenNumber r).getD unknown)
  for (n, i) in outside.zipIdx do
    numbers := numbers.insert n (ownTokens.size + i)
  for ((n, _), i) in builtRules.zipIdx do
    numbers := numbers.insert n (tokenCount + i)
  let names := numbers
  let number (r : Rule) : Nat := match r with
    | .ref n => names.getD n unknown
    | r => (tokenNumber r).getD unknown
  let repetition (r : Rule) : Nat :=
    tokenCount + builtRules.length + (contents.findIdx? (· == r)).getD 0
  -- The alternatives of each built symbol, before and after inlining.
  let ruleAlternatives := builtRules.toArray.map fun (_, r) => r.expand number repetition .plain true
  let inlined : Std.HashMap Nat (List Alternative) := spec.inlined.foldl (fun acc n =>
    match names[n]? with
    | some s => if s < tokenCount then acc else acc.insert s (ruleAlternatives.getD (s - tokenCount) [])
    | none => acc) ∅
  let plainStep (s : Nat) : Step := ⟨s, .none, none, none, none⟩
  let repeatAlternatives := contents.map fun r =>
    let s := plainStep (repetition r)
    (⟨[s, s], 0⟩ : Alternative) :: r.expand number repetition .plain true
  let alternatives := ruleAlternatives ++ repeatAlternatives
  let mut productions : Array Production := #[]
  for (as, i) in alternatives.toList.zipIdx do
    let symbol := tokenCount + i
    if !inlined.contains symbol then
      let mut own : Array Production := #[]
      for a in as do
        for b in inlineAll (fun s => inlined[s]?) 64 a do
          let p : Production := ⟨symbol, b.steps.toArray, b.weight⟩
          if !own.contains p then own := own.push p
      productions := productions ++ own
  -- A last production makes the whole text out of the first rule.
  let symbolCount := tokenCount + alternatives.size
  productions := productions.push ⟨symbolCount, #[plainStep (names.getD firstName unknown)], 0⟩
  let hidden (n : String) : Bool := n.startsWith "_" || spec.categories.contains n
  let symbols := tokens.map (fun t => (⟨t.kind, t.named, t.visible, false⟩ : Symbol))
    ++ (builtRules.toArray.map fun (n, _) => ⟨n, true, !hidden n, false⟩)
    ++ (contents.map fun _ => ⟨"", false, false, true⟩)
    ++ #[⟨"", false, false, false⟩]
  let productionsOf := productions.foldl (fun (acc : Array (List Nat) × Nat) p =>
    (acc.1.modify p.symbol (acc.2 :: ·), acc.2 + 1)) (Array.replicate symbols.size [], 0) |>.1
  let bases := productions.foldl (fun (acc : Array Nat × Nat) p =>
    (acc.1.push acc.2, acc.2 + p.steps.size + 1)) (#[], 0) |>.1
  let dots := productions.toList.zipIdx.foldl (fun acc (p, i) =>
    (List.range (p.steps.size + 1)).foldl (fun acc k =>
      acc.push ⟨i, k, p.steps[k]?.map Step.symbol, p.steps[k + 1]?.map Step.symbol⟩) acc)
    (#[] : Array Dot)
  let first := closeFirst productions symbols.size
    (Array.ofFn fun (i : Fin symbols.size) => if i.val < tokenCount then TokenSet.single i.val else 0)
  let mut starts : Std.HashMap Nat (Array Start) := ∅
  for symbol in List.range symbols.size do
    if tokenCount ≤ symbol then
      let known := closeFollow productions productionsOf first 1000000 [(symbol, ⟨true, 0, true⟩)]
        (Array.replicate symbols.size ⟨false, 0, false⟩)
      for m in List.range symbols.size do
        let follow := known.getD m default
        if follow.reached then
          for p in (productionsOf.getD m []) do
            match (productions.getD p default).steps[0]? with
            | none => pure ()
            | some step =>
              let key := symbol * symbols.size + step.symbol
              let start : Start := ⟨bases.getD p 0 + 1, follow.tokens, follow.propagates⟩
              starts := starts.alter key fun old => some ((old.getD #[]).push start)
  -- Words of the grammar that have the shape of the word token are its keywords.
  let word := spec.word.bind (names[·]?)
  let keywords : Std.HashMap String Nat := match word with
    | none => ∅
    | some w =>
      let wordShape := (tokens.getD w default).shape
      tokens.toList.zipIdx.foldl (fun acc (t, i) =>
        match t.fixedText with
        | some s => if i != w && wordShape.accepts s.toList then acc.insert s i else acc
        | none => acc) ∅
  let keywordSet := TokenSet.ofList (keywords.toList.map Prod.snd)
  let extraTokens := spec.extras.filterMap fun
    | .ref n => names[n]?
    | _ => none
  let separator := Regex.oneOf (spec.extras.filterMap fun
    | .pattern r => some r
    | _ => none)
  let byCharacter := Array.ofFn fun (c : Fin 128) =>
    TokenSet.ofList ((List.range tokenCount).filter fun i =>
      !keywordSet.testBit i && ((tokens.getD i default).shape.step (Char.ofNat c.val)) != .never)
  return {
    tokens, symbols, productions, bases, dots, first, starts
    externals := (spec.externals.map number).toArray
    extras := TokenSet.ofList extraTokens
    separator, word, keywords, keywordSet
    rankings := spec.rankings
    byCharacter }

/-- The production that makes the whole text. -/
def wholeProduction (t : Table) : Nat := t.productions.size - 1

end Table
end CodeAtlas.Grammar

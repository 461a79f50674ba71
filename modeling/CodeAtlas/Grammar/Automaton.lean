import CodeAtlas.Grammar.Table

/-!
The automaton that reads a grammar from left to right.

A state is what has been read as seen from the rules: the dots that can be reached, each with the tokens that
can follow its production. There are many states, and one text visits few, so states are made when they are
first reached. `Automaton.goTo` and `Automaton.actions` return the automaton with what they found out.

Where a token could both continue a rule and end one, binding strengths decide (`Table.resolve`). What they leave
open stays open: the state then has several actions for the token.
-/
namespace CodeAtlas.Grammar

/-- A dot with the tokens that can follow its production. -/
structure Item where
  dot : Nat
  follow : TokenSet
deriving BEq, Hashable, Inhabited

/-- A state of the automaton. -/
structure State where
  items : Array Item
  /-- The tokens with which the text can go on. -/
  tokens : TokenSet
deriving Inhabited

/-- What to do on a token. -/
inductive Action where
  /-- Take the token and go to a state. -/
  | shift (state : Nat)
  /-- Build the symbol of a production out of what was read last. -/
  | reduce (production : Nat)
  /-- The whole text is read. -/
  | accept
deriving BEq, Repr, Inhabited

/-- The part of the automaton that is known. -/
structure Automaton where
  states : Array State
  numbers : Std.HashMap (Array Item) Nat
  gotos : Std.HashMap Nat (Option Nat)
  actions : Std.HashMap Nat (List Action)
deriving Inhabited

namespace Table

/-- The production of a dot. -/
def productionAt (t : Table) (dot : Nat) : Production :=
  t.productions.getD (t.dots.getD dot default).production default

/-- The step before a dot. -/
def stepBefore? (t : Table) (dot : Nat) : Option Step :=
  let d := t.dots.getD dot default
  if d.index = 0 then none else (t.productions.getD d.production default).steps[d.index - 1]?

/-- How strongly the rule of a dot binds there. -/
def strengthAt (t : Table) (dot : Nat) : Strength :=
  ((t.stepBefore? dot).map Step.strength).getD .none

/-- The side to which the rule of a dot groups there. -/
def sideAt (t : Table) (dot : Nat) : Option Side :=
  (t.stepBefore? dot).bind Step.side

/-- Whether a ranking entry speaks of a strength or of one of some symbols. -/
def entryMatches (t : Table) (entry : RankEntry) (s : Strength) (symbols : List Nat) : Bool :=
  match entry with
  | .rank n => match s with
    | .rank m => n == m
    | _ => false
  | .symbol n => symbols.any fun x => (t.symbols.getD x default).kind == n

/-- The order that one ranking gives to two bindings, if it speaks of both. -/
def compareIn (t : Table) (a : Strength) (as : List Nat) (b : Strength) (bs : List Nat) :
    Bool → Bool → List RankEntry → Option Ordering
  | _, _, [] => none
  | sawA, sawB, e :: rest =>
    if t.entryMatches e a as then
      if sawB then some .lt else t.compareIn a as b bs true sawB rest
    else if t.entryMatches e b bs then
      if sawA then some .gt else t.compareIn a as b bs sawA true rest
    else t.compareIn a as b bs sawA sawB rest

/-- Compares two bindings of rules for the given symbols. Levels compare as numbers, no particular strength
being zero; otherwise the first ranking that speaks of both decides. -/
def compareStrength (t : Table) (a : Strength) (as : List Nat) (b : Strength) (bs : List Nat) : Ordering :=
  let byRanking := (t.rankings.findSome? (t.compareIn a as b bs false false)).getD .eq
  match a, b with
  | .level x, .level y => if x != 0 || y != 0 then compare x y else byRanking
  | .level x, .none => if x != 0 then compare x 0 else byRanking
  | .none, .level y => if y != 0 then compare 0 y else byRanking
  | _, _ => byRanking

/-- The strongest of the productions that can end at a token. -/
structure Ending where
  productions : List Nat
  strength : Strength
  symbols : List Nat
  left : Bool
  right : Bool
  neither : Bool
deriving Inhabited

/-- No production ends. -/
def Ending.none : Ending := ⟨[], .none, [], false, false, false⟩

/-- Adds a production that ends. It replaces weaker ones and gives way to stronger ones. -/
def Ending.add (t : Table) (e : Ending) (dot : Nat) : Ending :=
  let d := t.dots.getD dot default
  let symbol := (t.productions.getD d.production default).symbol
  let strength := t.strengthAt dot
  let side := t.sideAt dot
  let order := if e.productions.isEmpty then Ordering.eq
    else t.compareStrength strength [symbol] e.strength e.symbols
  let joined (e : Ending) : Ending := {
    productions := e.productions ++ [d.production]
    strength := strength
    symbols := symbol :: e.symbols
    left := e.left || side == some .left
    right := e.right || side == some .right
    neither := e.neither || side.isNone }
  match order with
  | .gt => joined .none
  | .eq => joined e
  | .lt => e

/-- Decides at a token between going on and ending a production: whether to go on, and the productions that may
end. -/
def resolve (t : Table) (items : Array Item) (token : Nat) : Bool × List Nat :=
  let continues := items.filter fun i =>
    match (t.dots.getD i.dot default).next with
    | some s => TokenSet.has (t.first.getD s 0) token
    | none => false
  let ends := items.filter fun i =>
    (t.dots.getD i.dot default).next.isNone && TokenSet.has i.follow token
  let ending := ends.foldl (fun e i => Ending.add t e i.dot) .none
  if continues.isEmpty || ends.isEmpty then (!continues.isEmpty, ending.productions)
  else
    let going := continues.filter fun i => (t.dots.getD i.dot default).index > 0
    let symbolOf (i : Item) : Nat := (t.productionAt i.dot).symbol
    let rivals := (going ++ ends).map symbolOf
    let one := rivals.getD 0 0
    if (t.symbols.getD one default).repetition && rivals.all (· == one) then (false, ending.productions)
    else
      let orders := going.map fun i =>
        t.compareStrength (t.strengthAt i.dot) [symbolOf i] ending.strength ending.symbols
      let more := orders.any (· == .gt)
      let less := orders.any (· == .lt)
      if more && !less then (true, [])
      else if less && !more then (false, ending.productions)
      else if !more && !less then
        if ending.left && !ending.neither && !ending.right then (false, ending.productions)
        else if ending.right && !ending.neither && !ending.left then (true, [])
        else (true, ending.productions)
      else (true, ending.productions)

/-- Joins items with the same dot, in the order of the dots. -/
def joinItems (items : Array Item) : Array Item :=
  (items.qsort (fun a b => a.dot < b.dot)).foldl (fun acc i =>
    match acc.back? with
    | some last =>
      if last.dot == i.dot then acc.pop.push ⟨i.dot, TokenSet.union last.follow i.follow⟩ else acc.push i
    | none => acc.push i) #[]

/-- The items after a symbol is read. -/
def advanceItems (t : Table) (items : Array Item) (symbol : Nat) : Array Item :=
  joinItems <| items.foldl (fun acc i =>
    let d := t.dots.getD i.dot default
    match d.next with
    | none => acc
    | some s =>
      let acc := if s == symbol then acc.push ⟨i.dot + 1, i.follow⟩ else acc
      if s < t.tokenCount then acc
      else
        let after := match d.following with
          | some f => t.first.getD f 0
          | none => i.follow
        (t.starts.getD (t.startKey s symbol) #[]).foldl (fun acc start =>
          acc.push ⟨start.dot,
            if start.propagates then TokenSet.union start.tokens after else start.tokens⟩) acc) #[]

/-- The tokens with which the text can go on. -/
def tokensOf (t : Table) (items : Array Item) : TokenSet :=
  items.foldl (fun acc i =>
    match (t.dots.getD i.dot default).next with
    | some s => TokenSet.union acc (t.first.getD s 0)
    | none => TokenSet.union acc i.follow) t.extras

end Table

namespace Automaton

/-- The automaton with only its first state: the whole text is to be read, or is empty. -/
def start (t : Table) : Automaton :=
  let whole := t.wholeProduction
  let first := ((t.productions.getD whole default).steps[0]?.map Step.symbol).getD 0
  let follow := TokenSet.single t.endToken
  let blanks := (List.range t.productions.size).filter fun p =>
    let q := t.productions.getD p default
    q.symbol == first && q.steps.isEmpty
  let items := Table.joinItems
    ((whole :: blanks).map fun p => (⟨t.bases.getD p 0, follow⟩ : Item)).toArray
  ⟨#[⟨items, t.tokensOf items⟩], (∅ : Std.HashMap _ _).insert items 0, ∅, ∅⟩

/-- The number of the state with the given items. -/
def numberOf (a : Automaton) (t : Table) (items : Array Item) : Nat × Automaton :=
  match a.numbers[items]? with
  | some n => (n, a)
  | none =>
    let n := a.states.size
    (n, { a with
      states := a.states.push ⟨items, t.tokensOf items⟩
      numbers := a.numbers.insert items n })

/-- The state after a symbol is read in a state, if it can be. -/
def goTo (a : Automaton) (t : Table) (state symbol : Nat) : Option Nat × Automaton :=
  let key := state * (t.symbols.size + 1) + symbol
  match a.gotos[key]? with
  | some found => (found, a)
  | none =>
    let items := t.advanceItems (a.states.getD state default).items symbol
    if items.isEmpty then (none, { a with gotos := a.gotos.insert key none })
    else
      let (n, a) := a.numberOf t items
      (some n, { a with gotos := a.gotos.insert key (some n) })

/-- What to do in a state on a token. Going on comes first. -/
def actionsOn (a : Automaton) (t : Table) (state token : Nat) : List Action × Automaton :=
  let key := state * (t.symbols.size + 1) + token
  match a.actions[key]? with
  | some found => (found, a)
  | none =>
    let items := (a.states.getD state default).items
    let (goOn, endings) := t.resolve items token
    let reductions := endings.map fun p =>
      if p == t.wholeProduction then Action.accept else Action.reduce p
    let (found, a) := if goOn then
        match a.goTo t state token with
        | (some n, a) => (Action.shift n :: reductions, a)
        | (none, a) => (reductions, a)
      else (reductions, a)
    (found, { a with actions := a.actions.insert key found })

end Automaton
end CodeAtlas.Grammar

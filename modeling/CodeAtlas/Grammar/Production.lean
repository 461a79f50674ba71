import CodeAtlas.Grammar.Token

/-!
Productions: rules without choices.

`Rule.expand` turns the right side of a rule into the list of its alternatives, each a row of steps. A step
remembers the field and the name given to it, and how strongly the rule binds at that point.
-/
namespace CodeAtlas.Grammar

/-- One symbol on the right side of a production. Symbols are numbered. -/
structure Step where
  symbol : Nat
  strength : Strength
  side : Option Side
  label : Option Label
  field : Option String
deriving BEq, Inhabited

/-- One way to build a symbol. -/
structure Production where
  /-- The symbol that is built. -/
  symbol : Nat
  steps : Array Step
  /-- How much this way is preferred among readings of a whole text. -/
  weight : Int
deriving BEq, Inhabited

/-- An alternative under construction. -/
structure Alternative where
  steps : List Step
  weight : Int
deriving Inhabited

/-- What encloses a part of a rule. -/
structure Surroundings where
  strength : Strength
  side : Option Side
  label : Option Label
  field : Option String

/-- No particular surroundings. -/
def Surroundings.plain : Surroundings := ⟨.none, none, none, none⟩

/-- Of two weights the one that is further from zero, the first on a tie. -/
def fartherWeight (a b : Int) : Int :=
  if b.natAbs > a.natAbs then b else a

/-- Changes the last step of a row. -/
def updateLast (f : Step → Step) : List Step → List Step
  | [] => []
  | [s] => [f s]
  | s :: t :: rest => s :: updateLast f (t :: rest)

/-- The alternatives of a rule. `number` gives the symbols of names and tokens, `repetition` those of
repetitions. A binding holds up to the last step of the part it encloses; that step itself gets the
outer binding unless the part ends the rule (`atEnd`). -/
def Rule.expand (number : Rule → Nat) (repetition : Rule → Nat) :
    Surroundings → Bool → Rule → List Alternative
  | _, _, .blank => [⟨[], 0⟩]
  | around, _, .text s => [⟨[⟨number (.text s), around.strength, around.side, around.label, around.field⟩], 0⟩]
  | around, _, .pattern r =>
    [⟨[⟨number (.pattern r), around.strength, around.side, around.label, around.field⟩], 0⟩]
  | around, _, .token a =>
    [⟨[⟨number (Rule.token a).plainToken, around.strength, around.side, around.label, around.field⟩], 0⟩]
  | around, _, .immediate a =>
    [⟨[⟨number (.immediate a), around.strength, around.side, around.label, around.field⟩], 0⟩]
  | around, _, .ref n => [⟨[⟨number (.ref n), around.strength, around.side, around.label, around.field⟩], 0⟩]
  | around, _, .many a => [⟨[⟨repetition a, around.strength, around.side, around.label, around.field⟩], 0⟩]
  | around, atEnd, .seq a b =>
    let firsts := a.expand number repetition around false
    let seconds := b.expand number repetition around atEnd
    firsts.flatMap fun x => seconds.map fun y => ⟨x.steps ++ y.steps, fartherWeight x.weight y.weight⟩
  | around, atEnd, .alt a b =>
    a.expand number repetition around atEnd ++ b.expand number repetition around atEnd
  | around, atEnd, .field name a =>
    a.expand number repetition { around with field := some name } atEnd
  | around, atEnd, .shown label a =>
    a.expand number repetition { around with label := some label } atEnd
  | around, atEnd, .weight n a =>
    (a.expand number repetition around atEnd).map fun x => ⟨x.steps, fartherWeight n x.weight⟩
  | around, atEnd, .binding strength side a =>
    let inner := { around with
      strength := if strength == .none then around.strength else strength
      side := side <|> around.side }
    (a.expand number repetition inner atEnd).map fun x =>
      if atEnd then x else
        ⟨updateLast (fun s => { s with
            strength := if strength == .none then s.strength else around.strength
            side := if side.isNone then s.side else around.side }) x.steps, x.weight⟩

/-! ### Inlining -/

/-- Replaces the step `old` by the steps of an alternative of its symbol. Names and fields of the step go to
all that replace it, its binding to the last of them unless that has its own. -/
def inlineStep (old : Step) (steps : List Step) : List Step :=
  let named := steps.map fun s => { s with
    label := old.label <|> s.label
    field := old.field <|> s.field }
  updateLast (fun s => { s with
    strength := if s.strength == .none then old.strength else s.strength
    side := s.side <|> old.side }) named

/-- The alternatives that arise from one by replacing inlined symbols, leftmost first. `alternatives` gives
those of an inlined symbol and `none` for other symbols. -/
def inlineAll (alternatives : Nat → Option (List Alternative)) : Nat → Alternative → List Alternative
  | 0, a => [a]
  | fuel + 1, a =>
    let before := a.steps.takeWhile fun s => (alternatives s.symbol).isNone
    match a.steps.drop before.length with
    | [] => [a]
    | old :: after =>
      ((alternatives old.symbol).getD []).flatMap fun b =>
        inlineAll alternatives fuel
          ⟨before ++ inlineStep old b.steps ++ after, fartherWeight a.weight b.weight⟩

end CodeAtlas.Grammar

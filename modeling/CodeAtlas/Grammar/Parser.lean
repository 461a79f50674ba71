import CodeAtlas.Grammar.Automaton
import CodeAtlas.Grammar.Lexer
import CodeAtlas.Syntax.Node

/-!
Reading a text by a grammar.

A branch is one reading of the text so far: a stack of what was recognised, with the state of the automaton
above each part. Branches are read side by side, always one that is behind the others; where the automaton
leaves several actions open a branch splits, where it has none the branch is given up, and branches that agree
on what is to come are joined again, the weightier one surviving.

When every branch is stuck, a token may be missing: if putting one in lets the reading go on, it goes on, and the
result is marked as repaired.
-/
namespace CodeAtlas.Grammar

open CodeAtlas.Text
open CodeAtlas.Syntax

/-- A recognised part of the text with the state of the automaton after it. -/
structure Frame where
  state : Nat
  symbol : Nat
  /-- Whether it is a comment or the like, which no rule asks for. -/
  extra : Bool
  span : Span
  /-- The nodes below it, last one first. -/
  content : List Node
deriving Inhabited

/-- One reading of the text so far. -/
structure Branch (σ : Type) where
  stack : List Frame
  cursor : Cursor
  scanner : σ
  weight : Int

/-- The state on top of a stack. -/
def topState (stack : List Frame) : Nat :=
  (stack.head?.map Frame.state).getD 0

/-- The nodes of a recognised part, last one first: the part itself under its name or the given one, or only
what is below it if it has no name. -/
def Frame.nodes (t : Table) (f : Frame) (label : Option Label) : List Node :=
  match label with
  | some l => [.mk l.name l.named none f.span f.content.reverse]
  | none =>
    let s := t.symbols.getD f.symbol default
    if s.visible then [.mk s.kind s.named none f.span f.content.reverse] else f.content

/-- Takes `n` parts off a stack, with the extras between them; first one first. -/
def popFrames : Nat → List Frame → List Frame → Option (List Frame × List Frame)
  | 0, rest, taken => some (taken, rest)
  | _ + 1, [], _ => none
  | n + 1, f :: rest, taken =>
    if f.extra then popFrames (n + 1) rest (f :: taken) else popFrames n rest (f :: taken)

/-- The nodes below a part built by a production, last one first. -/
def Production.content (t : Table) (p : Production) (taken : List Frame) : List Node :=
  (taken.foldl (fun (acc : List Node × Nat) f =>
    if f.extra then (f.nodes t none ++ acc.1, acc.2)
    else
      let step := p.steps.getD acc.2 default
      let nodes := f.nodes t step.label
      let nodes := match step.field with
        | some name => nodes.map (Node.inField name)
        | none => nodes
      (if acc.1.isEmpty then nodes else nodes ++ acc.1, acc.2 + 1)) ([], 0)).1

/-- Builds the symbol of a production out of the parts on top of a stack. Extras above these stay above. -/
def reduceStack (t : Table) (a : Automaton) (production : Nat) (stack : List Frame) (here : Place) :
    Option (List Frame) × Automaton :=
  let p := t.productions.getD production default
  let above := stack.takeWhile Frame.extra
  match popFrames p.steps.size (stack.drop above.length) [] with
  | none => (none, a)
  | some (taken, rest) =>
    match a.goTo t (topState rest) p.symbol with
    | (none, a) => (none, a)
    | (some target, a) =>
      let span : Span := match taken.head?, taken.getLast? with
        | some f, some l => ⟨f.span.start, l.span.stop⟩
        | _, _ => ⟨here, here⟩
      let built : Frame := ⟨target, p.symbol, false, span, p.content t taken⟩
      let above := above.map fun f => { f with state := target }
      (some (above ++ built :: rest), a)

/-- A stack that waits to be acted on, with its next token. -/
structure Pending where
  stack : List Frame
  weight : Int
  token : Nat

/-- What came of the branches at one token. -/
structure Settled (σ : Type) where
  automaton : Automaton
  shifted : List (Branch σ)
  accepted : List Pending
  stuck : List Pending

/-- Acts on stacks until each has taken the token, accepted, or is stuck. A keyword that cannot be taken counts
as an ordinary word if that can be. -/
def settle {σ : Type} (t : Table) (lexeme : Lexeme σ) :
    Nat → List Pending → Settled σ → Settled σ
  | 0, _, s => s
  | _, [], s => s
  | fuel + 1, p :: pending, s =>
    let state := topState p.stack
    let span : Span := ⟨lexeme.start.place, lexeme.stop.place⟩
    let take (stack : List Frame) (frame : Frame) : Branch σ :=
      ⟨frame :: stack, lexeme.stop, lexeme.state, p.weight⟩
    match s.automaton.actionsOn t state p.token with
    | ([], a) =>
      let s := { s with automaton := a }
      if TokenSet.has t.extras p.token then
        settle t lexeme fuel pending
          { s with shifted := take p.stack ⟨state, p.token, true, span, []⟩ :: s.shifted }
      else if TokenSet.has t.keywordSet p.token then
        settle t lexeme fuel ({ p with token := t.word.getD p.token } :: pending) s
      else settle t lexeme fuel pending { s with stuck := p :: s.stuck }
    | (actions, a) =>
      let s := { s with automaton := a }
      let (pending, s) := actions.foldl (fun (pending, s) action =>
        match action with
        | .shift target =>
          (pending, { s with shifted := take p.stack ⟨target, p.token, false, span, []⟩ :: s.shifted })
        | .accept => (pending, { s with accepted := p :: s.accepted })
        | .reduce production =>
          let (stack, a) := reduceStack t s.automaton production p.stack lexeme.start.place
          let s := { s with automaton := a }
          match stack with
          | some stack =>
            ({ p with
              stack
              weight := p.weight + (t.productions.getD production default).weight } :: pending, s)
          | none => (pending, s)) (pending, s)
      settle t lexeme fuel pending s

/-! ### Branches -/

/-- Whether two stacks are in the same states. -/
def sameStates : List Frame → List Frame → Bool
  | [], [] => true
  | f :: fs, g :: gs => f.state == g.state && f.extra == g.extra && sameStates fs gs
  | _, _ => false

/-- Whether two branches agree on what is to come. -/
def Branch.agrees {σ : Type} [BEq σ] (a b : Branch σ) : Bool :=
  a.cursor.place.offset == b.cursor.place.offset && a.scanner == b.scanner && sameStates a.stack b.stack

/-- Adds a branch, joining it with one that agrees with it. -/
def addBranch {σ : Type} [BEq σ] (branches : List (Branch σ)) (b : Branch σ) : List (Branch σ) :=
  match branches with
  | [] => [b]
  | a :: rest =>
    if a.agrees b then (if a.weight < b.weight then b else a) :: rest else a :: addBranch rest b

/-- At most this many branches are kept. -/
def maxBranches : Nat := 24

/-- The state of reading a text. -/
structure Reading (σ : Type) where
  automaton : Automaton
  branches : List (Branch σ)
  repaired : Bool

/-- A syntax tree, and whether a missing token had to be put in to get it. -/
structure Parse where
  tree : Node
  repaired : Bool
deriving Inhabited

/-- The tree of a stack that holds a whole text: extras at either end belong to it. -/
def wholeTree (t : Table) (stack : List Frame) : Node :=
  let frames := stack.reverse
  let nodes := frames.flatMap fun f =>
    if f.extra then (f.nodes t none).reverse else f.content.reverse
  match frames.find? (!·.extra) with
  | some root =>
    let s := t.symbols.getD root.symbol default
    .mk s.kind s.named none root.span nodes
  | none => .mk "" true none default nodes

/-- Of the stacks that hold a whole text the weightiest. -/
def heaviest : List Pending → Option Pending
  | [] => none
  | p :: rest =>
    match heaviest rest with
    | some q => if p.weight < q.weight then some q else some p
    | none => some p

/-- Tries to put a missing token onto a stuck stack: one after which the token at hand lets a production end. -/
def insertMissing {σ : Type} (t : Table) (lexeme : Lexeme σ) (here : Place) (p : Pending) :
    List Nat → Automaton → Option (List Frame) × Automaton
  | [], a => (none, a)
  | token :: tokens, a =>
    match a.goTo t (topState p.stack) token with
    | (none, a) => insertMissing t lexeme here p tokens a
    | (some target, a) =>
      let (actions, a) := a.actionsOn t target p.token
      if actions.any fun | .reduce _ => true | _ => false then
        (some (⟨target, token, false, ⟨here, here⟩, []⟩ :: p.stack), a)
      else insertMissing t lexeme here p tokens a

/-- Reads one token in one branch. -/
def readToken {σ : Type} (t : Table) (scanner : Scanner σ) (fuel : Nat) (b : Branch σ)
    (a : Automaton) : Settled σ :=
  let wanted := (a.states.getD (topState b.stack) default).tokens
  match t.lexeme? scanner fuel wanted b.scanner b.cursor with
  | none => ⟨a, [], [], []⟩
  | some lexeme => settle t lexeme fuel [⟨b.stack, b.weight, lexeme.token⟩] ⟨a, [], [], []⟩

/-- Goes on after all branches got stuck at a token. -/
def repair {σ : Type} (t : Table) (scanner : Scanner σ) (fuel : Nat) (b : Branch σ) (a : Automaton) :
    Option (Settled σ) :=
  -- The token at hand is any keyword or sign of the grammar.
  let signs := (List.range t.tokenCount).foldl (fun set i =>
    if (t.tokens.getD i default).fixedText.isSome then TokenSet.union set (.single i) else set) 0
  match t.lexeme? ⟨scanner.initial, fun _ _ _ => none⟩ fuel signs b.scanner b.cursor with
  | none => none
  | some lexeme =>
    let p : Pending := ⟨b.stack, b.weight, lexeme.token⟩
    match insertMissing t lexeme b.cursor.place p (List.range t.tokenCount) a with
    | (none, _) => none
    | (some stack, a) =>
      let settled := settle t lexeme fuel [{ p with stack }] ⟨a, [], [], []⟩
      if settled.shifted.isEmpty && settled.accepted.isEmpty then none else some settled

/-- The branch that is furthest behind, and the others. -/
def takeHindmost {σ : Type} : List (Branch σ) → Option (Branch σ × List (Branch σ))
  | [] => none
  | b :: rest =>
    match takeHindmost rest with
    | none => some (b, [])
    | some (c, others) =>
      if c.cursor.place.offset < b.cursor.place.offset then some (c, b :: others) else some (b, rest)

/-- Reads on until a branch holds the whole text or none is left. At one token at most `limit` separators are
skipped and `limit` actions done. -/
def readOn {σ : Type} [BEq σ] (t : Table) (scanner : Scanner σ) (limit : Nat) :
    Nat → Reading σ → Option Parse
  | 0, _ => none
  | fuel + 1, r =>
    match takeHindmost r.branches with
    | none => none
    | some (b, others) =>
      let settled := readToken t scanner limit b r.automaton
      match heaviest settled.accepted with
      | some p => some ⟨wholeTree t p.stack, r.repaired⟩
      | none =>
        if settled.shifted.isEmpty && others.isEmpty then
          match repair t scanner limit b settled.automaton with
          | none => none
          | some s =>
            match heaviest s.accepted with
            | some p => some ⟨wholeTree t p.stack, true⟩
            | none =>
              readOn t scanner limit fuel ⟨s.automaton, s.shifted.reverse.foldl addBranch [], true⟩
        else
          let branches := (settled.shifted.reverse.foldl addBranch others).take maxBranches
          readOn t scanner limit fuel ⟨settled.automaton, branches, r.repaired⟩

/-- The start of a text; a mark of byte order before it is passed over. -/
def textStart (text : String) : Cursor :=
  let c := Cursor.ofString text
  if c.peek == Char.ofNat 0xfeff then c.next else c

/-- Reads a text. -/
def parse {σ : Type} [BEq σ] (t : Table) (scanner : Scanner σ) (text : String) : Option Parse :=
  let cursor := textStart text
  let first : Branch σ := ⟨[], cursor, scanner.initial, 0⟩
  let limit := 64 * (cursor.rest.length + 16)
  readOn t scanner limit limit ⟨.start t, [first], false⟩

end CodeAtlas.Grammar

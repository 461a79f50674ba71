import CodeAtlas.Grammar.Table
import CodeAtlas.Text.Cursor

/-!
Finding the next token.

Which tokens are looked for depends on where the parser stands. A grammar may bring a scanner for tokens that no
regular expression describes, such as changes of indentation; it is asked first and keeps a state of its own.
Otherwise the token is found by reading as far as some token still fits.
-/
namespace CodeAtlas.Grammar

open CodeAtlas.Text

/-- What a scanner found: the number of an external token, its extent, and the scanner's next state. -/
structure Scan (σ : Type) where
  external : Nat
  start : Cursor
  stop : Cursor
  state : σ

/-- A scanner for the external tokens of a grammar. -/
structure Scanner (σ : Type) where
  initial : σ
  /-- Looks for one of the external tokens that `wanted` admits. -/
  scan : σ → (Nat → Bool) → Cursor → Option (Scan σ)

/-- A scanner for grammars without external tokens. -/
def Scanner.none : Scanner Unit := ⟨(), fun _ _ _ => Option.none⟩

/-- A token in the text. -/
structure Lexeme (σ : Type) where
  token : Nat
  start : Cursor
  stop : Cursor
  state : σ

namespace Table

/-- Whether the token `a` wins over `b` when both end at the same place. -/
def prefers (t : Table) (a b : Nat) : Bool :=
  let x := t.tokens.getD a default
  let y := t.tokens.getD b default
  if x.strength != y.strength then y.strength < x.strength
  else if x.fixedness != y.fixedness then y.fixedness < x.fixedness
  else a < b

/-- The preferred one of the tokens that are complete. -/
def complete? (t : Table) (live : List (Nat × Regex)) : Option Nat :=
  live.foldl (fun best (i, r) =>
    if r.nullable then
      match best with
      | none => some i
      | some b => if t.prefers i b then some i else best
    else best) none

/-- Reads on while one of the `live` tokens fits, and remembers the last complete one. A complete token ends
the hopes of weaker ones. -/
def longest (t : Table) (live : List (Nat × Regex)) (best : Option (Nat × Cursor)) :
    List Char → Place → Option (Nat × Cursor)
  | [], _ => best
  | c :: rest, place =>
    let live := live.filterMap fun (i, r) =>
      let r := r.step c
      if r == .never then none else some (i, r)
    if live.isEmpty then best
    else
      let place := place.advance c
      match t.complete? live with
      | none => t.longest live best rest place
      | some w =>
        let strength := (t.tokens.getD w default).strength
        let live := live.filter fun (i, _) => strength ≤ (t.tokens.getD i default).strength
        t.longest live (some (w, ⟨rest, place⟩)) rest place

/-- The tokens of a set, with their shapes, that can begin with a character. -/
def candidates (t : Table) (wanted : TokenSet) (c : Char) : List (Nat × Regex) :=
  let set := if c.toNat < 128 then TokenSet.inter (t.byCharacter.getD c.toNat 0) wanted else wanted
  (List.range t.tokenCount).filterMap fun i =>
    if TokenSet.has set i then some (i, (t.tokens.getD i default).shape) else none

/-- How far a separator reaches. -/
def separatorEnd? (t : Table) (c : Cursor) : Option Cursor :=
  (longest t [(0, t.separator)] none c.rest c.place).map Prod.snd

/-- The token at a place, where `gap` tells whether something was skipped before it. -/
def tokenAt (t : Table) (wanted : TokenSet) (gap : Bool) (c : Cursor) : Option (Nat × Cursor) :=
  match c.rest with
  | [] => none
  | x :: _ =>
    let live := (t.candidates wanted x).filter fun (i, _) =>
      !(gap && (t.tokens.getD i default).immediate)
    longest t live none c.rest c.place

/-- Skips separators up to a token or the end. -/
def skipTo (t : Table) (wanted : TokenSet) : Nat → Bool → Cursor → Option (Nat × Cursor × Cursor)
  | 0, _, _ => none
  | fuel + 1, gap, c =>
    match t.tokenAt wanted gap c with
    | some (i, stop) => some (i, c, stop)
    | none =>
      if c.atEnd then some (t.endToken, c, c)
      else match t.separatorEnd? c with
        | some next => t.skipTo wanted fuel true next
        | none => none

/-- The characters of a list that begins at the offset `here`, up to the offset `stop`. -/
def charsUntil (stop : Nat) : Nat → List Char → List Char
  | _, [] => []
  | here, c :: rest => if here < stop then c :: charsUntil stop (here + c.utf8Size) rest else []

/-- The text between two places. -/
def textBetween (start stop : Cursor) : String :=
  String.ofList (charsUntil stop.place.offset start.place.offset start.rest)

/-- A word is a keyword where that keyword is wanted. -/
def asKeyword (t : Table) (wanted : TokenSet) (token : Nat) (start stop : Cursor) : Nat :=
  if t.word == some token then
    match t.keywords[textBetween start stop]? with
    | some k => if TokenSet.has wanted k then k else token
    | none => token
  else token

/-- The next token, one of the `wanted` ones if possible. At most `fuel` separators are skipped. -/
def lexeme? {σ : Type} (t : Table) (scanner : Scanner σ) (fuel : Nat) (wanted : TokenSet) (state : σ)
    (c : Cursor) : Option (Lexeme σ) :=
  let wantsExternal (i : Nat) : Bool := TokenSet.has wanted (t.externals.getD i t.tokenCount)
  let scanned := if (List.range t.externals.size).any wantsExternal then
      scanner.scan state wantsExternal c
    else none
  match scanned with
  | some s => some ⟨t.externals.getD s.external 0, s.start, s.stop, s.state⟩
  | none =>
    let shapes := match t.word with
      | some w => if TokenSet.inter wanted t.keywordSet == 0 then wanted else TokenSet.union wanted (.single w)
      | none => wanted
    match t.skipTo shapes fuel false c with
    | some (i, start, stop) => some ⟨t.asKeyword wanted i start stop, start, stop, state⟩
    | none => none

end Table
end CodeAtlas.Grammar

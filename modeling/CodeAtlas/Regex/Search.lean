import CodeAtlas.Regex.Basic
import CodeAtlas.Text.Cursor

/-!
Searching a text for an expression.

Of the matches that begin earliest, the one is found that prefers the first of two choices and repeats as often as
it may (or as seldom, for lazy repetitions). All ways to match are followed side by side, in the order of their
preference, so that a search reads every character once.
-/
namespace CodeAtlas.Regex

open CodeAtlas.Text

/-- The characters next to a place. -/
structure Around where
  before : Option Char
  after : Option Char

namespace Around

/-- Whether a line begins here. -/
def atLineStart (a : Around) : Bool := a.before.all (· == '\n')

/-- Whether a line ends here. -/
def atLineEnd (a : Around) : Bool := a.after.all (· == '\n')

/-- Whether a word begins or ends here. -/
def atWordEdge (a : Around) : Bool := a.before.any isWord != a.after.any isWord

end Around

/-- The stretches of text that the named groups of an expression matched, the last one first. -/
abbrev Captures := List (String × Span)

/-- What is left to do of a match. -/
inductive Task where
  /-- An expression has to match. -/
  | run (r : Regex)
  /-- A group that began at `start` ends. -/
  | close (name : String) (start : Place)
deriving BEq

/-- How a match can go on. -/
inductive Outcome where
  /-- There is nothing to read. -/
  | passed (captures : Captures)
  /-- A character of the set is read, and then the tasks are done. -/
  | reads (set : CharSet) (rest : List Task) (captures : Captures)

/-- The same outcome with more to do. -/
def Outcome.before (more : List Task) : Outcome → Outcome
  | .passed captures => .passed captures
  | .reads set rest captures => .reads set (rest ++ more) captures

/-- Whether something has to be read. -/
def Outcome.isReads : Outcome → Bool
  | .passed _ => false
  | .reads _ _ _ => true

/-- A place is passed over if the condition holds. -/
def passIf (condition : Bool) (captures : Captures) : List Outcome :=
  if condition then [.passed captures] else []

/-- The ways to begin with an expression at a place, the preferred ones first. A repetition that reads nothing
ends. -/
def heads (here : Place) (around : Around) : Regex → Captures → List Outcome
  | .never, _ => []
  | .empty, captures => [.passed captures]
  | .chars set, captures => [.reads set [] captures]
  | .seq a b, captures =>
    (heads here around a captures).flatMap fun
      | .passed captures => heads here around b captures
      | .reads set rest captures => [.reads set (rest ++ [.run b]) captures]
  | .alt a b, captures => heads here around a captures ++ heads here around b captures
  | .star a lazy, captures =>
    let again := ((heads here around a captures).filter Outcome.isReads).map
      (Outcome.before [.run (.star a lazy)])
    if lazy then .passed captures :: again else again ++ [.passed captures]
  | .group name a, captures =>
    (heads here around a captures).map fun
      | .passed captures => .passed ((name, ⟨here, here⟩) :: captures)
      | .reads set rest captures => .reads set (rest ++ [.close name here]) captures
  | .lineStart, captures => passIf around.atLineStart captures
  | .lineEnd, captures => passIf around.atLineEnd captures
  | .textStart, captures => passIf around.before.isNone captures
  | .textEnd, captures => passIf around.after.isNone captures
  | .wordBoundary, captures => passIf around.atWordEdge captures

/-- The ways to begin with a list of tasks; `passed` is then a whole match. -/
def headsOf (here : Place) (around : Around) : List Task → Captures → List Outcome
  | [], captures => [.passed captures]
  | .close name start :: rest, captures =>
    headsOf here around rest ((name, ⟨start, here⟩) :: captures)
  | .run r :: rest, captures =>
    (heads here around r captures).flatMap fun
      | .passed captures => headsOf here around rest captures
      | .reads set more captures => [.reads set (more ++ rest) captures]

/-- One way to match, as far as it went. -/
structure Thread where
  tasks : List Task
  captures : Captures

/-- The outcomes up to the first whole match, and that match: what is less preferred is given up. -/
def untilPassed : List Outcome → List Outcome × Option Captures
  | [] => ([], none)
  | .passed captures :: _ => ([], some captures)
  | .reads set rest captures :: more =>
    let (readers, hit) := untilPassed more
    (.reads set rest captures :: readers, hit)

/-- The threads after reading a character. Of two threads with the same tasks the preferred one is kept. -/
def afterReading (c : Char) (outcomes : List Outcome) : List Thread :=
  outcomes.foldl (fun threads o =>
    match o with
    | .reads set rest captures =>
      if set.mem c && !threads.any (·.tasks == rest) then threads ++ [⟨rest, captures⟩] else threads
    | .passed _ => threads) []

/-- A match: its groups, what follows it, and the character at its end. -/
structure Match where
  captures : Captures
  stop : Cursor
  last : Option Char

/-- The stretch that a group matched. -/
def Match.group? (m : Match) (name : String) : Option Span :=
  m.captures.lookup name

/-- The search from a place on, with the threads that are under way and the best match so far. -/
def searchFrom (r : Regex) (threads : List Thread) (best : Option Match) (before : Option Char) :
    List Char → Place → Option Match
  | text, here =>
    let threads := if best.isNone then threads ++ [⟨[.run r], []⟩] else threads
    let around : Around := ⟨before, text.head?⟩
    let (readers, hit) := untilPassed
      (threads.flatMap fun t => headsOf here around t.tasks t.captures)
    let best := match hit with
      | some captures => some ⟨captures, ⟨text, here⟩, before⟩
      | none => best
    match text with
    | [] => best
    | c :: rest =>
      let next := afterReading c readers
      if next.isEmpty && best.isSome then best
      else searchFrom r next best (some c) rest (here.advance c)

/-- The first match at or after a place. -/
def search (r : Regex) (before : Option Char) (c : Cursor) : Option Match :=
  searchFrom r [] none before c.rest c.place

/-- Whether there is a match somewhere in a text. -/
def occursIn (r : Regex) (text : String) : Bool :=
  (r.search none (.ofString text)).isSome

/-- The matches at or after a place, none overlapping another. -/
def matchesFrom (r : Regex) (before : Option Char) (c : Cursor) : List Match :=
  match r.search before c with
  | none => []
  | some m =>
    if m.stop.rest.length < c.rest.length then m :: r.matchesFrom m.last m.stop
    else match _h : c.rest with
      | [] => [m]
      | x :: rest => m :: r.matchesFrom (some x) ⟨rest, c.place.advance x⟩
termination_by c.rest.length
decreasing_by
  · assumption
  · simp [_h]

/-- The matches in a text, none overlapping another. -/
def allMatches (r : Regex) (text : String) : List Match :=
  r.matchesFrom none (.ofString text)

end CodeAtlas.Regex

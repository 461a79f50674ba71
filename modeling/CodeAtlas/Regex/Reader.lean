import CodeAtlas.Regex.Basic

/-!
The written form of regular expressions.

`Regex.read?` understands alternation, concatenation, the quantifiers `* + ? {n} {m,n}` with their
lazy forms, groups (plain, `(?:…)` and `(?P<name>…)`), character classes, escapes, and the places
`^ $ \b`. A text may begin with flags: `(?i)` ignores case, `(?m)` lets `^` and `$` stand at every line.

The functions recurse on a budget, the number of characters that are left when reading starts: each call
of one of them on another consumes a character or goes down one of the four levels.
-/
namespace CodeAtlas.Regex.Reader

/-- How letters and the places `^` and `$` are read. -/
structure Flags where
  ignoreCase : Bool
  multiLine : Bool

/-- The set `s` under the flags. -/
def Flags.apply (flags : Flags) (s : CharSet) : CharSet :=
  if flags.ignoreCase then .eitherCase s else s

/-- The value of a hexadecimal digit. -/
def hexDigit? (c : Char) : Option Nat :=
  if c.isDigit then some (c.toNat - '0'.toNat)
  else if 'a' ≤ c && c ≤ 'f' then some (c.toNat - 'a'.toNat + 10)
  else if 'A' ≤ c && c ≤ 'F' then some (c.toNat - 'A'.toNat + 10)
  else none

/-- The number written by hexadecimal digits. -/
def hexNumber? (digits : List Char) : Option Nat :=
  digits.foldl (fun acc c => do return (← acc) * 16 + (← hexDigit? c)) (some 0)

/-- The characters of the Unicode category of space separators. -/
def spaceSeparators : CharSet :=
  .ofList [.single ' ', .single '\u00a0', .single '\u1680', .range '\u2000' '\u200a',
    .single '\u202f', .single '\u205f', .single '\u3000']

/-- The set named between the braces of `\p`. -/
def property? (name : List Char) : Option CharSet :=
  match String.ofList name with
  | "XID_Start" => some .identifierStart
  | "XID_Continue" => some .identifierPart
  | "Zs" => some spaceSeparators
  | _ => none

/-- An escape, after its backslash: a set and what follows it. -/
def escape? : List Char → Option (CharSet × List Char)
  | 'w' :: rest => some (.word, rest)
  | 'W' :: rest => some (.compl .word, rest)
  | 's' :: rest => some (.blank, rest)
  | 'S' :: rest => some (.compl .blank, rest)
  | 'd' :: rest => some (.decimal, rest)
  | 'D' :: rest => some (.compl .decimal, rest)
  | 'n' :: rest => some (.single '\n', rest)
  | 'r' :: rest => some (.single '\r', rest)
  | 't' :: rest => some (.single '\t', rest)
  | 'f' :: rest => some (.single '\x0c', rest)
  | 'v' :: rest => some (.single '\x0b', rest)
  | 'x' :: a :: b :: rest => do return (.single (Char.ofNat (← hexNumber? [a, b])), rest)
  | 'u' :: a :: b :: c :: d :: rest => do
    return (.single (Char.ofNat (← hexNumber? [a, b, c, d])), rest)
  | 'p' :: '{' :: rest => do
    let name := rest.takeWhile (· != '}')
    return (← property? name, rest.drop (name.length + 1))
  | c :: rest => some (.single c, rest)
  | [] => none

/-- The members of a character class up to its closing bracket. -/
def classMembers? (fuel : Nat) (cs : List Char) : Option (List CharSet × List Char) :=
  match fuel with
  | 0 => none
  | fuel + 1 =>
    match cs with
    | [] => none
    | ']' :: rest => some ([], rest)
    | _ => do
      let (first, rest) ← match cs with
        | '\\' :: rest => escape? rest
        | c :: rest => some (.single c, rest)
        | [] => none
      match first, rest with
      | .range lo _, '-' :: ']' :: _ => do
        let (more, rest) ← classMembers? fuel rest
        return (.single lo :: more, rest)
      | .range lo _, '-' :: rest => do
        let (last, rest) ← match rest with
          | '\\' :: rest => escape? rest
          | c :: rest => some (.single c, rest)
          | [] => none
        match last with
        | .range hi _ => do
          let (more, rest) ← classMembers? fuel rest
          return (.range lo hi :: more, rest)
        | _ => none
      | set, rest => do
        let (more, rest) ← classMembers? fuel rest
        return (set :: more, rest)

/-- A character class after its opening bracket. -/
def charClass? (flags : Flags) (fuel : Nat) (cs : List Char) : Option (CharSet × List Char) :=
  match cs with
  | '^' :: rest => do
    let (members, rest) ← classMembers? fuel rest
    return (.compl (flags.apply (.ofList members)), rest)
  | _ => do
    let (members, rest) ← classMembers? fuel cs
    return (flags.apply (.ofList members), rest)

/-- A decimal number and what follows it. -/
def number (cs : List Char) : Option Nat × List Char :=
  let digits := cs.takeWhile Char.isDigit
  (if digits.isEmpty then none else some (digits.foldl (fun n c => n * 10 + (c.toNat - 48)) 0),
    cs.drop digits.length)

/-- The quantifiers that follow an atom, applied to it. -/
def quantified? (atom : Regex) (cs : List Char) : Option (Regex × List Char) :=
  match cs with
  | '*' :: '?' :: rest => some (.star atom true, rest)
  | '*' :: rest => some (.star atom false, rest)
  | '+' :: '?' :: rest => some (.seq atom (.star atom true), rest)
  | '+' :: rest => some (.seq atom (.star atom false), rest)
  | '?' :: '?' :: rest => some (.alt .empty atom, rest)
  | '?' :: rest => some (.alt atom .empty, rest)
  | '{' :: rest =>
    match number rest with
    | (some n, '}' :: rest) => some (times atom n, rest)
    | (some n, ',' :: '}' :: rest) => some (cat (times atom n) (.star atom false), rest)
    | (some n, ',' :: rest) =>
      match number rest with
      | (some m, '}' :: rest) => some (cat (times atom n) (atMost atom (m - n)), rest)
      | _ => none
    | _ => none
  | _ => some (atom, cs)

mutual

/-- Alternatives, up to a closing parenthesis or the end. -/
def alternatives? (flags : Flags) (fuel : Nat) (cs : List Char) : Option (Regex × List Char) :=
  match fuel with
  | 0 => none
  | fuel + 1 => do
    let (first, rest) ← sequence? flags fuel cs
    match rest with
    | '|' :: rest => do
      let (others, rest) ← alternatives? flags fuel rest
      return (.alt first others, rest)
    | _ => return (first, rest)

/-- Atoms in a row. -/
def sequence? (flags : Flags) (fuel : Nat) (cs : List Char) : Option (Regex × List Char) :=
  match fuel with
  | 0 => none
  | fuel + 1 =>
    match cs with
    | [] | '|' :: _ | ')' :: _ => some (.empty, cs)
    | _ => do
      let (first, rest) ← atom? flags fuel cs
      let (first, rest) ← quantified? first rest
      let (others, rest) ← sequence? flags fuel rest
      return (cat first others, rest)

/-- One atom. -/
def atom? (flags : Flags) (fuel : Nat) (cs : List Char) : Option (Regex × List Char) :=
  match fuel with
  | 0 => none
  | fuel + 1 =>
    match cs with
    | '(' :: '?' :: ':' :: rest => do
      let (inner, rest) ← alternatives? flags fuel rest
      match rest with
      | ')' :: rest => return (inner, rest)
      | _ => none
    | '(' :: '?' :: 'P' :: '<' :: rest => do
      let name := rest.takeWhile (· != '>')
      let (inner, rest) ← alternatives? flags fuel (rest.drop (name.length + 1))
      match rest with
      | ')' :: rest => return (.group (String.ofList name) inner, rest)
      | _ => none
    | '(' :: rest => do
      let (inner, rest) ← alternatives? flags fuel rest
      match rest with
      | ')' :: rest => return (inner, rest)
      | _ => none
    | '[' :: rest => do
      let (set, rest) ← charClass? flags rest.length rest
      return (.chars set, rest)
    | '.' :: rest => some (.chars (.compl (.single '\n')), rest)
    | '^' :: rest => some (if flags.multiLine then .lineStart else .textStart, rest)
    | '$' :: rest => some (if flags.multiLine then .lineEnd else .textEnd, rest)
    | '\\' :: 'b' :: rest => some (.wordBoundary, rest)
    | '\\' :: rest => do
      let (set, rest) ← escape? rest
      return (.chars (flags.apply set), rest)
    | c :: rest => some (.chars (flags.apply (.single c)), rest)
    | [] => none

end

/-- The flags at the beginning of a text, and the rest. -/
def flags (cs : List Char) : Flags × List Char :=
  match cs with
  | '(' :: '?' :: 'i' :: 'm' :: ')' :: rest => (⟨true, true⟩, rest)
  | '(' :: '?' :: 'm' :: 'i' :: ')' :: rest => (⟨true, true⟩, rest)
  | '(' :: '?' :: 'i' :: ')' :: rest => (⟨true, false⟩, rest)
  | '(' :: '?' :: 'm' :: ')' :: rest => (⟨false, true⟩, rest)
  | _ => (⟨false, false⟩, cs)

end Reader

/-- Reads a regular expression. -/
def read? (text : String) : Option Regex :=
  let (flags, cs) := Reader.flags text.toList
  match Reader.alternatives? flags (4 * cs.length + 4) cs with
  | some (r, []) => some r
  | _ => none

/-- The expression written by `text`; a text that is no expression matches nothing. -/
def ofString (text : String) : Regex :=
  (read? text).getD .never

end CodeAtlas.Regex

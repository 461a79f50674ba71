import CodeAtlas.Json.Reader
import CodeAtlas.Toml.Basic

/-!
Reading quoted texts, keys, numbers and dates of a TOML document.

Each reader takes what it can from the start of a text and leaves the rest.
-/
namespace CodeAtlas.Toml

/-- What a reader takes and leaves. -/
abbrev Reading (α : Type) := Option (α × List Char)

/-- White space inside a line. -/
def isGap (c : Char) : Bool :=
  c == ' ' || c == '\t'

/-- The rest of a text after white space inside a line. -/
def skipGap (text : List Char) : List Char :=
  text.dropWhile isGap

/-- The rest of a text after the end of a line. -/
def afterNewline? : List Char → Option (List Char)
  | '\n' :: rest => some rest
  | '\r' :: '\n' :: rest => some rest
  | _ => none

/-- Characters that can stand in comments and between quotes. -/
def isPlain (c : Char) : Bool :=
  c == '\t' || (32 ≤ c.toNat && c.toNat != 127)

/-! ### Quoted texts -/

/-- The number that hexadecimal digits stand for. -/
def hexValue? (digits : List Char) : Option Nat :=
  digits.foldlM (fun n c => (Json.hexDigit? c).map (n * 16 + ·)) 0

/-- The character with a number, if there is one. -/
def scalar? (n : Nat) : Option Char :=
  if n < 0xd800 ∨ (0xe000 ≤ n ∧ n < 0x110000) then some (Char.ofNat n) else none

/-- The character of an escape, after its backslash. -/
def escape? (text : List Char) : Reading Char :=
  match text with
  | 'b' :: rest => some ('\x08', rest)
  | 't' :: rest => some ('\t', rest)
  | 'n' :: rest => some ('\n', rest)
  | 'f' :: rest => some ('\x0c', rest)
  | 'r' :: rest => some ('\r', rest)
  | '"' :: rest => some ('"', rest)
  | '\\' :: rest => some ('\\', rest)
  | 'u' :: rest => numbered 4 rest
  | 'U' :: rest => numbered 8 rest
  | _ => none
where
  /-- A character given by some hexadecimal digits. -/
  numbered (n : Nat) (rest : List Char) : Reading Char :=
    if rest.length < n then none
    else ((hexValue? (rest.take n)).bind scalar?).map fun c => (c, rest.drop n)

/-- A text between double quotes on one line, after the first quote. -/
def basicText (fuel : Nat) (read text : List Char) : Reading String :=
  match fuel, text with
  | 0, _ => none
  | _, [] => none
  | _, '"' :: rest => some (String.ofList read.reverse, rest)
  | fuel + 1, '\\' :: rest =>
    match escape? rest with
    | some (c, rest) => basicText fuel (c :: read) rest
    | none => none
  | fuel + 1, c :: rest => if isPlain c then basicText fuel (c :: read) rest else none

/-- A text between single quotes on one line, after the first quote. -/
def literalText (read : List Char) : List Char → Reading String
  | [] => none
  | '\'' :: rest => some (String.ofList read.reverse, rest)
  | c :: rest => if isPlain c then literalText (c :: read) rest else none

/-- The end of a text over several lines, if enough quotes stand there: two of them can still belong to the text. -/
def closing? (quote : Char) (read text : List Char) : Option (Reading String) :=
  let n := min 5 (text.takeWhile (· == quote)).length
  if n < 3 then none
  else some (some (String.ofList (List.replicate (n - 3) quote ++ read).reverse, text.drop n))

/-- The rest after the line break that a backslash hides, with all white space behind it. -/
def hiddenBreak? (text : List Char) : Option (List Char) :=
  (afterNewline? (skipGap text)).map fun rest => skipBreaks rest.length rest
where
  /-- The rest after white space and line breaks. -/
  skipBreaks : Nat → List Char → List Char
    | 0, text => text
    | fuel + 1, text =>
      let text := skipGap text
      match afterNewline? text with
      | some rest => skipBreaks fuel rest
      | none => text

/-- A text between three double quotes, after the first three. -/
def multilineBasic (fuel : Nat) (read text : List Char) : Reading String :=
  match fuel with
  | 0 => none
  | fuel + 1 =>
    match closing? '"' read text with
    | some result => result
    | none =>
      match afterNewline? text with
      | some rest => multilineBasic fuel ('\n' :: read) rest
      | none =>
        match text with
        | [] => none
        | '\\' :: rest =>
          match hiddenBreak? rest with
          | some rest => multilineBasic fuel read rest
          | none =>
            match escape? rest with
            | some (c, rest) => multilineBasic fuel (c :: read) rest
            | none => none
        | c :: rest => if isPlain c then multilineBasic fuel (c :: read) rest else none

/-- A text between three single quotes, after the first three. -/
def multilineLiteral (fuel : Nat) (read text : List Char) : Reading String :=
  match fuel with
  | 0 => none
  | fuel + 1 =>
    match closing? '\'' read text with
    | some result => result
    | none =>
      match afterNewline? text with
      | some rest => multilineLiteral fuel ('\n' :: read) rest
      | none =>
        match text with
        | [] => none
        | c :: rest => if isPlain c then multilineLiteral fuel (c :: read) rest else none

/-- The text without a line break at its start. -/
def dropNewline (text : List Char) : List Char :=
  (afterNewline? text).getD text

/-- A quoted text. -/
def quoted? (text : List Char) : Reading String :=
  match text with
  | '"' :: '"' :: '"' :: rest => multilineBasic text.length [] (dropNewline rest)
  | '"' :: rest => basicText text.length [] rest
  | '\'' :: '\'' :: '\'' :: rest => multilineLiteral text.length [] (dropNewline rest)
  | '\'' :: rest => literalText [] rest
  | _ => none

/-! ### Keys -/

/-- Characters of keys without quotes. -/
def isKeyChar (c : Char) : Bool :=
  c.isAlphanum || c == '-' || c == '_'

/-- A key without points. -/
def simpleKey? (text : List Char) : Reading String :=
  match text with
  | '"' :: rest => basicText text.length [] rest
  | '\'' :: rest => literalText [] rest
  | _ =>
    let key := text.takeWhile isKeyChar
    if key.isEmpty then none else some (String.ofList key, text.dropWhile isKeyChar)

/-- How many parts a key has at most, and how deep values are nested at most. -/
def maxDepth : Nat := 79

/-- The parts of a key, at most the given number; white space may stand around each. -/
def keyParts? : Nat → List Char → Reading (List String)
  | 0, _ => none
  | fuel + 1, text =>
    match simpleKey? (skipGap text) with
    | none => none
    | some (part, rest) =>
      match skipGap rest with
      | '.' :: rest => (keyParts? fuel rest).map fun (parts, rest) => (part :: parts, rest)
      | rest => some ([part], rest)

/-- A key with its parts. -/
def key? (text : List Char) : Reading (List String) :=
  keyParts? maxDepth text

/-! ### Numbers -/

/-- Digits of a kind, single underscores between them. What is read is given without the underscores. -/
def digits? (isDigit : Char → Bool) (text : List Char) : Reading (List Char) :=
  match text with
  | [] => none
  | c :: rest => if isDigit c then some (more [c] rest) else none
where
  /-- Further digits, with those read so far in reverse. -/
  more (read : List Char) : List Char → List Char × List Char
    | '_' :: c :: rest => if isDigit c then more (c :: read) rest else (read.reverse, '_' :: c :: rest)
    | c :: rest => if isDigit c then more (c :: read) rest else (read.reverse, c :: rest)
    | [] => (read.reverse, [])

/-- A decimal number with its sign; a number of several digits begins with none that is zero. -/
def decimal? (text : List Char) : Reading (Bool × List Char) :=
  let negative := text.head? == some '-'
  let signed := negative || text.head? == some '+'
  let text := if signed then text.tail else text
  match text with
  | '0' :: rest => some ((negative, ['0']), rest)
  | _ => (digits? Char.isDigit text).map fun (ds, rest) => ((negative, ds), rest)

/-- A whole number, if it fits into 64 bits with a sign. -/
def bounded? (n : Int) : Option Toml :=
  if -(Nat.pow 2 63 : Int) ≤ n ∧ n < (Nat.pow 2 63 : Int) then some (.integer n) else none

/-- The digits of a base. -/
def isDigitOf (base : Nat) (c : Char) : Bool :=
  match Json.hexDigit? c with
  | some n => n < base
  | none => false

/-- A whole number in another base, after its mark. -/
def basedInteger? (base : Nat) (text : List Char) : Reading Toml :=
  match digits? (isDigitOf base) text with
  | none => none
  | some (ds, rest) =>
    let n := ds.foldl (fun n c => n * base + (Json.hexDigit? c).getD 0) 0
    (bounded? n).map fun v => (v, rest)

/-- A whole number. -/
def integer? (text : List Char) : Reading Toml :=
  match text with
  | '0' :: 'x' :: rest => basedInteger? 16 rest
  | '0' :: 'o' :: rest => basedInteger? 8 rest
  | '0' :: 'b' :: rest => basedInteger? 2 rest
  | _ =>
    match decimal? text with
    | none => none
    | some ((negative, ds), rest) =>
      let n : Int := Json.digitsValue ds
      (bounded? (if negative then -n else n)).map fun v => (v, rest)

/-- The exponent of a number: whether it is negative, and its digits. -/
def exponent? (text : List Char) : Reading (Bool × List Char) :=
  match text with
  | c :: rest =>
    if c == 'e' || c == 'E' then
      let negative := rest.head? == some '-'
      let rest := if negative || rest.head? == some '+' then rest.tail else rest
      (digits? Char.isDigit rest).map fun (ds, rest) => ((negative, ds), rest)
    else none
  | [] => none

/-- Whether a number that is given by its digits and a power of ten is too large for 64 bits. -/
def tooLarge (digits : List Char) (power : Int) : Bool :=
  let digits := digits.dropWhile (· == '0')
  let n := Json.digitsValue digits
  let magnitude : Int := digits.length + power
  let bound := Nat.pow 2 1024 - Nat.pow 2 970
  if digits.isEmpty || magnitude < 309 then false
  else if 309 < magnitude then true
  else if 0 ≤ power then decide (bound ≤ n * Nat.pow 10 power.toNat)
  else decide (bound * Nat.pow 10 power.natAbs ≤ n)

/-- A number with a fraction or an exponent. Those beyond the largest of 64 bits are refused. -/
def float? (text : List Char) : Reading Toml :=
  match decimal? text with
  | none => none
  | some ((negative, whole), rest) =>
    let fraction := match rest with
      | '.' :: rest => digits? Char.isDigit rest
      | _ => none
    let pointed := rest.head? == some '.'
    if pointed && fraction.isNone then none
    else
      let (decimals, rest) := fraction.getD ([], rest)
      let powered := rest.head? == some 'e' || rest.head? == some 'E'
      match exponent? rest with
      | none => if pointed && !powered then finish negative whole decimals 0 rest else none
      | some ((minus, ds), rest) =>
        let power : Int := Json.digitsValue ds
        finish negative whole decimals (if minus then -power else power) rest
where
  /-- The number with all its parts. -/
  finish (negative : Bool) (whole decimals : List Char) (power : Int) (rest : List Char) : Reading Toml :=
    if !negative && tooLarge (whole ++ decimals) (power - decimals.length) then none
    else
      let sign := if negative then "-" else ""
      some (.float (sign ++ String.ofList whole ++ "." ++ String.ofList decimals ++ "e" ++ toString power), rest)

/-- The values that are no numbers of their own: infinities and what is not a number. -/
def specialFloat? (text : List Char) : Reading Toml :=
  let signed := text.head? == some '-' || text.head? == some '+'
  match if signed then text.tail else text with
  | 'i' :: 'n' :: 'f' :: rest => some (.float "inf", rest)
  | 'n' :: 'a' :: 'n' :: rest => some (.float "nan", rest)
  | _ => none

/-! ### Dates -/

/-- A number of exactly `n` digits within bounds. -/
def fixedDigits? (n low high : Nat) (text : List Char) : Reading Nat :=
  let ds := text.take n
  let value := Json.digitsValue ds
  if ds.length == n && ds.all Char.isDigit && low ≤ value && value ≤ high then some (value, text.drop n)
  else none

/-- How many days a month has. -/
def daysIn (year month : Nat) : Nat :=
  if month == 2 then
    if year % 4 == 0 && (year % 100 != 0 || year % 400 == 0) then 29 else 28
  else if month == 4 || month == 6 || month == 9 || month == 11 then 30
  else 31

/-- The rest of a text after a character. -/
def expect? (c : Char) : List Char → Option (List Char)
  | d :: rest => if c == d then some rest else none
  | [] => none

/-- The rest after a day of the calendar. -/
def fullDate? (text : List Char) : Option (List Char) := do
  let (year, text) ← fixedDigits? 4 0 9999 text
  let text ← expect? '-' text
  let (month, text) ← fixedDigits? 2 1 12 text
  let text ← expect? '-' text
  let (_, text) ← fixedDigits? 2 1 (daysIn year month) text
  return text

/-- The rest after hours and minutes. -/
def clock? (text : List Char) : Option (List Char) := do
  let (_, text) ← fixedDigits? 2 0 23 text
  let text ← expect? ':' text
  let (_, text) ← fixedDigits? 2 0 59 text
  return text

/-- The rest after a time of day. -/
def time? (text : List Char) : Option (List Char) := do
  let text ← clock? text
  let text ← expect? ':' text
  let (_, text) ← fixedDigits? 2 0 60 text
  match text with
  | '.' :: c :: rest => return if c.isDigit then rest.dropWhile Char.isDigit else text
  | _ => return text

/-- The rest after the distance from universal time, if there is one. -/
def afterOffset (text : List Char) : List Char :=
  match text with
  | c :: rest =>
    if c == 'Z' || c == 'z' then rest
    else if c == '+' || c == '-' then
      (clock? rest).getD text
    else text
  | [] => []

/-- The rest after a day with its time, or after either of them. -/
def afterDate? (text : List Char) : Option (List Char) :=
  match fullDate? text with
  | some rest =>
    match rest with
    | c :: after =>
      if c == 'T' || c == 't' || c == ' ' then
        match time? after with
        | some rest => some (afterOffset rest)
        | none => some rest
      else some rest
    | [] => some []
  | none => time? text

/-- A day, a time, or both. -/
def date? (text : List Char) : Reading Toml :=
  (afterDate? text).map fun rest =>
    (.date (String.ofList (text.take (text.length - rest.length))), rest)

/-- A number or a date. -/
def number? (text : List Char) : Reading Toml :=
  match date? text with
  | some r => some r
  | none =>
    match float? text with
    | some r => some r
    | none =>
      match specialFloat? text with
      | some r => some r
      | none => integer? text

end CodeAtlas.Toml

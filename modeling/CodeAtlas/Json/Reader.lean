import CodeAtlas.Json.Basic

/-!
Reading JSON values from text.

Every step of the reader takes in a character, so the length of the text bounds how deep it goes.
-/
namespace CodeAtlas.Json

/-- White space between the parts of a value. -/
def isSpace (c : Char) : Bool :=
  c == ' ' || c == '\n' || c == '\r' || c == '\t'

/-- The rest of a text after white space. -/
def skipSpace (text : List Char) : List Char :=
  text.dropWhile isSpace

/-- The value of a hexadecimal digit. -/
def hexDigit? (c : Char) : Option Nat :=
  if '0' ≤ c ∧ c ≤ '9' then some (c.toNat - 48)
  else if 'a' ≤ c ∧ c ≤ 'f' then some (c.toNat - 87)
  else if 'A' ≤ c ∧ c ≤ 'F' then some (c.toNat - 55)
  else none

/-- The value of four hexadecimal digits. -/
def hex4? (a b c d : Char) : Option Nat := do
  let a ← hexDigit? a
  let b ← hexDigit? b
  let c ← hexDigit? c
  let d ← hexDigit? d
  return ((a * 16 + b) * 16 + c) * 16 + d

/-- The character of a one-letter escape. -/
def simpleEscape? : Char → Option Char
  | '"' => some '"'
  | '\\' => some '\\'
  | '/' => some '/'
  | 'b' => some '\x08'
  | 'f' => some '\x0c'
  | 'n' => some '\n'
  | 'r' => some '\r'
  | 't' => some '\t'
  | _ => none

/-- The rest of a quoted text, with what is read so far in reverse. -/
def stringTail (read : List Char) : List Char → Option (String × List Char)
  | [] => none
  | '"' :: rest => some (String.ofList read.reverse, rest)
  | '\\' :: 'u' :: a :: b :: c :: d :: '\\' :: 'u' :: e :: f :: g :: h :: rest =>
    match hex4? a b c d, hex4? e f g h with
    | some high, some low =>
      if 0xd800 ≤ high && high < 0xdc00 && 0xdc00 ≤ low && low < 0xe000 then
        stringTail (Char.ofNat (0x10000 + (high - 0xd800) * 0x400 + (low - 0xdc00)) :: read) rest
      else if 0xd800 ≤ high && high < 0xe000 then none
      else stringTail (Char.ofNat high :: read) ('\\' :: 'u' :: e :: f :: g :: h :: rest)
    | _, _ => none
  | '\\' :: 'u' :: a :: b :: c :: d :: rest =>
    match hex4? a b c d with
    | some n => if 0xd800 ≤ n && n < 0xe000 then none else stringTail (Char.ofNat n :: read) rest
    | none => none
  | '\\' :: c :: rest =>
    match simpleEscape? c with
    | some x => stringTail (x :: read) rest
    | none => none
  | c :: rest => if c.toNat < 32 then none else stringTail (c :: read) rest
termination_by text => text.length

/-- The number that decimal digits stand for. -/
def digitsValue (digits : List Char) : Nat :=
  digits.foldl (fun n c => n * 10 + (c.toNat - 48)) 0

/-- A number at the start of a text. A sign, a point or an exponent makes it other than a plain whole number, and so
does a size beyond 64 bits. -/
def number? (text : List Char) : Option (Json × List Char) :=
  let negative := text.head? == some '-'
  let text := if negative then text.drop 1 else text
  let whole := text.takeWhile Char.isDigit
  let text := text.dropWhile Char.isDigit
  if whole.isEmpty || (whole.head? == some '0' && whole.length ≠ 1) then none
  else
    let pointed := text.head? == some '.'
    let fraction := if pointed then (text.drop 1).takeWhile Char.isDigit else []
    let text := if pointed then (text.drop 1).dropWhile Char.isDigit else text
    if pointed && fraction.isEmpty then none
    else
      let powered := text.head? == some 'e' || text.head? == some 'E'
      let signed := if powered then text.drop 1 else text
      let minus := powered && signed.head? == some '-'
      let unsigned := if powered && (minus || signed.head? == some '+') then signed.drop 1 else signed
      let power := if powered then unsigned.takeWhile Char.isDigit else []
      let text := if powered then unsigned.dropWhile Char.isDigit else text
      if powered && power.isEmpty then none
      else if !negative && !pointed && !powered && digitsValue whole < UInt64.size then
        some (.nat (digitsValue whole), text)
      else
        let e : Int := (if minus then -(digitsValue power : Int) else digitsValue power) - fraction.length
        let magnitude := Float.ofScientific (digitsValue (whole ++ fraction)) (e < 0) e.natAbs
        some (.float (if negative then -magnitude else magnitude), text)

mutual

/-- A value at the start of a text. -/
def valueAt : Nat → List Char → Option (Json × List Char)
  | 0, _ => none
  | fuel + 1, text =>
    match skipSpace text with
    | 'n' :: 'u' :: 'l' :: 'l' :: rest => some (.null, rest)
    | 't' :: 'r' :: 'u' :: 'e' :: rest => some (.bool true, rest)
    | 'f' :: 'a' :: 'l' :: 's' :: 'e' :: rest => some (.bool false, rest)
    | '"' :: rest => (stringTail [] rest).map fun (s, rest) => (.str s, rest)
    | '[' :: rest =>
      match skipSpace rest with
      | ']' :: rest => some (.arr [], rest)
      | rest => itemsAt fuel [] rest
    | '{' :: rest =>
      match skipSpace rest with
      | '}' :: rest => some (.obj [], rest)
      | rest => fieldsAt fuel [] rest
    | text => number? text

/-- The items of an array and its end, with those read so far in reverse. -/
def itemsAt : Nat → List Json → List Char → Option (Json × List Char)
  | 0, _, _ => none
  | fuel + 1, read, text =>
    match valueAt fuel text with
    | none => none
    | some (item, rest) =>
      match skipSpace rest with
      | ',' :: rest => itemsAt fuel (item :: read) rest
      | ']' :: rest => some (.arr (item :: read).reverse, rest)
      | _ => none

/-- The fields of an object and its end, with those read so far in reverse. -/
def fieldsAt : Nat → List (String × Json) → List Char → Option (Json × List Char)
  | 0, _, _ => none
  | fuel + 1, read, text =>
    match skipSpace text with
    | '"' :: rest =>
      match stringTail [] rest with
      | none => none
      | some (name, rest) =>
        match skipSpace rest with
        | ':' :: rest =>
          match valueAt fuel rest with
          | none => none
          | some (value, rest) =>
            match skipSpace rest with
            | ',' :: rest => fieldsAt fuel ((name, value) :: read) rest
            | '}' :: rest => some (.obj ((name, value) :: read).reverse, rest)
            | _ => none
        | _ => none
    | _ => none

end

/-- The value that a text consists of. -/
def ofString? (text : String) : Option Json :=
  let chars := text.toList
  match valueAt (chars.length + 1) chars with
  | some (value, rest) => if (skipSpace rest).isEmpty then some value else none
  | none => none

end CodeAtlas.Json

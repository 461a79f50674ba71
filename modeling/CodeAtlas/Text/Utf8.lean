/-!
Text from bytes.

Bytes that are not well-formed are replaced: every longest stretch that could have begun a character, or else every
single byte, becomes one replacement character.
-/
namespace CodeAtlas.Text

/-- What stands for bytes that are no character. -/
def replacement : Char := Char.ofNat 0xfffd

/-- What is read of the present character. -/
inductive Utf8State where
  /-- Between characters. -/
  | between
  /-- More bytes are to come: how many, the range of the next one, and the value so far. -/
  | inside (needed low high value : Nat)
deriving DecidableEq, Repr

/-- The effect of the first byte of a character. -/
def firstByte (b : Nat) : List Char × Utf8State :=
  if b < 0x80 then ([Char.ofNat b], .between)
  else if 0xc2 ≤ b && b ≤ 0xdf then ([], .inside 1 0x80 0xbf (b - 0xc0))
  else if b == 0xe0 then ([], .inside 2 0xa0 0xbf 0)
  else if b == 0xed then ([], .inside 2 0x80 0x9f (b - 0xe0))
  else if 0xe1 ≤ b && b ≤ 0xef then ([], .inside 2 0x80 0xbf (b - 0xe0))
  else if b == 0xf0 then ([], .inside 3 0x90 0xbf 0)
  else if b == 0xf4 then ([], .inside 3 0x80 0x8f (b - 0xf0))
  else if 0xf1 ≤ b && b ≤ 0xf3 then ([], .inside 3 0x80 0xbf (b - 0xf0))
  else ([replacement], .between)

/-- The effect of a byte. -/
def nextByte (b : Nat) : Utf8State → List Char × Utf8State
  | .between => firstByte b
  | .inside needed low high value =>
    if low ≤ b && b ≤ high then
      let value := value * 64 + (b - 0x80)
      if needed ≤ 1 then ([Char.ofNat value], .between) else ([], .inside (needed - 1) 0x80 0xbf value)
    else
      let (chars, state) := firstByte b
      (replacement :: chars, state)

/-- The characters of the bytes that are left. -/
def decodeFrom : Utf8State → List UInt8 → List Char
  | .between, [] => []
  | .inside _ _ _ _, [] => [replacement]
  | state, b :: rest =>
    let (chars, state) := nextByte b.toNat state
    chars ++ decodeFrom state rest

/-- The text of some bytes, with replacements where they are not well-formed. -/
def decodeLossy (bytes : ByteArray) : String :=
  match String.fromUTF8? bytes with
  | some text => text
  | none => String.ofList (decodeFrom .between bytes.data.toList)

/-! ### Bytes one by one -/

/-- Bytes, as the names and paths of files are made of. -/
abbrev Bytes := List UInt8

/-- The bytes of a text. -/
def bytes (s : String) : Bytes :=
  s.toList.flatMap String.utf8EncodeChar

/-- The text of some bytes, if they are well-formed. -/
def ofBytes? (b : Bytes) : Option String :=
  String.fromUTF8? ⟨b.toArray⟩

/-- The text that is shown for some bytes, with replacements where they are not well-formed. -/
def ofBytes (b : Bytes) : String :=
  decodeLossy ⟨b.toArray⟩

end CodeAtlas.Text

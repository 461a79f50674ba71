/-!
Small letters, for comparisons with words of plain letters.

Only characters whose small form is a plain letter matter there: the capitals of the alphabet and the Kelvin sign.
All others are left alone.
-/
namespace CodeAtlas.Text

/-- The small form of a character, if that is a plain letter. -/
def lowerPlain (c : Char) : Char :=
  if c == Char.ofNat 0x212a then 'k' else c.toLower

/-- A text in small plain letters. -/
def lowercase (s : String) : String :=
  String.ofList (s.toList.map lowerPlain)

/-- Whether a word occurs in a text. -/
def occursIn (word : List Char) : List Char → Bool
  | [] => word.isEmpty
  | c :: rest => word.isPrefixOf (c :: rest) || occursIn word rest

end CodeAtlas.Text

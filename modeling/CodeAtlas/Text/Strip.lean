import CodeAtlas.Text.Blank

/-!
Taking marks off the ends of a text, as often as they are there.
-/
namespace CodeAtlas.Text

/-- The text without the mark at its start, however often it stands there. -/
def stripStart (mark text : List Char) : List Char :=
  if _h : mark ≠ [] ∧ mark <+: text then stripStart mark (text.drop mark.length) else text
termination_by text.length
decreasing_by
  have := List.length_pos_iff.mpr _h.1
  have := _h.2.length_le
  simp only [List.length_drop]
  omega

/-- The text without the mark at its end, however often it stands there. -/
def stripEnd (mark text : List Char) : List Char :=
  (stripStart mark.reverse text.reverse).reverse

/-- The text without the characters at its two ends that satisfy `p`. -/
def stripBoth (p : Char → Bool) (text : List Char) : List Char :=
  dropEndWhile p (text.dropWhile p)

end CodeAtlas.Text

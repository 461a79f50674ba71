/-
What is kept of the text of a documentation comment.

A comment is written between `/*` and `*/`, and it is documentation if another asterisk
follows at once.  Its delimiters are taken off as often as they are there, each without
regard to the other.  Since a comment ends where `*/` occurs first, neither occurs a
second time, and all is well as long as the two have no character in common.  They have
one in the empty comment: there the asterisk of the end is taken for the one that marks
documentation, and a slash remains.

Lines are cut at line feeds.  A carriage return before one would go with it, but being
white space it is trimmed in any case, so `documentation` says nothing about it.
-/
import CodeAtlas.Outline.Documentation
import CodeAtlas.Proofs.Text.Trimming

namespace CodeAtlas.Outline

open CodeAtlas.Text

/-- A line without white space around it, and without the asterisks before its text. -/
def unstarred (line : List Char) : List Char :=
  trimList ((trimList line).dropWhile (· == '*'))

/-- The lines of a text that are not empty without their asterisks, if there are any. -/
def documentation (text : List Char) : Option String :=
  let kept := ((text.splitOn '\n').map unstarred).filter (· ≠ [])
  if kept.isEmpty then none else some ("\n".intercalate (kept.map String.ofList))

/-! ### Lines -/

theorem trimList_dropReturn (line : List Char) : trimList (dropReturn line) = trimList line := by
  unfold dropReturn
  split
  · next hlast =>
    obtain ⟨z, rfl⟩ := List.getLast?_eq_some_iff.mp hlast
    rw [List.dropLast_concat, trimList_concat_of_blank z (by decide)]
  · rfl

theorem unstarred_dropReturn (line : List Char) : unstarred (dropReturn line) = unstarred line := by
  rw [unstarred, trimList_dropReturn, unstarred]

theorem modifyHead_nil_append (l : List (List Char)) : l.modifyHead (([] : List Char).reverse ++ ·) = l := by
  cases l <;> rfl

/-- The lines of a text are its pieces between line feeds, except that some have a carriage return less and an empty
one at the end is missing. -/
theorem unstarred_linesFrom (line cs : List Char) :
    ((linesFrom line cs).map unstarred).filter (· ≠ []) =
      (((cs.splitOn '\n').modifyHead (line.reverse ++ ·)).map unstarred).filter (· ≠ []) := by
  induction cs generalizing line with
  | nil =>
      cases line with
      | nil => decide
      | cons c rest => simp [linesFrom]
  | cons c cs ih =>
      unfold linesFrom
      rw [List.splitOn, List.splitOnP_cons_eq_if_modifyHead, ← List.splitOn]
      by_cases hc : c = '\n'
      · have hrest := ih []
        rw [modifyHead_nil_append] at hrest
        rw [if_pos hc, if_pos (beq_iff_eq.mpr hc), List.modifyHead_cons, List.append_nil, List.map_cons,
          List.map_cons, unstarred_dropReturn, List.filter_cons, List.filter_cons, hrest]
      · rw [if_neg hc, if_neg (by simpa using hc), ih, List.modifyHead_modifyHead]
        simp [Function.comp_def]

theorem unstarred_lines (cs : List Char) :
    ((lines cs).map unstarred).filter (· ≠ []) = ((cs.splitOn '\n').map unstarred).filter (· ≠ []) := by
  have h := unstarred_linesFrom [] cs
  rwa [modifyHead_nil_append] at h

/-- Only what marks a comment as documentation and ends it is looked at in the text as a whole. -/
theorem cleanBlock_eq (text : String) : cleanBlock text =
    if ['/', '*', '*'] <+: text.toList then
      documentation (stripEnd ['*', '/'] (stripStart ['/', '*', '*'] text.toList))
    else none := by
  have hopen : "/**".toList = ['/', '*', '*'] := by decide
  have hclose : "*/".toList = ['*', '/'] := by decide
  unfold cleanBlock documentation
  rw [hopen, hclose, ← unstarred_lines]
  rfl

/-! ### Delimiters -/

theorem delimiters_off {rest : List Char} (h : ¬ ['*', '/'] <:+: '*' :: rest) :
    stripEnd ['*', '/'] (stripStart ['/', '*', '*'] (['/', '*', '*'] ++ (rest ++ ['*', '/']))) = rest := by
  have hstart : ¬ ['/', '*', '*'] <+: rest ++ ['*', '/'] := by
    intro hopen
    cases rest with
    | nil => exact absurd hopen (by decide)
    | cons c rest =>
        -- The asterisk before the text and the slash at its start would end the comment.
        rw [List.cons_append, List.cons_prefix_cons] at hopen
        obtain ⟨rfl, -⟩ := hopen
        exact h ⟨[], rest, rfl⟩
  have hend : ¬ ['*', '/'] <:+ rest := fun hclose => h (hclose.isInfix.trans (List.suffix_cons _ _).isInfix)
  rw [stripStart_append_mark (by simp), stripStart_eq_self hstart, stripEnd_append_mark (by simp),
    stripEnd_eq_self hend]

/--
**What is kept of a comment.**  It is the documentation after the asterisk that marks
it.  Without such an asterisk nothing is kept, except that a slash remains of the empty
comment.
-/
theorem cleanBlock_of_comment (b : String) (hb : ¬ "*/".toList <:+: b.toList) :
    cleanBlock ("/*" ++ b ++ "*/") =
      if b = "" then some "/"
      else if b.toList.head? = some '*' then documentation b.toList.tail
      else none := by
  by_cases hempty : b = ""
  · rw [if_pos hempty, hempty]
    decide +kernel
  · obtain ⟨c, rest, hchars⟩ := List.exists_cons_of_ne_nil (mt String.toList_eq_nil_iff.mp hempty)
    have htext : ("/*" ++ b ++ "*/").toList = '/' :: '*' :: c :: (rest ++ ['*', '/']) := by
      simp [String.toList_append, hchars]
    have hmarked : ['/', '*', '*'] <+: '/' :: '*' :: c :: (rest ++ ['*', '/']) ↔ c = '*' := by
      simp [eq_comm]
    rw [cleanBlock_eq, htext, if_neg hempty, hchars, List.head?_cons, List.tail_cons]
    by_cases hc : c = '*'
    · rw [hchars, hc] at hb
      rw [if_pos (hmarked.mpr hc), if_pos (congrArg some hc), hc]
      exact congrArg documentation (delimiters_off hb)
    · rw [if_neg (mt hmarked.mp hc), if_neg (mt Option.some_inj.mp hc)]

/-- Lines without text are left out. -/
theorem cleanBlock_of_several_lines :
    let b := "*\n * Adds *twice*.\r\n *\n **  Slowly. "
    ¬ "*/".toList <:+: b.toList ∧ cleanBlock ("/*" ++ b ++ "*/") = some "Adds *twice*.\nSlowly." := by
  intro b
  have hb : ¬ "*/".toList <:+: b.toList := by decide
  refine ⟨hb, ?_⟩
  rw [cleanBlock_of_comment b hb]
  decide +kernel

/-- The empty comment is not marked as documentation, and yet something is kept of it. -/
theorem cleanBlock_of_empty_comment :
    ¬ "*/".toList <:+: "".toList ∧ "".toList.head? ≠ some '*' ∧ cleanBlock ("/*" ++ "" ++ "*/") = some "/" := by
  decide +kernel

end CodeAtlas.Outline

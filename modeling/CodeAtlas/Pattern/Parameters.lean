import CodeAtlas.Text.Blank

/-!
The names in a list of parameters, told from its text alone.

The list is cut at the commas that stand in no brackets. Where the name stands in a piece depends on the language.
-/
namespace CodeAtlas.Pattern

open CodeAtlas.Text

/-- Where the name stands in a parameter. -/
inductive ParameterStyle where
  /-- Before a colon, or alone. -/
  | annotated
  /-- Before the type. -/
  | nameFirst
  /-- After the type. -/
  | nameLast
deriving DecidableEq, Repr

/-- How a character changes the depth of brackets. -/
def bracketChange (c : Char) : Int :=
  if c == '(' || c == '[' || c == '<' || c == '{' then 1
  else if c == ')' || c == ']' || c == '>' || c == '}' then -1
  else 0

/-- The pieces of a list between commas outside brackets; `piece` holds, in reverse, what is read of the present
one. -/
def piecesFrom (depth : Int) (piece : List Char) : List Char → List (List Char)
  | [] => [piece.reverse]
  | c :: rest =>
    if c == ',' && depth == 0 then piece.reverse :: piecesFrom depth [] rest
    else piecesFrom (depth + bracketChange c) (c :: piece) rest

/-- The pieces of a list of parameters. -/
def pieces (text : List Char) : List (List Char) :=
  piecesFrom 0 [] text

/-- The nonempty stretches of a text between characters that satisfy `p`; `part` holds, in reverse, what is read of
the present one. -/
def partsFrom (p : Char → Bool) (part : List Char) : List Char → List (List Char)
  | [] => if part.isEmpty then [] else [part.reverse]
  | c :: rest =>
    if p c then
      if part.isEmpty then partsFrom p [] rest else part.reverse :: partsFrom p [] rest
    else partsFrom p (c :: part) rest

/-- The nonempty stretches of a text between characters that satisfy `p`. -/
def parts (p : Char → Bool) (text : List Char) : List (List Char) :=
  partsFrom p [] text

/-- The name in a piece that is neither blank nor has a default value. -/
def nameIn (style : ParameterStyle) (piece : List Char) : Option (List Char) :=
  match style with
  | .annotated =>
    (parts isBlank (piece.takeWhile (· != ':'))).getLast?.map fun name =>
      dropEndWhile (· == '?') (name.dropWhile fun c => c == '&' || c == '.')
  | .nameFirst => (parts isBlank piece).head?
  | .nameLast =>
    if piece == "void".toList || !piece.any (fun c => isBlank c || c == '*') then none
    else (parts (fun c => isBlank c || c == '*' || c == '&') piece).getLast?.map
      (·.takeWhile (· != '['))

/-- The name in a piece, if there is one. -/
def parameterName? (style : ParameterStyle) (piece : List Char) : Option (List Char) :=
  let piece := trimList (piece.takeWhile (· != '='))
  if piece.isEmpty then none
  else (nameIn style piece).filter (· ≠ [])

/-- The names in a list of parameters. -/
def parameterNames (style : ParameterStyle) (text : String) : List String :=
  ((pieces text.toList).filterMap (parameterName? style)).map String.ofList

end CodeAtlas.Pattern

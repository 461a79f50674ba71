import CodeAtlas.Ignore.Glob

/-!
Reading patterns for paths.

A backslash takes the next character literally. A bracket that is never closed stands for itself, and so do all
brackets after it. Two asterisks mean directories only where slashes or the ends of the pattern are around them.
-/
namespace CodeAtlas.Ignore

/-- What is read of a set in brackets. -/
structure SetReading where
  ranges : List (Char × Char)
  first : Bool
  inRange : Bool

/-- What becomes of a set in brackets. -/
inductive SetResult where
  | closed (ranges : List (Char × Char)) (rest : List Char)
  | unclosed
  | failed (e : GlobError)

/-- The ranges with the last one ending at a character. -/
def extendLast (high : Char) : List (Char × Char) → Except GlobError (List (Char × Char))
  | [] => .ok []
  | [(low, _)] => if high < low then .error (.invalidRange low high) else .ok [(low, high)]
  | r :: rest => (extendLast high rest).map (r :: ·)

/-- Reads the members of a set up to its closing bracket. A closing bracket that comes first is a member, and so is a
hyphen at either end. -/
def readSet (s : SetReading) : List Char → SetResult
  | [] => .unclosed
  | c :: rest =>
    if c == ']' && !s.first then
      .closed (if s.inRange then s.ranges ++ [('-', '-')] else s.ranges) rest
    else if c == '-' && !s.first && !s.inRange then readSet { s with inRange := true } rest
    else if s.inRange then
      match extendLast c s.ranges with
      | .ok ranges => readSet ⟨ranges, false, false⟩ rest
      | .error e => .failed e
    else readSet ⟨s.ranges ++ [(c, c)], false, false⟩ rest

theorem readSet_length {s : SetReading} {text rest : List Char} {ranges : List (Char × Char)}
    (h : readSet s text = .closed ranges rest) : rest.length < text.length := by
  induction text generalizing s with
  | nil => simp [readSet] at h
  | cons c text ih =>
    simp only [readSet] at h
    split at h
    · simp only [SetResult.closed.injEq] at h
      simp [← h.2]
    · split at h
      · exact Nat.lt_succ_of_lt (ih h)
      · split at h
        · split at h
          · exact Nat.lt_succ_of_lt (ih h)
          · cases h
        · exact Nat.lt_succ_of_lt (ih h)

/-- What is read of a pattern. -/
structure GlobReading where
  /-- The branches before the present one, last one first. -/
  done : List (List GlobToken)
  /-- The present branch, last part first. -/
  current : List GlobToken
  /-- For each open group of alternatives, how many branches there were before it. -/
  groups : List Nat
  /-- The character before. -/
  previous : Option Char
  /-- Whether some bracket is never closed. -/
  unclosed : Bool

namespace GlobReading

/-- Adds a part that ended with the given character. -/
def push (g : GlobReading) (t : GlobToken) (last : Char) : GlobReading :=
  { g with current := t :: g.current, previous := some last }

/-- Begins another branch. -/
def branch (g : GlobReading) (last : Char) : GlobReading :=
  { g with done := g.current :: g.done, current := [], previous := some last }

/-- Opens a group of alternatives. -/
def openGroup (g : GlobReading) : GlobReading :=
  { g.branch '{' with groups := (g.done.length + 1) :: g.groups }

/-- Closes a group of alternatives. -/
def closeGroup (g : GlobReading) : Except GlobError GlobReading :=
  match g.groups with
  | [] => .error .unopenedAlternatives
  | before :: groups =>
    let inside := g.done.take (g.done.length - before)
    let branches := (g.current :: inside).reverse.map List.reverse
    match g.done.drop inside.length with
    | [] => .error .unopenedAlternatives
    | outer :: done =>
      .ok { g with done, current := .alternatives branches :: outer, groups, previous := some '}' }

/-- Two asterisks that mean no more than one. -/
def plainStars (g : GlobReading) : GlobReading :=
  (g.push .star '*').push .star '*'

/-- Replaces the last part by one for directories, unless it is one already. -/
def replaceLast (g : GlobReading) (t : GlobToken) (last : Char) : GlobReading :=
  let kept := match g.current with
    | .directoriesFirst :: rest => .directoriesFirst :: rest
    | .directoriesLast :: rest => .directoriesLast :: rest
    | _ :: rest => t :: rest
    | [] => [t]
  { g with current := kept, previous := some last }

/-- Two asterisks, before the given rest: the reading after them, and whether the next slash is part of them. -/
def doubleStar (g : GlobReading) (rest : List Char) : GlobReading × Bool :=
  let atEnd := rest.isEmpty
  let atSlash := rest.head? == some '/'
  if g.current.isEmpty then
    if atEnd then (g.push .directoriesFirst '*', false)
    else if atSlash then (g.push .directoriesFirst '/', true)
    else (g.plainStars, false)
  else if g.previous != some '/' then (g.plainStars, false)
  else if atEnd || (!g.done.isEmpty && (rest.head? == some ',' || rest.head? == some '}')) then
    (g.replaceLast .directoriesLast '*', false)
  else if atSlash then (g.replaceLast .directories '/', true)
  else (g.plainStars, false)

/-- Reads the rest of a pattern. -/
def readOn (g : GlobReading) (text : List Char) : Except GlobError GlobReading :=
  match text with
  | [] => .ok g
  | '?' :: rest => readOn (g.push .any '?') rest
  | '*' :: '*' :: rest =>
    match g.doubleStar rest with
    | (g, true) => readOn g rest.tail
    | (g, false) => readOn g rest
  | '*' :: rest => readOn (g.push .star '*') rest
  | '[' :: rest =>
    let negated := rest.head? == some '!' || rest.head? == some '^'
    let members := if negated then rest.tail else rest
    if g.unclosed then readOn (g.push (.literal '[') '[') rest
    else match _h : readSet ⟨[], true, false⟩ members with
      | .failed e => .error e
      | .unclosed => readOn { g.push (.literal '[') '[' with unclosed := true } rest
      | .closed ranges rest' => readOn (g.push (.oneOf negated ranges) ']') rest'
  | '{' :: rest => readOn g.openGroup rest
  | '}' :: rest =>
    match g.closeGroup with
    | .error e => .error e
    | .ok g => readOn g rest
  | ',' :: rest =>
    if g.groups.isEmpty then readOn (g.push (.literal ',') ',') rest else readOn (g.branch ',') rest
  | ['\\'] => .error .danglingEscape
  | '\\' :: c :: rest => readOn (g.push (.literal c) c) rest
  | c :: rest => readOn (g.push (.literal c) c) rest
termination_by text.length
decreasing_by
  all_goals simp_wf
  all_goals try omega
  · have := readSet_length _h
    have : members.length ≤ rest.length := by
      simp only [members]
      split <;> simp
    omega

end GlobReading

/-- The pattern that a text describes. -/
def Glob.ofString (text : String) : Except GlobError Glob :=
  match GlobReading.readOn ⟨[], [], [], none, false⟩ text.toList with
  | .error e => .error e
  | .ok g => if g.done.isEmpty then .ok ⟨g.current.reverse⟩ else .error .unclosedAlternatives

end CodeAtlas.Ignore

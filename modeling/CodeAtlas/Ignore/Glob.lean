import CodeAtlas.Path.Basic

/-!
Patterns for paths.

A pattern is matched against all bytes of a path. A question mark stands for one byte and an asterisk for any number
of them, but neither for a slash; two asterisks between slashes stand for any number of directories. There are sets
of bytes in brackets and alternatives in braces.
-/
namespace CodeAtlas.Ignore

open CodeAtlas.Path (slash)
open CodeAtlas.Text (Bytes)

/-- A part of a pattern. -/
inductive GlobToken where
  /-- The bytes of a character. -/
  | literal (c : Char)
  /-- One byte other than a slash. -/
  | any
  /-- Any number of bytes other than slashes. -/
  | star
  /-- Any number of directories at the start. -/
  | directoriesFirst
  /-- Everything below a directory, at the end. -/
  | directoriesLast
  /-- Any number of directories in between. -/
  | directories
  /-- One byte of the given ranges, or of none of them. -/
  | oneOf (negated : Bool) (ranges : List (Char × Char))
  /-- One of several patterns. -/
  | alternatives (branches : List (List GlobToken))
deriving Repr

/-- Why a pattern cannot be read. -/
inductive GlobError where
  | invalidRange (low high : Char)
  | unopenedAlternatives
  | unclosedAlternatives
  | danglingEscape
deriving DecidableEq, Repr

/-- The wording of an error. -/
def GlobError.message : GlobError → String
  | .invalidRange low high => s!"invalid range; '{low}' > '{high}'"
  | .unopenedAlternatives => "unopened alternate group; missing '\x7b' (maybe escape '\x7d' with '[\x7d]'?)"
  | .unclosedAlternatives => "unclosed alternate group; missing '\x7d' (maybe escape '\x7b' with '[\x7b]'?)"
  | .danglingEscape => "dangling '\\'"

/-! ### Matching -/

/-- Reads fixed bytes and goes on. -/
def readBytes : Bytes → (Bytes → Bool) → Bytes → Bool
  | [], next, path => next path
  | b :: bytes, next, c :: path => b == c && readBytes bytes next path
  | _ :: _, _, [] => false

/-- Goes on after some bytes other than slashes. -/
def afterSegment (next : Bytes → Bool) : Bytes → Bool
  | [] => next []
  | c :: path => next (c :: path) || (c != slash && afterSegment next path)

/-- Goes on after some slash. -/
def afterSlash (next : Bytes → Bool) : Bytes → Bool
  | [] => false
  | c :: path => (c == slash && next path) || afterSlash next path

/-- Goes on anywhere. -/
def anywhere (next : Bytes → Bool) : Bytes → Bool
  | [] => next []
  | c :: path => next (c :: path) || anywhere next path

/-- Whether a byte is in a set given by ranges of characters. Of characters with several bytes, every byte counts for
itself, and a range goes from the last byte of one to the first of the other. -/
def inRange (b : UInt8) (range : Char × Char) : Bool :=
  if range.1 == range.2 then (String.utf8EncodeChar range.1).contains b
  else
    let low := String.utf8EncodeChar range.1
    let high := String.utf8EncodeChar range.2
    low.contains b || high.contains b || (low.getLast?.any (· ≤ b) && high.head?.any (b ≤ ·))

mutual

/-- Whether a part of a pattern says nothing. -/
def GlobToken.isVoid : GlobToken → Bool
  | .alternatives branches => GlobToken.areVoid branches
  | _ => false

/-- Whether a pattern says nothing. -/
def GlobToken.allVoid : List GlobToken → Bool
  | [] => true
  | t :: rest => t.isVoid && GlobToken.allVoid rest

/-- Whether some patterns say nothing. -/
def GlobToken.areVoid : List (List GlobToken) → Bool
  | [] => true
  | ts :: rest => GlobToken.allVoid ts && GlobToken.areVoid rest

end

mutual

/-- Whether a path begins with a part of a pattern such that one can go on. -/
def GlobToken.run : GlobToken → (Bytes → Bool) → Bytes → Bool
  | .literal c, next, path => readBytes (String.utf8EncodeChar c) next path
  | .any, next, path =>
    match path with
    | c :: path => c != slash && next path
    | [] => false
  | .star, next, path => afterSegment next path
  | .directoriesFirst, next, path => next path || afterSlash next path
  | .directoriesLast, next, path =>
    match path with
    | c :: path => c == slash && anywhere next path
    | [] => false
  | .directories, next, path =>
    match path with
    | c :: path => c == slash && (next path || afterSlash next path)
    | [] => false
  | .oneOf negated ranges, next, path =>
    match path with
    | c :: path => (ranges.any (inRange c) != negated) && next path
    | [] => false
  | .alternatives branches, next, path =>
    if GlobToken.areVoid branches then next path else GlobToken.runAny branches next path

/-- Whether a path begins with a pattern such that one can go on. -/
def GlobToken.runAll : List GlobToken → (Bytes → Bool) → Bytes → Bool
  | [], next, path => next path
  | t :: rest, next, path => t.run (fun path => GlobToken.runAll rest next path) path

/-- Whether a path begins with one of some patterns such that one can go on; those that say nothing do not count. -/
def GlobToken.runAny : List (List GlobToken) → (Bytes → Bool) → Bytes → Bool
  | [], _, _ => false
  | ts :: rest, next, path =>
    (!GlobToken.allVoid ts && GlobToken.runAll ts next path) || GlobToken.runAny rest next path

end

/-- A pattern for paths. -/
structure Glob where
  tokens : List GlobToken

/-- Whether a pattern is two asterisks and nothing else, which fits every path. -/
def Glob.isEverything (g : Glob) : Bool :=
  match g.tokens with
  | [.directoriesFirst] => true
  | _ => false

/-- Whether a pattern fits a path. -/
def Glob.fits (g : Glob) (path : Bytes) : Bool :=
  g.isEverything || GlobToken.runAll g.tokens List.isEmpty path

end CodeAtlas.Ignore

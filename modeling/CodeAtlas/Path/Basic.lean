import CodeAtlas.Text.Utf8

/-!
Paths as bytes.

Segments are divided by slashes. Empty segments and segments that are a single point say nothing, except for a point
at the very start. Nothing is looked up on a disk here, and the bytes need not be a text.
-/
namespace CodeAtlas.Path

open CodeAtlas.Text (Bytes)

/-- The byte of a slash. -/
def slash : UInt8 := 47

/-- The byte of a point. -/
def point : UInt8 := 46

/-- The segment that leads to the parent. -/
def toParent : Bytes := [point, point]

/-- The segments of a path between slashes; `segment` holds, in reverse, what is read of the present one. -/
def segmentsFrom (segment : Bytes) : Bytes → List Bytes
  | [] => [segment.reverse]
  | b :: rest =>
    if b == slash then segment.reverse :: segmentsFrom [] rest else segmentsFrom (b :: segment) rest

/-- The segments of a path between slashes, also those that say nothing. -/
def segments (path : Bytes) : List Bytes :=
  segmentsFrom [] path

/-- The segments that say something. -/
def steps (path : Bytes) : List Bytes :=
  (segments path).filter fun s => s != [] && s != [point]

/-- Whether a path begins at the root. -/
def isAbsolute (path : Bytes) : Bool :=
  path.head? == some slash

/-- The name at the end of a path. A step to the parent is no name. -/
def fileName? (path : Bytes) : Option Bytes :=
  (steps path).getLast?.filter (· != toParent)

/-- What follows the last point of a name, unless that point is its first byte. -/
def nameExtension? (name : Bytes) : Option Bytes :=
  let reversed := name.reverse
  let after := reversed.takeWhile (· != point)
  match reversed.drop after.length with
  | _point :: before => if before.isEmpty || name == toParent then none else some after.reverse
  | [] => none

/-- The extension of the name at the end of a path. -/
def extension? (path : Bytes) : Option Bytes :=
  (fileName? path).bind nameExtension?

/-- A path below another one. An absolute path replaces the other; the slash between them is not doubled. -/
def join (base path : Bytes) : Bytes :=
  if isAbsolute path then path
  else if base.isEmpty || base.getLast? == some slash then base ++ path
  else base ++ slash :: path

/-- The path of what stands under some names below another path. -/
def below (base : Bytes) (names : List Bytes) : Bytes :=
  names.foldl join base

/-- Some names with slashes between them. -/
def ofNames : List Bytes → Bytes
  | [] => []
  | [name] => name
  | name :: rest => name ++ slash :: ofNames rest

/-- A path in reverse without slashes and meaningless points at its end. -/
def trimTail : Bytes → Bytes
  | [47] => [47]
  | 47 :: rest => trimTail rest
  | 46 :: 47 :: rest => if rest.isEmpty then [47] else trimTail (47 :: rest)
  | bs => bs

/-- The path without its last segment, if it has one. -/
def parent? (path : Bytes) : Option Bytes :=
  match trimTail path.reverse with
  | [] | [47] => none
  | bs => some (trimTail (bs.dropWhile (· != slash))).reverse

theorem length_trimTail_le (bs : Bytes) : (trimTail bs).length ≤ bs.length := by
  fun_induction trimTail bs <;> simp_all <;> omega

theorem eq_of_trimTail_slash {bs rest : Bytes} (h : trimTail bs = slash :: rest) : rest = [] := by
  fun_induction trimTail bs <;> simp_all [slash]

/-- The path of a parent is shorter. -/
theorem length_lt_of_parent? {path parent : Bytes} (h : parent? path = some parent) :
    parent.length < path.length := by
  unfold parent? at h
  have hle := length_trimTail_le path.reverse
  split at h
  · cases h
  · cases h
  · next hne hne' =>
    cases ht : trimTail path.reverse with
    | nil => exact absurd ht hne
    | cons b rest =>
      rw [ht] at h hle
      have hb : b ≠ slash := by
        rintro rfl
        exact hne' (by rw [ht, eq_of_trimTail_slash ht]; rfl)
      simp only [Option.some.injEq] at h
      subst h
      have h1 := length_trimTail_le (rest.dropWhile (· != slash))
      have h2 := (List.dropWhile_sublist (· != slash) (l := rest)).length_le
      simp [hb] at hle ⊢
      omega

end CodeAtlas.Path

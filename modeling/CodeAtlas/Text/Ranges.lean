/-!
Sets of characters given by a sorted list of places where membership changes. The first place is
where the set begins, the next where it stops, and so on, so a character is in the set when an odd
number of places lie at or below it. The number is found by bisection.
-/
namespace CodeAtlas.Text

/-- The number of entries of `bounds` in `[lo, hi)` or below that are at most `n`, when all entries
before `lo` are at most `n` and all from `hi` on are greater. -/
def countUpTo (bounds : Array Nat) (n : Nat) (lo hi : Nat) : Nat :=
  if lo < hi then
    let mid := (lo + hi) / 2
    if bounds.getD mid 0 ≤ n then countUpTo bounds n (mid + 1) hi
    else countUpTo bounds n lo mid
  else lo
termination_by hi - lo

/-- Whether `c` lies in the set whose membership changes at `bounds`. -/
def inRanges (bounds : Array Nat) (c : Char) : Bool :=
  countUpTo bounds c.toNat 0 bounds.size % 2 == 1

end CodeAtlas.Text

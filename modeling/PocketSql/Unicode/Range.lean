/-!
# Sets of code points as ranges

A property of characters is stored as the list of the code point ranges that have it, each range
given by its first and last member, in ascending order and with gaps between them. A search can
stop at the first range that begins beyond the code point.
-/

namespace PocketSql.Unicode

/-- Whether a code point lies in one of the ascending ranges. -/
def inRanges : List (Nat × Nat) → Nat → Bool
  | [], _ => false
  | (first, last) :: rest, point =>
      if point < first then false
      else if point ≤ last then true
      else inRanges rest point

end PocketSql.Unicode

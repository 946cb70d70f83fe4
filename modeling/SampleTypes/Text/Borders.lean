/-!
# Character classes as lists of borders

A set of code points is written as the increasing list of the points at which membership
changes, from "outside" below the first one.  A point is in the set when an odd number of
borders lies at or below it.

* `inside bs n`   membership of `n`.
-/

namespace SampleTypes.Text

/-- whether `n` lies in the set with these borders -/
def inside : List Nat → Nat → Bool
  | [], _ => false
  | b :: bs, n => if n < b then false else !inside bs n

end SampleTypes.Text

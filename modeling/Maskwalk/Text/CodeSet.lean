import Maskwalk.Text.Basic

/-!
# Sets of characters

Properties of characters that a standard lists range by range are kept as the code points at
which the property changes: the first code point that has it, the first that no longer has it, and
so on. A code point has the property when an odd number of the bounds are at most it, and
`holds` reads that off by changing its answer at every bound it passes.

## Main definitions

* `CodeSet`: the bounds of a set of code points, in increasing order.
* `CodeSet.holds`: whether a code point is in the set.
* `CodeSet.mem`: whether a character is in the set.
-/

namespace Maskwalk

/-- A set of code points, as the increasing list of those at which membership changes. -/
abbrev CodeSet := List Nat

namespace CodeSet

/-- Whether a code point is in the set: the answer changes at every bound up to it. -/
def holds : CodeSet → Nat → Bool
  | [], _ => false
  | bound :: more, n => if n < bound then false else !holds more n

/-- Whether a character is in the set. -/
def mem (set : CodeSet) (c : Char) : Bool := holds set c.toNat

end CodeSet

end Maskwalk

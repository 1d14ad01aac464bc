/-!
# Sets of code points

A set of code points is a list of closed intervals in ascending order. The tables of the other text modules
are such lists, and `inIntervals` reads them.
-/

namespace FormRules.Text

/-- Whether a code point lies in one of the intervals, which are given in ascending order. -/
def inIntervals (code : Nat) : List (Nat × Nat) → Bool
  | [] => false
  | (first, last) :: rest => if code < first then false else code ≤ last || inIntervals code rest

end FormRules.Text

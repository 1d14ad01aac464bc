import FormRules.Number.Decimal

/-!
# The shortest decimal that reads back

Every magnitude has an interval of numbers nearer to it than to its neighbours, ends included for an even
rank. The decimals that read back as the magnitude are those in the interval. `shortest` looks for one on
coarser grids first, the powers of ten downward; on a grid it takes the nearer of the two points around the
magnitude that lie in the interval.

The search reaches a grid finer than the interval in less than twenty steps; the exact value stands at its
end.
-/

namespace FormRules.Binary64

/-- Which of two equally near decimals is taken. -/
inductive TieRule where
  | up
  | toEven
  deriving DecidableEq, Repr

/-- The multiple of `step` that is nearest to `value` among the two around it which lie between `low` and
`high`, given as the multiplier. -/
def nearestMultiple? (tie : TieRule) (closed : Bool) (low value high step : Nat) : Option Nat :=
  let below := value / step
  let reads (k : Nat) : Bool :=
    if closed then low ≤ k * step && k * step ≤ high else low < k * step && k * step < high
  match reads below, reads (below + 1) with
  | true, true =>
    let rest := 2 * (value % step)
    if rest < step then some below
    else if step < rest then some (below + 1)
    else match tie with
      | .up => some (below + 1)
      | .toEven => some (if below % 2 = 0 then below else below + 1)
  | true, false => some below
  | false, true => some (below + 1)
  | false, false => none

/-- A decimal on the grid `10 ^ exponent` that reads back as the magnitude of rank `rank`. -/
def onGrid? (tie : TieRule) (rank : Nat) (exponent : Int) : Option Decimal :=
  let low := magnitude (rank - 1) + magnitude rank
  let value := 2 * magnitude rank
  let high := magnitude rank + magnitude (rank + 1)
  let closed := rank % 2 = 0
  let found := if exponent < 0 then
      let scale := Nat.pow 10 exponent.natAbs
      nearestMultiple? tie closed (low * scale) (value * scale) (high * scale) (2 * unitsPerOne)
    else nearestMultiple? tie closed low value high (2 * unitsPerOne * Nat.pow 10 exponent.natAbs)
  found.map (⟨·, exponent⟩)

/-- All digits of the magnitude of rank `rank`. -/
def exactDecimal (rank : Nat) : Decimal := ⟨magnitude rank * Nat.pow 5 1074, -1074⟩

/-- The first hit on the grids `10 ^ exponent` and finer ones, `steps` of them. -/
def searchGrids (tie : TieRule) (rank : Nat) (exponent : Int) : Nat → Decimal
  | 0 => exactDecimal rank
  | steps + 1 => (onGrid? tie rank exponent).getD (searchGrids tie rank (exponent - 1) steps)

/-- The exponent of a power of ten above the magnitude of rank `rank`, at most two places above. -/
def placesAbove (rank : Nat) : Int := ((Nat.log2 (magnitude rank) : Int) - 1073) * 30103 / 100000 + 1

/-- The decimal with the fewest digits that reads back as the magnitude of rank `rank`. -/
def shortest (tie : TieRule) (rank : Nat) : Decimal :=
  if rank = 0 then ⟨0, 0⟩ else searchGrids tie rank (placesAbove rank) 20

end FormRules.Binary64

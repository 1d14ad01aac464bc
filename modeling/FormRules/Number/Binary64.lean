/-!
# Binary floating-point numbers of 64 bits

A finite number is a sign and the rank of its magnitude: rank `r` is the `r`-th magnitude, counted from zero,
so the order of ranks is the order of magnitudes, and each number has one representation.

* `magnitude r` is the magnitude of rank `r` as a whole number of units of `2 ^ (-1074)`;
* `nearestRank` rounds a fraction of units to the nearest rank, a tie to the even one, and `ofUnits` makes a
  number of it, infinite from rank `rankCount` on;
* `compare?` orders all numbers but `nan`, and takes the two zeros as equal.
-/

namespace FormRules

/-- How many magnitudes a binade has. -/
def binadeSize : Nat := 1 <<< 52

/-- The number of finite magnitudes: 2047 binades, the first of them subnormal. -/
def rankCount : Nat := 2047 * binadeSize

inductive Binary64 where
  | nan
  | infinite (negative : Bool)
  | finite (negative : Bool) (rank : Fin rankCount)
  deriving DecidableEq

namespace Binary64

/-- How many units of `2 ^ (-1074)` make `1`. -/
def unitsPerOne : Nat := 1 <<< 1074

/-- The whole number of at most 53 bits that the magnitude of rank `rank` is a power of two times. -/
def significand (rank : Nat) : Nat := if rank < binadeSize then rank else binadeSize + rank % binadeSize

/-- How many times the significand is doubled, counted in units of `2 ^ (-1074)`. -/
def doublings (rank : Nat) : Nat := rank / binadeSize - 1

/-- The magnitude of rank `rank` in units of `2 ^ (-1074)`. -/
def magnitude (rank : Nat) : Nat := significand rank <<< doublings rank

/-- The whole number nearest to `num / den`; a tie goes to the even one. -/
def divToEven (num den : Nat) : Nat :=
  let quotient := num / den
  let twice := 2 * (num % den)
  if twice < den ∨ (twice = den ∧ quotient % 2 = 0) then quotient else quotient + 1

/-- The rank nearest to `num / den` units; a tie goes to the even rank. From `rankCount` on it stands for a
magnitude beyond the finite ones. -/
def nearestRank (num den : Nat) : Nat :=
  let shift := Nat.log2 (num / den) - 52
  shift * binadeSize + divToEven num (den <<< shift)

/-- The number nearest to `num / den` units of `2 ^ (-1074)`, with the given sign. -/
def ofUnits (negative : Bool) (num den : Nat) : Binary64 :=
  let rank := nearestRank num den
  if h : rank < rankCount then .finite negative ⟨rank, h⟩ else .infinite negative

/-- Zero with the given sign. -/
def zero (negative : Bool) : Binary64 := .finite negative ⟨0, by decide⟩

instance : Inhabited Binary64 := ⟨zero false⟩

/-- The number nearest to a whole number. -/
def ofInt (n : Int) : Binary64 := ofUnits (n < 0) (n.natAbs * unitsPerOne) 1

def ofNat (n : Nat) : Binary64 := ofInt n

def isNaN (x : Binary64) : Bool := x = nan

def isFinite : Binary64 → Bool
  | finite _ _ => true
  | _ => false

/-- Zero of either sign. -/
def isZero : Binary64 → Bool
  | finite _ rank => rank.val = 0
  | _ => false

/-- A finite number without a fraction. -/
def isWhole : Binary64 → Bool
  | finite _ rank => magnitude rank % unitsPerOne = 0
  | _ => false

/-- `n` or `-n`. -/
def signed (negative : Bool) (n : Nat) : Int := if negative then -n else n

/-- The place on the number line: zero for both zeros, the rank with the sign otherwise, and one place beyond
the finite numbers for the infinite ones. -/
def place? : Binary64 → Option Int
  | nan => none
  | infinite negative => some (signed negative rankCount)
  | finite negative rank => some (signed negative rank)

/-- The order of two numbers; there is none when one of them is `nan`. -/
def compare? (x y : Binary64) : Option Ordering := do
  return compare (← x.place?) (← y.place?)

/-- The whole part in units of one, toward zero; `nan` and infinities have none. -/
def wholePart? : Binary64 → Option Int
  | finite negative rank => some (signed negative (magnitude rank / unitsPerOne))
  | _ => none

/-- The whole part held between `low` and `high`; `nan` counts as zero. -/
def clampedWhole (low high : Int) (x : Binary64) : Int :=
  match x with
  | nan => 0
  | infinite negative => if negative then low else high
  | finite negative rank => max low (min high (signed negative (magnitude rank / unitsPerOne)))

end Binary64

end FormRules

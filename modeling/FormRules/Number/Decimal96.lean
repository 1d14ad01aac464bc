import FormRules.Number.Binary64

/-!
# Decimals of 96 bits

A number is shown with a fixed count of decimal places through a decimal number whose coefficient has at most
96 bits. `ofBinary64?` turns a binary number into such a decimal with about sixteen digits and at most 28
places: powers of two are traded for powers of ten, and digits that do not fit are given up. `rounded` rounds
a half away from zero, and `rescaled` adds zeros as far as the coefficient allows, even beyond 28 places. Only
zero itself never has more than 28.

The sign is carried along, also by a number that is too small for 28 places and becomes zero. Only a number
that is rounded to zero loses it.
-/

namespace FormRules

structure Decimal96 where
  negative : Bool
  coefficient : Nat
  scale : Nat
  deriving DecidableEq, Repr

namespace Decimal96

/-- Coefficients are below this. -/
def limit : Nat := 1 <<< 96

def maxScale : Nat := 28

/-- A coefficient and a power of ten. -/
structure Scaled where
  coefficient : Nat
  exponent : Int

/-- Divides by two `steps` times: halves the coefficient if it is even, else multiplies it by five and divides
by ten, and halves it with a loss where five times the coefficient does not fit. The power of ten starts at
`-steps` and grows with every halving. -/
def halve : (steps : Nat) → Scaled → Scaled
  | 0, s => s
  | steps + 1, ⟨m, e⟩ =>
    if m % 2 = 0 then halve steps ⟨m / 2, e + 1⟩
    else if 5 * m < limit then halve steps ⟨5 * m, e⟩
    else halve steps ⟨m / 2, e + 1⟩

/-- Multiplies by two `steps` times: doubles the coefficient and divides by ten, or divides it by five with a
loss. The power of ten starts at `steps`. There is no result when the number is too large. -/
def double? : (steps : Nat) → Scaled → Option Scaled
  | 0, s => some s
  | steps + 1, ⟨m, e⟩ =>
    if m < limit / 2 then double? steps ⟨2 * m, e - 1⟩
    else if (steps : Int) + 1 < 2 * e then none
    else double? steps ⟨m / 5, e⟩

/-- Multiplies the coefficient by ten `steps` times, if it fits. -/
def grow? : (steps : Nat) → Nat → Option Nat
  | 0, m => some m
  | steps + 1, m => if 10 * m < limit then grow? steps (10 * m) else none

/-- A tenth, rounded by the digit removed. -/
def tenth (m : Nat) : Nat := if 5 ≤ m % 10 then m / 10 + 1 else m / 10

/-- Removes `steps` digits; a coefficient below ten leaves zero, whatever the digit. -/
def shrink : (steps : Nat) → Nat → Nat
  | 0, m => m
  | steps + 1, m => if m / 10 = 0 then 0 else shrink steps (tenth m)

/-- Removes digits until the coefficient has at most 52 bits or no places are left. -/
def trimDigits : (places : Nat) → Nat → Nat × Nat
  | 0, m => (m, 0)
  | places + 1, m => if 1 <<< 52 ≤ m then trimDigits places (tenth m) else (m, places + 1)

/-- Removes zeros at the end of the decimal places. -/
def trimZeros : (places : Nat) → Nat → Nat × Nat
  | 0, m => (m, 0)
  | places + 1, m => if m % 10 = 0 then trimZeros places (m / 10) else (m, places + 1)

/-- Makes a decimal of a coefficient and a power of ten. -/
def ofScaled? (negative : Bool) (s : Scaled) : Option Decimal96 := do
  let m ← grow? s.exponent.toNat s.coefficient
  let places := (-s.exponent).toNat
  let m := shrink (places - maxScale) m
  let (m, places) := trimDigits (min places maxScale) m
  let (m, places) := trimZeros places m
  return ⟨negative, m, places⟩

/-- The decimal of a finite number that is not too large, with the sign of the number. -/
def ofBinary64? : Binary64 → Option Decimal96
  | .finite negative rank =>
    if rank.val = 0 then some ⟨negative, 0, 0⟩
    else
      let m := Binary64.significand rank
      let exponent : Int := Binary64.doublings rank - 1074
      if exponent < 0 then ofScaled? negative (halve exponent.natAbs ⟨m, exponent⟩)
      else (double? exponent.natAbs ⟨m, exponent⟩).bind (ofScaled? negative)
  | _ => none

/-- The decimal rounded to at most `places` decimal places, a half away from zero. -/
def rounded (d : Decimal96) (places : Nat) : Decimal96 :=
  if d.scale ≤ places then d
  else
    let unit := Nat.pow 10 (d.scale - places)
    let m := if unit ≤ 2 * (d.coefficient % unit) then d.coefficient / unit + 1 else d.coefficient / unit
    ⟨d.negative && m ≠ 0, m, places⟩

/-- Adds up to `steps` zeros as far as the coefficient allows. -/
def addZeros : (steps : Nat) → Decimal96 → Decimal96
  | 0, d => d
  | steps + 1, d =>
    if 10 * d.coefficient < limit then
      addZeros steps { d with coefficient := 10 * d.coefficient, scale := d.scale + 1 }
    else d

/-- The decimal with zeros added up to `places` decimal places, as far as the coefficient allows. A zero,
which would allow any number of them, has at most the greatest scale. -/
def rescaled (d : Decimal96) (places : Nat) : Decimal96 :=
  if d.coefficient = 0 then { d with scale := max d.scale (min places maxScale) }
  else addZeros (places - d.scale) d

/-- The digits of the decimal, with a sign if it has one. -/
def text (d : Decimal96) : String :=
  let digits := Nat.toDigits 10 d.coefficient
  let digits := List.replicate (d.scale + 1 - digits.length) '0' ++ digits
  let whole := digits.take (digits.length - d.scale)
  let fraction := digits.drop (digits.length - d.scale)
  (if d.negative then "-" else "") ++ String.ofList whole ++
    if fraction.isEmpty then "" else "." ++ String.ofList fraction

end Decimal96

end FormRules

import FormRules.Number.Binary64

/-!
# Arithmetic of binary floating-point numbers

Each operation is the exact result rounded once to the nearest number. A result of zero has the sign that the
rules of the arithmetic give it: a sum of opposite numbers is positive, a product or quotient has the product
of the signs, and `floor` and `ceil` keep the sign of their argument.
-/

namespace FormRules.Binary64

def neg : Binary64 → Binary64
  | nan => nan
  | infinite negative => infinite !negative
  | finite negative rank => finite (!negative) rank

def abs : Binary64 → Binary64
  | nan => nan
  | infinite _ => infinite false
  | finite _ rank => finite false rank

def add : Binary64 → Binary64 → Binary64
  | nan, _ => nan
  | _, nan => nan
  | infinite a, infinite b => if a = b then infinite a else nan
  | infinite a, finite _ _ => infinite a
  | finite _ _, infinite b => infinite b
  | finite a m, finite b n =>
    let sum := signed a (magnitude m) + signed b (magnitude n)
    if sum = 0 then zero (a && b) else ofUnits (sum < 0) sum.natAbs 1

def sub (x y : Binary64) : Binary64 := add x (neg y)

def mul : Binary64 → Binary64 → Binary64
  | nan, _ => nan
  | _, nan => nan
  | infinite a, infinite b => infinite (a ^^ b)
  | infinite a, finite b n => if n.val = 0 then nan else infinite (a ^^ b)
  | finite a m, infinite b => if m.val = 0 then nan else infinite (a ^^ b)
  | finite a m, finite b n => ofUnits (a ^^ b) (magnitude m * magnitude n) unitsPerOne

def div : Binary64 → Binary64 → Binary64
  | nan, _ => nan
  | _, nan => nan
  | infinite _, infinite _ => nan
  | infinite a, finite b _ => infinite (a ^^ b)
  | finite a _, infinite b => zero (a ^^ b)
  | finite a m, finite b n =>
    if n.val = 0 then if m.val = 0 then nan else infinite (a ^^ b)
    else ofUnits (a ^^ b) (magnitude m * unitsPerOne) (magnitude n)

instance : Neg Binary64 := ⟨neg⟩
instance : Add Binary64 := ⟨add⟩
instance : Sub Binary64 := ⟨sub⟩
instance : Mul Binary64 := ⟨mul⟩
instance : Div Binary64 := ⟨div⟩

/-- The greatest whole number that is not above the number. -/
def floor : Binary64 → Binary64
  | finite negative rank =>
    let whole := magnitude rank / unitsPerOne
    let up := if negative ∧ magnitude rank % unitsPerOne ≠ 0 then 1 else 0
    ofUnits negative ((whole + up) * unitsPerOne) 1
  | x => x

/-- The least whole number that is not below the number. -/
def ceil (x : Binary64) : Binary64 := neg (floor (neg x))

/-- The smaller of two numbers, the second of equal ones; `nan` gives way to the other. -/
def min (x y : Binary64) : Binary64 :=
  match x.compare? y with
  | some .lt => x
  | some _ => y
  | none => if x = nan then y else x

/-- The greater of two numbers, the second of equal ones; `nan` gives way to the other. -/
def max (x y : Binary64) : Binary64 :=
  match x.compare? y with
  | some .gt => x
  | some _ => y
  | none => if x = nan then y else x

/-- `result * base ^ exponent` by repeated squaring. -/
def powerOnto (result base : Binary64) (exponent : Nat) : Binary64 :=
  if exponent = 0 then result
  else
    let result := if exponent % 2 = 1 then result * base else result
    powerOnto result (base * base) (exponent / 2)
termination_by exponent
decreasing_by omega

/-- A whole power by repeated squaring; a negative one is the reciprocal of the positive one. -/
def power (base : Binary64) (exponent : Int) : Binary64 :=
  let magnitude := powerOnto (ofNat 1) base exponent.natAbs
  if exponent < 0 then ofNat 1 / magnitude else magnitude

end FormRules.Binary64

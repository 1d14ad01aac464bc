import FormRules.Number.Shortest

/-!
# Texts of numbers

* `plain` writes the shortest digits positionally, never with an exponent, and a whole number without a point;
  of two equally near shortest digits it takes the upper;
* `display` is the text of a number in a form: a whole number below `10 ^ 15` loses the sign of zero;
* `exchange` is the notation of data files: there is always a point or an exponent, and an exponent stands
  from `10 ^ 16` on and below `10 ^ (-5)`; of two equally near shortest digits it takes the even one.
-/

namespace FormRules.Binary64

private def zeros (n : Nat) : String := String.ofList (List.replicate n '0')

/-- Digits with a point so that `places` of them stand before it; zeros fill the gap to the point. -/
def positional (digits : String) (places : Int) : String :=
  if places ≤ 0 then "0." ++ zeros places.natAbs ++ digits
  else if places.toNat < digits.length then
    String.ofList (digits.toList.take places.toNat) ++ "." ++ String.ofList (digits.toList.drop places.toNat)
  else digits ++ zeros (places.toNat - digits.length)

private def sign (negative : Bool) : String := if negative then "-" else ""

/-- The positional text of a number: `nan` has no sign, and a negative zero keeps it. -/
def plain : Binary64 → String
  | nan => "NaN"
  | infinite negative => sign negative ++ "inf"
  | finite negative rank =>
    let d := shortest .up rank
    let digits := toString d.digits
    sign negative ++ if rank.val = 0 then "0" else positional digits (digits.length + d.exponent)

/-- The text of a number in a form. -/
def display (x : Binary64) : String :=
  match x with
  | finite negative rank =>
    let whole := magnitude rank / unitsPerOne
    if magnitude rank % unitsPerOne = 0 ∧ whole < Nat.pow 10 15 then toString (signed negative whole)
    else x.plain
  | _ => x.plain

/-- The text of a finite number in a data file; other numbers have none. -/
def exchange? : Binary64 → Option String
  | finite negative rank =>
    let d := shortest .toEven rank
    let digits := toString d.digits
    let places := digits.length + d.exponent
    let text :=
      if rank.val = 0 then "0.0"
      else if -5 < places ∧ places ≤ 16 then
        positional digits places ++ if digits.length ≤ places then ".0" else ""
      else
        let exponent := places - 1
        let fraction := String.ofList (digits.toList.drop 1)
        String.ofList (digits.toList.take 1) ++ (if fraction.isEmpty then "" else "." ++ fraction) ++ "e" ++
          (if 0 < exponent then "+" else "") ++ toString exponent
    some (sign negative ++ text)
  | _ => none

end FormRules.Binary64

import FormRules.Calendar.Reader
import FormRules.Formula.Expr
import FormRules.Text.Case

/-!
# What built-in functions compute

`compute?` gives the result of a function that takes all its arguments evaluated. It reads the arguments by
their place and has no result where one that it needs is missing; the arities in `Builtin` leave no such case.

Instants are exchanged as texts in universal time, so their order is that of the texts.
-/

namespace FormRules.Formula

/-- The milliseconds since 1970 that a value stands for: a number of them, or a date. -/
def timestamp (value : Value) : Outcome Int :=
  match value.numeric? with
  | some x => .ok (x.clampedWhole Int64.minValue.toInt Int64.maxValue.toInt)
  | none =>
    let text := Text.trim value.toText
    match Calendar.readInstant? text.toList with
    | some t => .ok t.millis
    | none => .error (.failed (.notADate text))

/-- Whether `needle` stands somewhere in a text. -/
def occursIn (needle : List Char) : List Char → Bool
  | [] => needle.isEmpty
  | c :: rest => needle.isPrefixOf (c :: rest) || occursIn needle rest

/-- The sum from left to right; that of no numbers is the negative zero. -/
def total (xs : List Binary64) : Binary64 := xs.foldl (· + ·) (.zero true)

/-- The combination of some numbers from left to right, zero for none. -/
def combined (op : Binary64 → Binary64 → Binary64) : List Binary64 → Binary64
  | [] => .zero false
  | x :: xs => xs.foldl op x

/-- One half. -/
def half : Binary64 := .ofUnits false Binary64.unitsPerOne 2

/-- The number rounded to a count of decimal places, a half away from zero. -/
def roundPlaces (x : Binary64) (places : Int) : Binary64 :=
  let scale := Binary64.power (.ofNat 10) places
  match x.compare? (.zero false) with
  | some .lt | none => Binary64.ceil (x * scale - half) / scale
  | _ => Binary64.floor (x * scale + half) / scale

/-- The milliseconds of a unit of time; its name may be in the plural, and any other name is one
millisecond. -/
def unitMillis (unit : String) : Nat :=
  let name := Text.lower (Text.trim unit)
  let singular := String.ofList (name.toList.reverse.dropWhile (· = 's')).reverse
  match singular with
  | "day" => 86400000
  | "hour" => 3600000
  | "minute" => 60000
  | "second" => 1000
  | _ => 1

/-- The time between two dates in whole units. -/
def dateDifference (first second : Value) (unit : Nat) : Outcome Value := do
  let start ← timestamp first
  let stop ← timestamp second
  return .number (.ofNat ((stop - start).natAbs / unit))

namespace Builtin

open Value (text number boolean)

/-- The result of a function on its evaluated arguments at the instant `now`. -/
def compute? (f : Builtin) (now : Instant) (args : List Value) : Option (Outcome Value) :=
  match f, args with
  | .not, v :: _ => some (.ok (boolean !v.toBool))
  | .isBlank, v :: _ => some (.ok (boolean v.isBlank))
  | .isNotBlank, v :: _ => some (.ok (boolean !v.isBlank))
  | .contains, v :: w :: _ => some (.ok (boolean (occursIn w.toText.toList v.toText.toList)))
  | .len, v :: _ => some (.ok (number (.ofNat v.toText.length)))
  | .upper, v :: _ => some (.ok (text (Text.upper v.toText)))
  | .lower, v :: _ => some (.ok (text (Text.lower v.toText)))
  | .trim, v :: _ => some (.ok (text (Text.trim v.toText)))
  | .concat, vs => some (.ok (text (String.join (vs.map Value.toText))))
  | .sum, vs => some (.ok (number (total (vs.map Value.toNumber))))
  | .avg, [] => some (.ok (number (.zero false)))
  | .avg, vs => some (.ok (number (total (vs.map Value.toNumber) / .ofNat vs.length)))
  | .min, vs => some (.ok (number (combined Binary64.min (vs.map Value.toNumber))))
  | .max, vs => some (.ok (number (combined Binary64.max (vs.map Value.toNumber))))
  | .count, vs => some (.ok (number (.ofNat (vs.filter (!·.isBlank)).length)))
  | .round, [v] => some (.ok (number (roundPlaces v.toNumber 0)))
  | .round, v :: w :: _ =>
    let places := w.toNumber.clampedWhole Int32.minValue.toInt Int32.maxValue.toInt
    some (.ok (number (roundPlaces v.toNumber places)))
  | .abs, v :: _ => some (.ok (number v.toNumber.abs))
  | .now, _ => some (.ok (text now.text))
  | .today, _ => some (.ok (text now.date.text))
  | .dateDiff, [v, w] => some (dateDifference v w 1)
  | .dateDiff, v :: w :: unit :: _ => some (dateDifference v w (unitMillis unit.toText))
  | _, _ => none

end Builtin

end FormRules.Formula

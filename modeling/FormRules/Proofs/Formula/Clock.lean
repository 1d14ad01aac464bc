import FormRules.Proofs.Calendar.Order
import FormRules.Proofs.Formula.Comparing
import FormRules.Proofs.Formula.Evaluation
import FormRules.Proofs.Number.Rounding

/-!
# The clock in formulas

`NOW` and `TODAY` give the time of evaluation as a text. A formula that compares such a text takes it as a text, one
that reckons with it reads it back. Both agree (`clock_texts`): the texts have the order of the instants, to the
millisecond, or of the days, and what is read is the instant, or the first of its day, so that `DATEDIFF` counts the
whole units between two instants.
-/

namespace FormRules

namespace Instant

theorem dayNumber_of_not_leap {t : Instant} (h : t.leap = false) : t.dayNumber = t.millis / millisPerDay := by
  rw [dayNumber, clockMillis_of_not_leap h]

theorem millis_bounds {t : Instant} (h : 0 ≤ t.date.year ∧ t.date.year ≤ 9999) :
    -719528 * millisPerDay ≤ t.millis ∧ t.millis < 2932897 * millisPerDay + 1000 := by
  obtain ⟨hlow, hhigh⟩ := Date.toDays_bounds t.isValid_date h
  have hdays : t.date.toDays = t.clockMillis / 86400000 := t.toDays_date
  have hclock : t.clockMillis ≤ t.millis ∧ t.millis ≤ t.clockMillis + 1000 := by
    rw [clockMillis, clockNanos, millis]
    split <;> omega
  rw [hdays] at hlow hhigh
  simp only [millisPerDay]
  omega

end Instant

namespace Formula

open Calendar (readInstant?)
open Instant (millisPerDay)

/-- Formulas read the text as these milliseconds since 1970, and compare it as a text. -/
structure Denotes (s : String) (millis : Int) : Prop where
  numeric : (Value.text s).numeric? = none
  trimmed : Text.trim s = s
  read : (readInstant? s.toList).map Instant.millis = some millis

theorem denotes_now {t : Instant} (h : 0 ≤ t.date.year ∧ t.date.year ≤ 9999) : Denotes t.text t.millis where
  numeric := by
    rw [Value.numeric?, Instant.toList_text h]
    exact Date.wholeNumber?_chars h _
  trimmed := trim_of_forall (by simpa only [Instant.toList_text h] using fun _ => Calendar.Moment.isBlank_of_mem_chars)
  read := by rw [Instant.readInstant?_text h, Option.map_some, Instant.millis_floorMillis]

theorem denotes_today {t : Instant} (h : 0 ≤ t.date.year ∧ t.date.year ≤ 9999) :
    Denotes t.date.text (t.dayNumber * millisPerDay) where
  numeric := by
    rw [Value.numeric?, Date.toList_text h, ← List.append_nil t.date.chars]
    exact Date.wholeNumber?_chars h []
  trimmed := trim_of_forall (by simpa only [Date.toList_text h] using fun _ => Date.isBlank_of_mem_chars)
  read := by
    rw [Date.toList_text h, Calendar.readInstant?_date t.isValid_date h, Instant.ofDate, Instant.toDays_date,
      Option.map_some, Instant.millis_ofMillis]

theorem Denotes.timestamp {s : String} {millis : Int} (h : Denotes s millis) : timestamp (.text s) = .ok millis := by
  obtain ⟨t, hread, rfl⟩ := Option.map_eq_some_iff.mp h.read
  rw [Formula.timestamp, h.numeric]
  simp only [Value.toText, h.trimmed, hread]

theorem Denotes.holds {s : String} {millis : Int} (h : Denotes s millis) (s' : String) (op : ComparisonOp) :
    op.holds (.text s) (.text s') = op.holdsOf (some (compare s s')) := by
  rw [ComparisonOp.holds, compareValues_texts (.inl h.numeric)]
  rfl

/-- The outcome is a number that is exactly `n`. -/
def IsCount (outcome : Outcome Value) (n : Nat) : Prop :=
  ∃ x : Binary64, outcome = .ok (.number x) ∧ x.isWhole = true ∧ x.wholePart? = some (n : Int)

theorem Denotes.isCount_dateDifference {s s' : String} {millis millis' : Int} (h : Denotes s millis)
    (h' : Denotes s' millis') (unit : Nat) (hfew : (millis - millis').natAbs < 2 ^ 53) :
    IsCount (dateDifference (.text s) (.text s') unit) ((millis - millis').natAbs / unit) := by
  have hle := Nat.div_le_self (millis - millis').natAbs unit
  refine ⟨_, ?_, Binary64.ofNat_exact (Nat.lt_of_le_of_lt hle hfew)⟩
  rw [dateDifference, h.timestamp, h'.timestamp, ← Int.natAbs_neg, Int.neg_sub]
  rfl

/-- The units that `DATEDIFF` knows, with their milliseconds. -/
def timeUnits : List (String × Nat) := [("days", 86400000), ("hours", 3600000), ("minutes", 60000), ("seconds", 1000)]

theorem unitMillis_timeUnits : ∀ unit ∈ timeUnits, unitMillis unit.1 = unit.2 := by decide +kernel

/-! ### Calls -/

/-- A call on values that are at hand. -/
theorem evaluate_call_literals {name : String} {f : Builtin} (hf : Builtin.ofName? name = some f)
    (hexpandable : f.isExpandable = true) (ctx : Context) (values : List Value)
    (harity : f.checkArity values.length = .ok ()) :
    evaluate ctx (.call name (values.map .literal)) = f.apply ctx.now values := by
  have hvalues : evaluateAll ctx (values.map .literal) = .ok values := by
    clear harity
    induction values with
    | nil => rfl
    | cons v values ih =>
      rw [List.map_cons, evaluateAll, evaluate, ih]
      rfl
  rw [evaluate_call_expandable hf hexpandable, List.length_map, harity, hvalues]
  rfl

theorem evaluate_now (ctx : Context) : evaluate ctx (.call "NOW" []) = .ok (.text ctx.now.text) :=
  evaluate_call_literals (show Builtin.ofName? "NOW" = some .now by decide) rfl ctx [] rfl

theorem evaluate_today (ctx : Context) : evaluate ctx (.call "TODAY" []) = .ok (.text ctx.now.date.text) :=
  evaluate_call_literals (show Builtin.ofName? "TODAY" = some .today by decide) rfl ctx [] rfl

theorem ofName?_dateDiff : Builtin.ofName? "DATEDIFF" = some .dateDiff := by decide

theorem evaluate_dateDiff (ctx : Context) (v w : Value) :
    evaluate ctx (.call "DATEDIFF" [.literal v, .literal w]) = dateDifference v w 1 :=
  evaluate_call_literals ofName?_dateDiff rfl ctx [v, w] rfl

theorem evaluate_dateDiff_unit (ctx : Context) (v w unit : Value) :
    evaluate ctx (.call "DATEDIFF" [.literal v, .literal w, .literal unit]) =
      dateDifference v w (unitMillis unit.toText) :=
  evaluate_call_literals ofName?_dateDiff rfl ctx [v, w, unit] rfl

/-- For instants in the years 0 to 9999, what `NOW` and `TODAY` give is read back as the milliseconds of the instant
and of the first one of its day, compares as the instants and as their days, and `DATEDIFF` is the time between them
in whole units. What is beyond the millisecond is not in the texts; an instant without it is its own `floorMillis`
(`Instant.floorMillis_of_whole`). Without leap seconds the order of instants is that of their time since 1970
(`Instant.order_of_not_leap`) and so is their day (`Instant.dayNumber_of_not_leap`). -/
theorem clock_texts (ctx ctx' : Context) (hyear : 0 ≤ ctx.now.date.year ∧ ctx.now.date.year ≤ 9999)
    (hyear' : 0 ≤ ctx'.now.date.year ∧ ctx'.now.date.year ≤ 9999) :
    ∃ now now' today today' : Value,
      evaluate ctx (.call "NOW" []) = .ok now ∧ evaluate ctx' (.call "NOW" []) = .ok now' ∧
      evaluate ctx (.call "TODAY" []) = .ok today ∧ evaluate ctx' (.call "TODAY" []) = .ok today' ∧
      timestamp now = .ok ctx.now.millis ∧
      timestamp today = .ok (ctx.now.dayNumber * millisPerDay) ∧
      ∀ c : Context,
        (∀ op, evaluate c (.comparison op (.literal now) (.literal now')) =
          .ok (.boolean (op.holdsOf (some (ctx.now.floorMillis.order ctx'.now.floorMillis))))) ∧
        (∀ op, evaluate c (.comparison op (.literal today) (.literal today')) =
          .ok (.boolean (op.holdsOf (some (compare ctx.now.dayNumber ctx'.now.dayNumber))))) ∧
        IsCount (evaluate c (.call "DATEDIFF" [.literal now, .literal now']))
          (ctx.now.millis - ctx'.now.millis).natAbs ∧
        ∀ unit ∈ timeUnits, IsCount
          (evaluate c (.call "DATEDIFF" [.literal now, .literal now', .literal (.text unit.1)]))
          ((ctx.now.millis - ctx'.now.millis).natAbs / unit.2) := by
  have hnow := denotes_now hyear
  have hnow' := denotes_now hyear'
  have htoday := denotes_today hyear
  have hfew : (ctx.now.millis - ctx'.now.millis).natAbs < 2 ^ 53 := by
    have hbounds := Instant.millis_bounds hyear
    have hbounds' := Instant.millis_bounds hyear'
    simp only [millisPerDay] at hbounds hbounds'
    omega
  refine ⟨_, _, _, _, evaluate_now ctx, evaluate_now ctx', evaluate_today ctx, evaluate_today ctx', hnow.timestamp,
    htoday.timestamp, fun c => ⟨fun op => ?_, fun op => ?_, ?_, fun unit hunit => ?_⟩⟩
  · rw [← Instant.compare_text hyear hyear', ← hnow.holds]
    rfl
  · rw [← Instant.compare_dateText hyear hyear', ← htoday.holds]
    rfl
  · rw [evaluate_dateDiff]
    simpa only [Nat.div_one] using hnow.isCount_dateDifference hnow' 1 hfew
  · rw [evaluate_dateDiff_unit, Value.toText, unitMillis_timeUnits unit hunit]
    exact hnow.isCount_dateDifference hnow' unit.2 hfew

/-- Half a second into the leap second that ends 2016. -/
def leapSecondContext : Context := ⟨∅, ∅, .ofLeapSecond 24720479 500000000⟩

/-- A quarter of a second into 2017. -/
def newYearContext : Context := ⟨∅, ∅, .ofMillis 1483228800250⟩

/-- A leap second comes before the second with the same milliseconds, and its day is the one that it ends. -/
theorem clock_texts_leap_second :
    (0 ≤ leapSecondContext.now.date.year ∧ leapSecondContext.now.date.year ≤ 9999) ∧
      (0 ≤ newYearContext.now.date.year ∧ newYearContext.now.date.year ≤ 9999) ∧
      ∃ now now' today : Value,
        evaluate leapSecondContext (.call "NOW" []) = .ok now ∧ evaluate newYearContext (.call "NOW" []) = .ok now' ∧
        evaluate leapSecondContext (.call "TODAY" []) = .ok today ∧
        timestamp now = .ok 1483228800500 ∧ timestamp today = .ok 1483142400000 ∧
        evaluate newYearContext (.comparison .less (.literal now) (.literal now')) = .ok (.boolean true) ∧
        IsCount (evaluate newYearContext (.call "DATEDIFF" [.literal now, .literal now'])) 250 := by
  have hyear : 0 ≤ leapSecondContext.now.date.year ∧ leapSecondContext.now.date.year ≤ 9999 := by decide
  have hyear' : 0 ≤ newYearContext.now.date.year ∧ newYearContext.now.date.year ≤ 9999 := by decide
  have hmillis : leapSecondContext.now.millis = 1483228800500 := by decide
  have hmillis' : newYearContext.now.millis = 1483228800250 := by decide
  have hday : leapSecondContext.now.dayNumber * millisPerDay = 1483142400000 := by decide
  have horder : leapSecondContext.now.floorMillis.order newYearContext.now.floorMillis = .lt := by decide
  obtain ⟨now, now', today, today', hnow, hnow', htoday, -, hread, hstart, hall⟩ :=
    clock_texts leapSecondContext newYearContext hyear hyear'
  obtain ⟨hcompare, -, hcount, -⟩ := hall newYearContext
  rw [hmillis] at hread
  rw [hmillis, hmillis'] at hcount
  rw [hday] at hstart
  rw [horder] at hcompare
  exact ⟨hyear, hyear', now, now', today, hnow, hnow', htoday, hread, hstart, hcompare .less, hcount⟩

end Formula

end FormRules

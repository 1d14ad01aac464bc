import FormRules.Proofs.Calendar.Reading

/-!
# The order of instants and of their texts

The order of instants (`Instant.order`) is linear: only the same instant is neither before nor after (`order_eq_iff`),
and without leap seconds it is the order of the nanoseconds (`order_of_not_leap`). A wait that does not begin in a
leap second is added to them (`later_of_not_leap`), and any ends no earlier than it begins (`le_later`).

With years of four digits the texts of dates have the order of the days (`Date.compare_chars`) and the texts of
instants that of the instants to the millisecond (`Instant.compare_text`).
-/

namespace FormRules

open Date (padded)

/-- The order of dates whose year has four digits, and of what follows them, as texts. -/
theorem Date.compare_chars {d e : Date} (hd : d.isValid = true) (he : e.isValid = true)
    (hyear : 0 ≤ d.year ∧ d.year ≤ 9999) (hyear' : 0 ≤ e.year ∧ e.year ≤ 9999) (xs ys : List Char) :
    compare (d.chars ++ xs) (e.chars ++ ys) = (compare d.toDays e.toDays).then (compare xs ys) := by
  obtain ⟨hmonth, hday⟩ := lt_of_isValid hd
  obtain ⟨hmonth', hday'⟩ := lt_of_isValid he
  have habs : compare d.year.natAbs e.year.natAbs = compare d.year e.year := by
    rw [← compare_natCast, Int.natAbs_of_nonneg hyear.1, Int.natAbs_of_nonneg hyear'.1]
  have hhyphen : compare '-' '-' = .eq := by decide
  simp only [chars, List.append_assoc, List.cons_append]
  rw [compare_padded (by decide) (show d.year.natAbs < 10 ^ 4 by omega) (show e.year.natAbs < 10 ^ 4 by omega),
    List.compare_cons_cons, hhyphen, Ordering.eq_then, compare_padded (by decide) hmonth hmonth',
    List.compare_cons_cons, hhyphen, Ordering.eq_then, compare_padded (by decide) hday hday', habs,
    compare_toDays hd he]
  simp only [Ordering.then_assoc]

/-- The order of moments, part by part, is that of their texts. -/
theorem Calendar.Moment.compare_chars {m n : Moment} (hm : m.Written) (hn : n.Written) :
    compare m.chars n.chars =
      (compare m.date.toDays n.date.toDays).then ((compare m.hour n.hour).then ((compare m.minute n.minute).then
        ((compare m.second n.second).then (compare (m.nanos / 1000000) (n.nanos / 1000000))))) := by
  obtain ⟨hvalid, hyear, hhour, hminute, hsecond, hnanos, -⟩ := hm
  obtain ⟨hvalid', hyear', hhour', hminute', hsecond', hnanos', -⟩ := hn
  have hmark (c : Char) (xs ys : List Char) : compare (c :: xs) (c :: ys) = compare xs ys := by
    rw [List.compare_cons_cons, show compare c c = .eq from Std.ReflCmp.compare_self, Ordering.eq_then]
  have hpart {i j : Nat} (hi : i < 100) (hj : j < 100) := Date.compare_padded (show 0 < 2 by decide) hi hj
  rw [chars, chars, Date.compare_chars hvalid hvalid' hyear hyear', hmark, hpart (by omega) (by omega), hmark,
    hpart (by omega) (by omega), hmark, hpart (by omega) (by omega), hmark,
    Date.compare_padded (by decide) (by omega) (by omega), show compare ['Z'] ['Z'] = .eq by decide, Ordering.then_eq]

namespace Instant

theorem order_eq_iff {s t : Instant} : s.order t = .eq ↔ s = t := by
  have hflag : ∀ a b : Bool, compare a b = .eq ↔ b = a := by decide
  rw [order, Ordering.then_eq_eq, Ordering.then_eq_eq, Int.compare_eq_eq, Int.compare_eq_eq, hflag]
  constructor
  · rintro ⟨-, hleap, hnanos⟩
    exact eq_of_nanos hnanos hleap
  · rintro rfl
    exact ⟨rfl, rfl, rfl⟩

theorem order_of_not_leap {s t : Instant} (hs : s.leap = false) (ht : t.leap = false) :
    s.order t = compare s.nanos t.nanos := by
  rw [order, hs, ht, show compare false false = .eq by decide, Ordering.eq_then,
    compare_div_mod (show 0 < 1000000000 by decide) s.nanos, ← Ordering.then_assoc, Ordering.then_self]

theorem le_iff {s t : Instant} : s ≤ t ↔ s.nanos / 1000000000 < t.nanos / 1000000000 ∨
    s.nanos / 1000000000 = t.nanos / 1000000000 ∧
      (s.leap = true ∧ t.leap = false ∨ s.leap = t.leap ∧ s.nanos ≤ t.nanos) := by
  have hbefore : ∀ a b : Bool, compare b a = .lt ↔ a = true ∧ b = false := by decide
  have hsame : ∀ a b : Bool, compare b a = .eq ↔ a = b := by decide
  show (s.order t).isLE = true ↔ _
  rw [order, Ordering.isLE_then_iff_or, Ordering.isLE_then_iff_or, Int.compare_eq_lt, Int.compare_eq_eq, hbefore,
    hsame, Int.isLE_compare]

theorem le_of_nanos {s t : Instant} (hnanos : s.nanos ≤ t.nanos) (hleap : s.leap = t.leap) : s ≤ t := by
  rcases Int.lt_or_eq_of_le (Int.ediv_le_ediv (show 0 < 1000000000 by decide) hnanos) with hlt | heq
  · exact le_iff.mpr (.inl hlt)
  · exact le_iff.mpr (.inr ⟨heq, .inr ⟨hleap, hnanos⟩⟩)

theorem later_of_not_leap {t : Instant} (h : t.leap = false) (wait : Nat) :
    t.later wait = ofNanos (t.nanos + wait * 1000000) := by
  have hclock : t.clockNanos = t.nanos := by rw [clockNanos, h]; rfl
  rw [later, dif_neg (by simp [h]), hclock]

/-- A wait ends no earlier than it begins. -/
theorem le_later (t : Instant) (wait : Nat) : t ≤ t.later wait := by
  have hwait : t.nanos ≤ t.nanos + wait * 1000000 := by omega
  rcases Bool.eq_false_or_eq_true t.leap with hleap | hleap
  · rw [later]
    split
    · exact le_of_nanos hwait hleap
    · next hbeyond =>
      have hclock : t.clockNanos = t.nanos - 1000000000 := if_pos hleap
      have hlong : 1000000000 ≤ t.nanos % 1000000000 + wait * 1000000 := by
        simpa only [hleap, true_and, Int.not_lt] using hbeyond
      have hsecond : t.nanos / 1000000000 ≤ (t.clockNanos + wait * 1000000) / 1000000000 := by omega
      rcases Int.lt_or_eq_of_le hsecond with hlt | heq
      · exact le_iff.mpr (.inl hlt)
      · exact le_iff.mpr (.inr ⟨heq, .inl ⟨hleap, rfl⟩⟩)
  · rw [later_of_not_leap hleap]
    exact le_of_nanos hwait hleap

/-- Waits from the leap second that ends 2016: one ends in it, the other nine seconds and some into 2017. -/
example : (ofLeapSecond 24720479 300000000).later 100 = ofLeapSecond 24720479 400000000 ∧
    (ofLeapSecond 24720479 300000000).later 10000 = ofMillis 1483228809300 := by decide

theorem compare_minutes (s t : Instant) :
    (compare s.dayNumber t.dayNumber).then
        ((compare s.moment.hour t.moment.hour).then (compare s.moment.minute t.moment.minute)) =
      compare (s.clockMillis / 60000) (t.clockMillis / 60000) := by
  have hminutes (t : Instant) :
      t.clockMillis / 60000 = (t.dayNumber * 24 + t.moment.hour) * 60 + t.moment.minute := by
    simp only [moment, dayNumber, millisPerDay]
    omega
  obtain ⟨hhour, hminute, -⟩ := s.moment_bounds
  obtain ⟨hhour', hminute', -⟩ := t.moment_bounds
  rw [hminutes s, hminutes t, compare_compound (by omega) (by omega), compare_compound (by omega) (by omega),
    compare_natCast, compare_natCast, Ordering.then_assoc]

/-- The seconds of the clock since 1970, with room for a leap second in every minute. -/
theorem second_place (t : Instant) :
    t.clockMillis / 60000 * 61 + t.moment.second =
      t.millis / 1000 / 60 * 61 + t.millis / 1000 % 60 - t.leap.toNat := by
  have hmod : t.clockMillis % millisPerDay = t.clockMillis % 86400000 := rfl
  simp only [moment, hmod]
  rcases Bool.eq_false_or_eq_true t.leap with hleap | hleap
  · obtain ⟨hclock, hlast⟩ := clockMillis_of_leap hleap
    rw [hleap, Bool.toNat_true]
    omega
  · rw [hleap, Bool.toNat_false, clockMillis_of_not_leap hleap]
    omega

theorem compare_seconds (s t : Instant) :
    (compare (s.clockMillis / 60000) (t.clockMillis / 60000)).then (compare s.moment.second t.moment.second) =
      (compare (s.millis / 1000) (t.millis / 1000)).then (compare t.leap s.leap) := by
  have hflag : ∀ a b : Bool, compare b a = compare (1 - (a.toNat : Int)) (1 - (b.toNat : Int)) := by decide
  have hfirst (t : Instant) : t.leap.toNat = 0 ∨ t.leap.toNat = 1 ∧ t.millis / 1000 % 60 = 0 := by
    rcases Bool.eq_false_or_eq_true t.leap with hleap | hleap
    · have hsecond := t.second_of_leap hleap
      exact .inr ⟨by rw [hleap]; rfl, by rw [millis]; omega⟩
    · exact .inl (by rw [hleap]; rfl)
  have hsecond := s.moment_bounds.2.2.1
  have hsecond' := t.moment_bounds.2.2.1
  have hs := hfirst s
  have ht := hfirst t
  rw [← compare_natCast, ← compare_compound (show (s.moment.second : Int) < t.moment.second + 61 by omega) (by omega),
    second_place, second_place, hflag,
    ← compare_compound (show (1 : Int) - s.leap.toNat < 1 - t.leap.toNat + 2 by omega) (by omega)]
  simp only [Int.compare_eq_ite_lt]
  split_ifs <;> first | rfl | omega

theorem order_floorMillis (s t : Instant) : s.floorMillis.order t.floorMillis =
    (compare (s.millis / 1000) (t.millis / 1000)).then
      ((compare t.leap s.leap).then (compare s.millis t.millis)) := by
  have hsecond (t : Instant) : t.floorMillis.nanos / 1000000000 = t.millis / 1000 := by
    simp only [floorMillis]
    omega
  have hnanos : compare s.floorMillis.nanos t.floorMillis.nanos = compare s.millis t.millis := by
    simp only [floorMillis, Int.compare_eq_ite_lt]
    split_ifs <;> first | rfl | omega
  rw [order, hsecond, hsecond, hnanos]
  rfl

/-- The order of instants whose year has four digits, to the millisecond, is that of their texts. -/
theorem compare_text {s t : Instant} (hs : 0 ≤ s.date.year ∧ s.date.year ≤ 9999)
    (ht : 0 ≤ t.date.year ∧ t.date.year ≤ 9999) :
    compare s.text t.text = s.floorMillis.order t.floorMillis := by
  have hmillis (t : Instant) : ((t.moment.nanos / 1000000 : Nat) : Int) = t.millis % 1000 := by
    simp only [moment, millisPerDay, clockMillis, clockNanos, millis]
    split <;> omega
  rw [compare_toList, toList_text hs, toList_text ht,
    Calendar.Moment.compare_chars (written_moment hs) (written_moment ht)]
  calc
    _ = (compare s.dayNumber t.dayNumber).then ((compare s.moment.hour t.moment.hour).then
          ((compare s.moment.minute t.moment.minute).then ((compare s.moment.second t.moment.second).then
            (compare (s.moment.nanos / 1000000) (t.moment.nanos / 1000000))))) := by
      rw [← toDays_date, ← toDays_date]
      rfl
    _ = (compare (s.clockMillis / 60000) (t.clockMillis / 60000)).then ((compare s.moment.second t.moment.second).then
          (compare (s.moment.nanos / 1000000) (t.moment.nanos / 1000000))) := by
      rw [← compare_minutes, Ordering.then_assoc, Ordering.then_assoc]
    _ = ((compare (s.millis / 1000) (t.millis / 1000)).then (compare t.leap s.leap)).then
          (compare (s.millis % 1000) (t.millis % 1000)) := by
      rw [← Ordering.then_assoc, compare_seconds, ← compare_natCast (s.moment.nanos / 1000000), hmillis, hmillis]
    _ = s.floorMillis.order t.floorMillis := by
      rw [order_floorMillis, compare_div_mod (show 0 < 1000 by decide) s.millis]
      generalize compare (s.millis / 1000) (t.millis / 1000) = a
      generalize compare t.leap s.leap = b
      cases a <;> cases b <;> rfl

/-- The order of days is that of the texts of their dates. -/
theorem compare_dateText {s t : Instant} (hs : 0 ≤ s.date.year ∧ s.date.year ≤ 9999)
    (ht : 0 ≤ t.date.year ∧ t.date.year ≤ 9999) :
    compare s.date.text t.date.text = compare s.dayNumber t.dayNumber := by
  have hchars := Date.compare_chars s.isValid_date t.isValid_date hs ht [] []
  rw [List.append_nil, List.append_nil, List.compare_nil_nil, Ordering.then_eq, toDays_date, toDays_date] at hchars
  rw [compare_toList, Date.toList_text hs, Date.toList_text ht, hchars]

end Instant

end FormRules

import FormRules.Proofs.Display.Figures

/-!
# Grouping of thousands

Whether a comma stands before a digit is decided by its place alone: it is not the first, and the number of digits
from it to the point is a multiple of three (`groupDigits_eq_withCommas`). Grouping a number leaves its sign and all
that stands from the point on as it is (`groupThousands_figures`), and so do the texts around it (`render_thousands`).
-/

namespace FormRules

/-- The number that a value is shown as, if the format shows it as a number. -/
def FormatOptions.numberOf? (options : FormatOptions) (value : Value) : Option Binary64 :=
  match options.formatType, value with
  | .date, _ => none
  | .auto, .number x => some x
  | .auto, _ => none
  | _, _ => value.numeric?

/-- A number is shown as a number by every format but that of dates. -/
theorem FormatOptions.numberOf?_number {options : FormatOptions} (h : options.formatType ≠ .date) (x : Binary64) :
    options.numberOf? (.number x) = some x := by
  unfold numberOf?
  cases htype : options.formatType with
  | date => exact absurd htype h
  | _ => rfl

namespace Display

variable {options : FormatOptions} {value : Value} {x : Binary64}

/-! ### The places of the commas -/

/-- The digits with a comma before each one that is not the first and has a multiple of three digits from it to the
end. -/
def withCommas (digits : List Char) : List Char :=
  digits.zipIdx.flatMap fun (digit, i) =>
    if i ≠ 0 ∧ (digits.length - i) % 3 = 0 then [',', digit] else [digit]

/-- Behind some digits, the first one of the rest may have a comma too. -/
private theorem flatMap_zipIdx_eq (before : Nat) (digits : List Char) :
    ((digits.zipIdx before).flatMap fun (digit, i) =>
      if i ≠ 0 ∧ (before + digits.length - i) % 3 = 0 then [',', digit] else [digit]) =
    if before ≠ 0 ∧ digits ≠ [] ∧ digits.length % 3 = 0 then ',' :: groupDigits digits else groupDigits digits := by
  induction digits generalizing before with
  | nil => simp [groupDigits]
  | cons digit rest ih =>
    have hlength : before + (digit :: rest).length = before + 1 + rest.length := by
      rw [List.length_cons]
      omega
    have hhere : before + 1 + rest.length - before = (digit :: rest).length := by
      rw [List.length_cons]
      omega
    rw [List.zipIdx_cons, List.flatMap_cons, hlength, ih (before + 1)]
    dsimp only
    rw [hhere, groupDigits]
    simp only [ne_eq, Nat.add_eq_zero_iff, Nat.succ_ne_self, and_false, not_false_eq_true, true_and, reduceCtorEq,
      List.length_eq_zero_iff]
    split <;> split <;> rfl

theorem groupDigits_eq_withCommas (digits : List Char) : groupDigits digits = withCommas digits := by
  have h := flatMap_zipIdx_eq 0 digits
  simp only [Nat.zero_add, ne_eq, not_true_eq_false, false_and, ↓reduceIte] at h
  exact h.symm

/-- Nothing but commas is added. -/
theorem filter_withCommas {digits : List Char} (h : ',' ∉ digits) : (withCommas digits).filter (· ≠ ',') = digits := by
  rw [← groupDigits_eq_withCommas]
  induction digits with
  | nil => rfl
  | cons digit rest ih =>
    obtain ⟨hdigit, hrest⟩ := not_or.mp (mt List.mem_cons.mpr h)
    rw [groupDigits]
    split <;> simpa [Ne.symm hdigit] using ih hrest

/-! ### Grouping a number -/

theorem ne_of_isDigit {c mark : Char} (hc : c.isDigit = true) (hmark : mark.isDigit = false) : c ≠ mark := by
  rintro rfl
  rw [hc] at hmark
  cases hmark

/-- The whole part of a number ends at the point. -/
theorem Figures.span_chars (f : Figures) :
    f.chars.takeWhile (· ≠ '.') = f.whole ∧ f.chars.dropWhile (· ≠ '.') = f.tail := by
  have hwhole : ∀ c ∈ f.whole, decide (c ≠ '.') = true := fun c hc =>
    decide_eq_true (ne_of_isDigit (f.whole_digits c hc) rfl)
  have htail : f.tail.takeWhile (· ≠ '.') = [] ∧ f.tail.dropWhile (· ≠ '.') = f.tail := by
    unfold Figures.tail
    split <;> simp
  rw [Figures.chars, List.takeWhile_append_of_pos hwhole, List.dropWhile_append_of_pos hwhole, htail.1, htail.2,
    List.append_nil]
  exact ⟨rfl, rfl⟩

/-- Figures do not start with a minus. -/
theorem Figures.exists_cons (f : Figures) : ∃ c cs, f.whole = c :: cs ∧ c ≠ '-' := by
  obtain ⟨c, cs, hcons⟩ := List.exists_cons_of_ne_nil f.whole_ne_nil
  exact ⟨c, cs, hcons, ne_of_isDigit (f.whole_digits c (hcons ▸ List.mem_cons_self)) rfl⟩

theorem groupThousands_figures {text : String} {negative : Bool} {f : Figures}
    (h : text.toList = minus negative ++ f.chars) :
    (groupThousands text).toList = minus negative ++ withCommas f.whole ++ f.tail := by
  have hdigits : f.whole.all Char.isDigit = true := List.all_eq_true.mpr f.whole_digits
  unfold groupThousands
  rw [h]
  -- a figure is no sign
  split
  next sign unsigned hsplit =>
    have heq : sign = minus negative ∧ unsigned = f.chars := by
      obtain ⟨c, cs, hcons, hc⟩ := f.exists_cons
      rw [Figures.chars, hcons, List.cons_append] at hsplit ⊢
      cases negative with
      | true =>
        cases hsplit
        exact ⟨rfl, rfl⟩
      | false =>
        dsimp only [minus, Bool.false_eq_true, ↓reduceIte, List.nil_append] at hsplit
        split at hsplit
        · next heq => exact absurd (List.cons.inj heq).1 hc
        · cases hsplit
          exact ⟨rfl, rfl⟩
    dsimp only
    rw [heq.1, heq.2, f.span_chars.1, f.span_chars.2, if_pos hdigits, groupDigits_eq_withCommas, String.toList_ofList]

/-- A number that is not finite is shown by a word, whose letters are not grouped. -/
theorem numberText_of_not_finite (h : x.isFinite = false) (options : FormatOptions) :
    numberText x options = x.display := by
  have hword : Decimal96.ofBinary64? x = none ∧ groupThousands x.display = x.display := by
    cases x with
    | finite negative rank => cases h
    | nan => exact ⟨rfl, rfl⟩
    | infinite negative => cases negative <;> exact ⟨rfl, rfl⟩
  unfold numberText
  rw [hword.1]
  cases options.places? <;> exact ite_eq_iff'.mpr ⟨fun _ => hword.2, fun _ => rfl⟩

/-- The figures of a finite number are the same with and without grouping. -/
theorem numberText_thousands {negative : Bool} {f : Figures}
    (h : (numberText x { options with thousands := false }).toList = minus negative ++ f.chars) :
    (numberText x { options with thousands := true }).toList = minus negative ++ withCommas f.whole ++ f.tail :=
  groupThousands_figures h

/-! ### The texts around a number -/

theorem render_of_numberOf? (h : options.numberOf? value = some x) :
    render options value = enclose options (numberText x options) := by
  have hnull : value.isNull = false := by
    cases value with
    | null => cases htype : options.formatType <;> simp [FormatOptions.numberOf?, htype, Value.numeric?] at h
    | _ => rfl
  unfold FormatOptions.numberOf? at h
  rw [render.eq_def, hnull, if_neg Bool.false_ne_true]
  cases htype : options.formatType with
  | date => simp [htype] at h
  | auto =>
    cases value with
    | number y =>
      simp only [htype, Option.some.injEq] at h
      rw [h]
    | _ => simp [htype] at h
  | _ =>
    simp only [htype] at h
    simp only [h, Option.map_some, Option.getD_some]

/-- A minus goes in front of all. -/
theorem toList_enclose {body : String} {negative : Bool} {cs : List Char} (hcs : cs.head? ≠ some '-')
    (h : body.toList = minus negative ++ cs) :
    (enclose options body).toList = minus negative ++ options.leading.toList ++ cs ++ options.trailing.toList := by
  unfold enclose
  cases negative with
  | true =>
    have hminus : body.toList = '-' :: cs := h
    split
    · next rest heq =>
      obtain rfl : cs = rest := (List.cons.inj (hminus.symm.trans heq)).2
      split
      · next hempty =>
        rw [String.isEmpty_iff] at hempty
        rw [String.toList_append, hminus, hempty]
        simp [minus]
      · simp [minus]
    · next hno => exact absurd hminus (hno cs)
  | false =>
    have hplain : body.toList = cs := h
    split
    · next rest heq =>
      rw [← hplain, heq] at hcs
      exact absurd rfl hcs
    · rw [String.toList_append, String.toList_append, hplain]
      simp [minus]

theorem Figures.head_ne (f : Figures) : f.chars.head? ≠ some '-' ∧ (withCommas f.whole ++ f.tail).head? ≠ some '-' := by
  obtain ⟨c, cs, hcons, hc⟩ := f.exists_cons
  rw [Figures.chars, ← groupDigits_eq_withCommas, hcons, groupDigits]
  constructor
  · simpa using hc
  · split <;> simpa using hc

/-- A value that is shown as a finite number has a sign, the leading text, the figures and the trailing text. With the
thousands grouped, the whole part has a comma before each digit that is not the first and has a multiple of three
digits from it to the point, and nothing else changes. A number that is not finite is shown in the same way. -/
theorem render_thousands (options : FormatOptions) (value : Value) (x : Binary64)
    (h : options.numberOf? value = some x) :
    let plain := render { options with thousands := false } value
    let grouped := render { options with thousands := true } value
    (x.isFinite = false → grouped = plain) ∧
      (x.isFinite = true → ∃ (negative : Bool) (f : Figures),
        (numberText x { options with thousands := false }).toList = minus negative ++ f.whole ++ f.tail ∧
        plain.toList =
          minus negative ++ options.leading.toList ++ f.whole ++ f.tail ++ options.trailing.toList ∧
        grouped.toList =
          minus negative ++ options.leading.toList ++ withCommas f.whole ++ f.tail ++ options.trailing.toList ∧
        (withCommas f.whole).filter (· ≠ ',') = f.whole) := by
  intro plain grouped
  have hplain : plain = enclose options (numberText x { options with thousands := false }) := render_of_numberOf? h
  have hgrouped : grouped = enclose options (numberText x { options with thousands := true }) := render_of_numberOf? h
  refine ⟨fun hx => ?_, fun hx => ?_⟩
  · rw [hplain, hgrouped, numberText_of_not_finite hx, numberText_of_not_finite hx]
  · cases x with
    | nan => cases hx
    | infinite => cases hx
    | finite sign rank =>
      obtain ⟨f, signs, hf, -⟩ := exists_figures options rank
      refine ⟨sign && signs, f, ?_, ?_, ?_, filter_withCommas fun hcomma => ?_⟩
      · rw [hf, Figures.chars, List.append_assoc]
      · rw [hplain, toList_enclose f.head_ne.1 (hf sign), Figures.chars, ← List.append_assoc]
      · have htext := numberText_thousands (hf sign)
        rw [List.append_assoc] at htext
        rw [hgrouped, toList_enclose f.head_ne.2 htext, ← List.append_assoc]
      · exact absurd (f.whole_digits _ hcomma) (by decide)

/-- A negative amount with a text of its own in front, read from a text. -/
theorem render_thousands_amount :
    let options : FormatOptions := { formatType := .currency, leading? := some "EUR " }
    let value := Value.text " -1234567.891 "
    let x := Binary64.ofDecimal true ⟨1234567891, -3⟩
    options.numberOf? value = some x ∧ x.isFinite = true ∧
      render { options with thousands := true } value = "-EUR 1,234,567.89" ∧
      ∃ (negative : Bool) (f : Figures),
        (numberText x { options with thousands := false }).toList = minus negative ++ f.whole ++ f.tail ∧
        (render { options with thousands := true } value).toList =
          minus negative ++ options.leading.toList ++ withCommas f.whole ++ f.tail ++ options.trailing.toList := by
  intro options value x
  have hx : options.numberOf? value = some x := by decide +kernel
  have hfinite : x.isFinite = true := by decide +kernel
  obtain ⟨negative, f, htext, -, hgrouped, -⟩ := (render_thousands options value x hx).2 hfinite
  exact ⟨hx, hfinite, by decide +kernel, negative, f, htext, hgrouped⟩

end Display

end FormRules

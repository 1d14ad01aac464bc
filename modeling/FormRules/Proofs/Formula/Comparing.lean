import FormRules.Formula.Comparison
import FormRules.Proofs.Number.Pattern

/-!
# One order behind six operators

Two values are unordered exactly if both are numbers, or texts that are, and one of them is `nan`
(`compareValues_eq_none_iff`). In whichever way two values are compared, the same way is taken when they are swapped,
so their order is swapped as well (`compareValues_swap`), and each value but `nan` equals itself
(`compareValues_self_iff`). The operators say of this order what their symbols do (`holds_coherent`).
-/

namespace FormRules

namespace Binary64

theorem place?_eq_none_iff {x : Binary64} : x.place? = none ↔ x = nan := by cases x <;> simp [place?]

theorem compare?_eq_none_iff {x y : Binary64} : x.compare? y = none ↔ x = nan ∨ y = nan := by
  rw [← place?_eq_none_iff, ← place?_eq_none_iff, compare?]
  cases x.place? <;> cases y.place? <;> simp

theorem compare?_swap (x y : Binary64) : (x.compare? y).map Ordering.swap = y.compare? x := by
  unfold compare?
  cases x.place? with
  | none => cases y.place? <;> rfl
  | some p =>
    cases y.place? with
    | none => rfl
    | some q => exact congrArg some (Int.compare_swap p q)

theorem compare?_self_iff {x : Binary64} : x.compare? x = some .eq ↔ x ≠ nan := by
  rw [ne_eq, ← place?_eq_none_iff, compare?]
  cases x.place? <;> simp

end Binary64

namespace Formula

variable {l r v : Value}

/-- Both values are numbers or texts that are, and one of them is `nan`. -/
def Unordered (l r : Value) : Prop :=
  ∃ x y, l.numeric? = some x ∧ r.numeric? = some y ∧ (x = .nan ∨ y = .nan)

theorem compareValues_numbers {x y : Binary64} (hl : l.numeric? = some x) (hr : r.numeric? = some y) :
    compareValues l r = x.compare? y := by
  unfold compareValues
  rw [hl, hr]

/-- How values that are not both numbers are read as texts. -/
def readingOf (l r : Value) : Value → String :=
  match l, r with
  | .boolean _, _ | _, .boolean _ => fun v => Text.upper v.toText
  | _, _ => Value.toText

/-- They are read in one way, whichever comes first. -/
theorem readingOf_comm (l r : Value) : readingOf l r = readingOf r l := by cases l <;> cases r <;> rfl

theorem compareValues_texts (h : l.numeric? = none ∨ r.numeric? = none) :
    compareValues l r = some (compare (readingOf l r l) (readingOf l r r)) := by
  unfold compareValues
  split
  · next x y hl hr => simp [hl, hr] at h
  · cases l <;> cases r <;> rfl

/-- Two values are both numbers, or are compared as texts. -/
theorem numbers_or_not (l r : Value) :
    (∃ x y, l.numeric? = some x ∧ r.numeric? = some y) ∨ l.numeric? = none ∨ r.numeric? = none := by
  cases l.numeric? <;> cases r.numeric? <;> simp

theorem compareValues_eq_none_iff : compareValues l r = none ↔ Unordered l r := by
  rcases numbers_or_not l r with ⟨x, y, hl, hr⟩ | hnone
  · rw [compareValues_numbers hl hr, Binary64.compare?_eq_none_iff]
    simp [Unordered, hl, hr]
  · rw [compareValues_texts hnone]
    refine ⟨nofun, ?_⟩
    rintro ⟨x, y, hl, hr, -⟩
    simp [hl, hr] at hnone

theorem compareValues_swap (l r : Value) : (compareValues l r).map Ordering.swap = compareValues r l := by
  rcases numbers_or_not l r with ⟨x, y, hl, hr⟩ | hnone
  · rw [compareValues_numbers hl hr, compareValues_numbers hr hl, Binary64.compare?_swap]
  · rw [compareValues_texts hnone, compareValues_texts hnone.symm, readingOf_comm r l, Option.map_some,
      ← Std.OrientedCmp.eq_swap]

theorem numeric?_eq_nan_iff : v.numeric? = some .nan ↔ v = .number .nan := by
  cases v with
  | null | boolean => simp [Value.numeric?]
  | number x => simp [Value.numeric?]
  | text s => simp [Value.numeric?, Binary64.wholeNumber?_ne_nan]

theorem compareValues_self_iff : compareValues v v = some .eq ↔ v ≠ .number .nan := by
  rw [ne_eq, ← numeric?_eq_nan_iff]
  cases hv : v.numeric? with
  | some x => rw [compareValues_numbers hv hv, Binary64.compare?_self_iff, Option.some_inj]
  | none =>
    rw [compareValues_texts (.inl hv), Std.compare_self]
    simp

/-! ### The operators -/

namespace ComparisonOp

theorem holds_of_unordered (h : Unordered l r) (op : ComparisonOp) : op.holds l r = decide (op = .notEqual) := by
  rw [holds, compareValues_eq_none_iff.mpr h]
  cases op <;> rfl

/-- The operator that holds of two values in the given order and is none of two. -/
def ofOrder : Ordering → ComparisonOp
  | .lt => less
  | .eq => equal
  | .gt => greater

/-- Values that have an order meet exactly one of the three strict operators. -/
theorem existsUnique_holds (h : ¬ Unordered l r) : ∃! op, op ∈ [less, equal, greater] ∧ op.holds l r = true := by
  rw [← compareValues_eq_none_iff] at h
  obtain ⟨order, horder⟩ := Option.ne_none_iff_exists'.mp h
  simp only [holds, horder]
  refine ⟨ofOrder order, ?_, ?_⟩
  · cases order <;> decide
  · rintro op ⟨hop, hholds⟩
    simp only [List.mem_cons, List.not_mem_nil, or_false] at hop
    rcases hop with rfl | rfl | rfl <;> cases order <;> first | rfl | cases hholds

theorem lessEqual_holds (l r : Value) : lessEqual.holds l r = (less.holds l r || equal.holds l r) := by
  simp [holds, holdsOf]

theorem greaterEqual_holds (l r : Value) : greaterEqual.holds l r = (greater.holds l r || equal.holds l r) := by
  simp [holds, holdsOf]

theorem notEqual_holds (l r : Value) : notEqual.holds l r = !equal.holds l r := by
  simp [holds, holdsOf]

/-- The operator that holds of swapped values. -/
def mirrored : ComparisonOp → ComparisonOp
  | less => greater
  | lessEqual => greaterEqual
  | greater => less
  | greaterEqual => lessEqual
  | equal => equal
  | notEqual => notEqual

theorem holds_swap (op : ComparisonOp) (l r : Value) : op.holds l r = op.mirrored.holds r l := by
  rw [holds, holds, ← compareValues_swap l r]
  cases compareValues l r with
  | none => cases op <;> rfl
  | some order => cases op <;> cases order <;> rfl

theorem equal_holds_self_iff : equal.holds v v = true ↔ v ≠ .number .nan := by
  rw [← compareValues_self_iff]
  simp [holds, holdsOf]

/-- Of two numbers, or texts that are, one of which is `nan`, only `<>` holds; of any other two values exactly one of
`<`, `=` and `>` does. The weak operators hold where the strict one or `=` does, and `<>` where `=` does not. Swapped
values meet the mirrored operator, and each value but `nan` equals itself. -/
theorem holds_coherent (l r : Value) :
    (Unordered l r → ∀ op : ComparisonOp, op.holds l r = decide (op = notEqual)) ∧
    (¬ Unordered l r → ∃! op, op ∈ [less, equal, greater] ∧ op.holds l r = true) ∧
    (lessEqual.holds l r = (less.holds l r || equal.holds l r) ∧
      greaterEqual.holds l r = (greater.holds l r || equal.holds l r) ∧
      notEqual.holds l r = !equal.holds l r) ∧
    (less.holds l r = greater.holds r l ∧ equal.holds l r = equal.holds r l) ∧
    (equal.holds l l = true ↔ l ≠ .number .nan) :=
  ⟨fun h op => holds_of_unordered h op, existsUnique_holds,
    ⟨lessEqual_holds l r, greaterEqual_holds l r, notEqual_holds l r⟩,
    ⟨less.holds_swap l r, equal.holds_swap l r⟩, equal_holds_self_iff⟩

/-- A number and a text that is one, and a truth value and a text in small letters. -/
theorem holds_coherent_mixed :
    Unordered (.number .nan) (.text " 7.") ∧
      (∀ op : ComparisonOp, op.holds (.number .nan) (.text " 7.") = decide (op = notEqual)) ∧
      ¬ Unordered (.boolean true) (.text "true") ∧
      ∃! op, op ∈ [less, equal, greater] ∧ op.holds (.boolean true) (.text "true") = true := by
  have hseven : (Value.text " 7.").numeric? = some (.ofNat 7) := by decide +kernel
  have hunordered : Unordered (.number .nan) (.text " 7.") := ⟨.nan, .ofNat 7, rfl, hseven, .inl rfl⟩
  have hordered : ¬ Unordered (.boolean true) (.text "true") := by
    rintro ⟨x, y, hx, -⟩
    cases hx
  exact ⟨hunordered, (holds_coherent _ _).1 hunordered, hordered, (holds_coherent _ _).2.1 hordered⟩

end ComparisonOp

end Formula

end FormRules

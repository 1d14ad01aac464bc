import FormRules.Proofs.Display.Grouping

/-!
# The sign of a shown number

A number above zero and its opposite have the same figures, grouped or not, between the same texts. The opposite has a
minus in front of all (`render_neg`), unless the number is rounded to zero, which only happens below half a unit of its
last place: then both are shown as the same zero.
-/

namespace FormRules.Display

variable {options : FormatOptions}

/-- A finite number is shown by a minus or nothing, and by what has to do with its magnitude alone. -/
theorem exists_rendered (htype : options.formatType ≠ .date) (rank : Fin rankCount) :
    ∃ (shown : List Char) (signs : Bool), (∀ negative, (render options (.number (.finite negative rank))).toList =
      minus (negative && signs) ++ shown) ∧
      (0 < rank.val → (signs = true ↔ ¬ RoundsToZero options (.finite false rank))) := by
  obtain ⟨f, signs, hf, hsigns⟩ := exists_figures options rank
  obtain ⟨cs, hcs, htext⟩ : ∃ cs : List Char, cs.head? ≠ some '-' ∧ ∀ negative,
      (numberText (.finite negative rank) options).toList = minus (negative && signs) ++ cs := by
    cases hthousands : options.thousands with
    | true =>
      have hsame : { options with thousands := true } = options := by rw [← hthousands]
      refine ⟨withCommas f.whole ++ f.tail, f.head_ne.2, fun negative => ?_⟩
      have hgrouped := numberText_thousands (hf negative)
      rwa [hsame, List.append_assoc] at hgrouped
    | false =>
      have hsame : { options with thousands := false } = options := by rw [← hthousands]
      rw [hsame] at hf
      exact ⟨f.chars, f.head_ne.1, hf⟩
  refine ⟨options.leading.toList ++ cs ++ options.trailing.toList, signs, fun negative => ?_, hsigns⟩
  rw [render_of_numberOf? (FormatOptions.numberOf?_number htype _), toList_enclose hcs (htext negative),
    List.append_assoc, List.append_assoc, List.append_assoc]

/-- With a leading and a trailing text of any kind, with places or without, grouped or not: if a number above zero is
not rounded to zero, its opposite is shown with a minus in front. Else both are shown alike, and the number is below
half a unit of the last place. -/
theorem render_neg (options : FormatOptions) (rank : Fin rankCount) (htype : options.formatType ≠ .date)
    (hpos : 0 < rank.val) :
    let x := Binary64.finite false rank
    (¬ RoundsToZero options x → render options (.number (-x)) = "-" ++ render options (.number x)) ∧
      (RoundsToZero options x → render options (.number (-x)) = render options (.number x) ∧
        ∃ places, options.places? = some places ∧
          2 * (10 ^ places * Binary64.magnitude rank) < Binary64.unitsPerOne) := by
  intro x
  obtain ⟨shown, signs, hshown, hsigns⟩ := exists_rendered htype rank
  have hplain : (render options (.number x)).toList = shown := hshown false
  have hopposite : (render options (.number (-x))).toList = minus signs ++ shown := hshown true
  refine ⟨fun hround => ?_, fun hround => ⟨?_, ?_⟩⟩
  · rw [← String.toList_inj, String.toList_append, hplain, hopposite, (hsigns hpos).mpr hround]
    rfl
  · have hnone : signs = false := by
      rw [← Bool.not_eq_true, hsigns hpos, not_not]
      exact hround
    rw [← String.toList_inj, hplain, hopposite, hnone]
    rfl
  · obtain ⟨places, d, hplaces, hd, hzero⟩ := hround
    exact ⟨places, hplaces, Decimal96.lt_half_of_roundsToZero hd hzero⟩

/-- The ranks of 0.005 and of 0.004. -/
def halfCent : Fin rankCount := ⟨4572414629676717179, by decide⟩

def underHalfCent : Fin rankCount := ⟨4571261708172110332, by decide⟩

/-- As an amount, half a cent is shown as one cent with either sign, and less than half a cent without a sign. -/
theorem render_neg_cents :
    let amount : FormatOptions := { formatType := .currency, thousands := true }
    amount.formatType ≠ .date ∧ 0 < halfCent.val ∧ 0 < underHalfCent.val ∧
      ¬ RoundsToZero amount (.finite false halfCent) ∧
      render amount (.number (-.finite false halfCent)) = "-" ++ render amount (.number (.finite false halfCent)) ∧
      render amount (.number (-.finite false halfCent)) = "-$0.01" ∧
      RoundsToZero amount (.finite false underHalfCent) ∧
      render amount (.number (-.finite false underHalfCent)) =
        render amount (.number (.finite false underHalfCent)) := by
  intro amount
  have htype : amount.formatType ≠ .date := by decide
  have hhalf : 0 < halfCent.val := by decide
  have hunder : 0 < underHalfCent.val := by decide
  have hkept : ¬ RoundsToZero amount (.finite false halfCent) := by
    have hd : Decimal96.ofBinary64? (.finite false halfCent) = some ⟨false, 5, 3⟩ := by decide +kernel
    rintro ⟨places, d, hplaces, hd', hzero⟩
    cases hplaces
    cases hd.symm.trans hd'
    exact absurd hzero (by decide)
  have hzero : RoundsToZero amount (.finite false underHalfCent) :=
    ⟨2, ⟨false, 4, 3⟩, rfl, by decide +kernel, by decide⟩
  exact ⟨htype, hhalf, hunder, hkept, (render_neg amount halfCent htype hhalf).1 hkept, by decide +kernel, hzero,
    ((render_neg amount underHalfCent htype hunder).2 hzero).1⟩

end FormRules.Display

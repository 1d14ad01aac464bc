import FormRules.Text.Blank
import FormRules.Text.Case
import Mathlib.Data.List.Basic

/-!
# What upper case is made of

The characters of an upper case are letters from `A` to `Z` or lie beyond ASCII, unless they had no upper case of
their own, and no new blank is among them (`mem_upperChar`). An upper case of ASCII characters is not changed by
taking the upper case again (`upper_upper_of_ascii`). The tables are looked through once for each of these facts.
-/

namespace FormRules.Text

/-- The characters that have a letter from `A` to `Z` in their upper case and are none of these letters. -/
def latinSources : List (Nat × Nat) :=
  [(0x0061, 0x007A), (0x00DF, 0x00DF), (0x0131, 0x0131), (0x0149, 0x0149), (0x017F, 0x017F), (0x01F0, 0x01F0),
   (0x1E96, 0x1E9A), (0xFB00, 0xFB06)]

def IsLatinSource (code : Nat) : Prop := ∃ s ∈ latinSources, s.1 ≤ code ∧ code ≤ s.2

/-- No code point between the bounds lies in one of the intervals. -/
def Apart (low high : Nat) (intervals : List (Nat × Nat)) : Prop :=
  ∀ interval ∈ intervals, high < interval.1 ∨ interval.2 < low

instance (low high : Nat) (intervals : List (Nat × Nat)) : Decidable (Apart low high intervals) :=
  inferInstanceAs (Decidable (∀ interval ∈ intervals, _))

/-- All code points between the bounds may stand in an upper case. -/
structure AreImages (low high : Nat) : Prop where
  range : (0x41 ≤ low ∧ high ≤ 0x5A) ∨ 0x80 ≤ low
  valid : high < 0xD800 ∨ (0xDFFF < low ∧ high < 0x110000)
  no_blank : Apart low high blankIntervals
  no_source : Apart low high latinSources

instance (low high : Nat) : Decidable (AreImages low high) :=
  decidable_of_iff (_ ∧ _ ∧ _ ∧ _) ⟨fun h => ⟨h.1, h.2.1, h.2.2.1, h.2.2.2⟩, fun h => ⟨h.1, h.2, h.3, h.4⟩⟩

/-- A character that may stand in an upper case. -/
structure IsImage (d : Char) : Prop where
  range : (0x41 ≤ d.toNat ∧ d.toNat ≤ 0x5A) ∨ 0x80 ≤ d.toNat
  no_blank : isBlank d = false
  no_source : ¬ IsLatinSource d.toNat

theorem inIntervals_eq_false {code : Nat} {intervals : List (Nat × Nat)}
    (h : ∀ interval ∈ intervals, code < interval.1 ∨ interval.2 < code) : inIntervals code intervals = false := by
  induction intervals with
  | nil => rfl
  | cons interval intervals ih =>
    rw [inIntervals]
    split
    · rfl
    · have hfirst := h interval List.mem_cons_self
      have hlast : ¬ code ≤ interval.2 := by omega
      simp [hlast, ih fun other hother => h other (List.mem_cons_of_mem _ hother)]

theorem inIntervals_of_first {code : Nat} {interval : Nat × Nat} (hlow : interval.1 ≤ code) (hhigh : code ≤ interval.2)
    (intervals : List (Nat × Nat)) : inIntervals code (interval :: intervals) = true := by
  rw [inIntervals, if_neg (Nat.not_lt.mpr hlow), decide_eq_true hhigh, Bool.true_or]

theorem exists_of_inIntervals {code : Nat} {intervals : List (Nat × Nat)} (h : inIntervals code intervals = true) :
    ∃ interval ∈ intervals, interval.1 ≤ code ∧ code ≤ interval.2 := by
  induction intervals with
  | nil => cases h
  | cons interval intervals ih =>
    rw [inIntervals] at h
    split at h
    · cases h
    · rcases (Bool.or_eq_true _ _).mp h with hlast | hrest
      · exact ⟨interval, List.mem_cons_self, by omega, of_decide_eq_true hlast⟩
      · obtain ⟨other, hother, hcode⟩ := ih hrest
        exact ⟨other, List.mem_cons_of_mem _ hother, hcode⟩

theorem Apart.inIntervals_eq_false {low high code : Nat} {intervals : List (Nat × Nat)}
    (h : Apart low high intervals) (hlow : low ≤ code) (hhigh : code ≤ high) :
    inIntervals code intervals = false := by
  refine Text.inIntervals_eq_false fun interval hinterval => ?_
  have := h interval hinterval
  omega

theorem AreImages.toNat_ofNat {low high code : Nat} (h : AreImages low high) (hlow : low ≤ code)
    (hhigh : code ≤ high) : (Char.ofNat code).toNat = code := by
  have hvalid : code.isValidChar := by
    have := h.valid
    unfold Nat.isValidChar
    omega
  rw [Char.ofNat, dif_pos hvalid]
  rfl

theorem AreImages.isImage {low high code : Nat} (h : AreImages low high) (hlow : low ≤ code)
    (hhigh : code ≤ high) : IsImage (Char.ofNat code) := by
  constructor
  · have := h.range
    rw [h.toNat_ofNat hlow hhigh]
    omega
  · rw [isBlank, h.toNat_ofNat hlow hhigh]
    exact h.no_blank.inIntervals_eq_false hlow hhigh
  · rw [h.toNat_ofNat hlow hhigh]
    rintro ⟨s, hs, hfirst, hlast⟩
    have := h.no_source s hs
    omega

/-! ### The tables -/

private theorem areImages_run : ∀ run ∈ upperRuns,
    AreImages run.target (run.target + (run.last - run.first)) := by
  decide +kernel

private theorem areImages_expansion : ∀ e ∈ upperExpansions, e.2 ≠ [] ∧ ∀ code ∈ e.2, AreImages code code := by
  decide +kernel

private theorem source_of_run : ∀ run ∈ upperRuns,
    0x80 ≤ run.target ∨ ∃ s ∈ latinSources, s.1 ≤ run.first ∧ run.last ≤ s.2 := by
  decide +kernel

private theorem source_of_expansion : ∀ e ∈ upperExpansions,
    (∀ code ∈ e.2, 0x80 ≤ code) ∨ ∃ s ∈ latinSources, s.1 ≤ e.1 ∧ e.1 ≤ s.2 := by
  decide +kernel

private theorem run_apart_capitals : ∀ run ∈ upperRuns, run.last < 0x41 ∨ 0x5A < run.first := by decide +kernel

private theorem expansion_apart_capitals : ∀ e ∈ upperExpansions, e.1 < 0x41 ∨ 0x5A < e.1 := by decide +kernel

/-- The character is in one of the tables. -/
def isMapped (code : Nat) : Bool :=
  upperRuns.any (fun run => (run.map? code).isSome) || (upperExpansions.lookup code).isSome

private theorem isMapped_source : ∀ s ∈ latinSources, ∀ k < s.2 - s.1 + 1, isMapped (s.1 + k) = true := by
  decide +kernel

theorem IsLatinSource.isMapped {code : Nat} (h : IsLatinSource code) : isMapped code = true := by
  obtain ⟨s, hs, hfirst, hlast⟩ := h
  have hmapped := isMapped_source s hs (code - s.1) (by omega)
  rwa [Nat.add_sub_cancel' hfirst] at hmapped

/-! ### The upper case of a character -/

/-- Where the upper case of a character comes from. -/
inductive UpperChar (c : Char) : List Char → Prop where
  | expansion {e : Nat × List Nat} (h : e ∈ upperExpansions) (hc : e.1 = c.toNat) :
    UpperChar c (e.2.map Char.ofNat)
  | run {run : CaseRun} {code : Nat} (h : run ∈ upperRuns) (hc : run.map? c.toNat = some code) :
    UpperChar c [Char.ofNat code]
  | self (h : isMapped c.toNat = false) : UpperChar c [c]

theorem upperChar_cases (c : Char) : UpperChar c (upperChar c) := by
  rw [upperChar_eq]
  cases hlookup : upperExpansions.lookup c.toNat with
  | some codes =>
    obtain ⟨before, after, htable, -⟩ := List.lookup_eq_some_iff.mp hlookup
    have hmem : (c.toNat, codes) ∈ upperExpansions := htable ▸ List.mem_append_right _ List.mem_cons_self
    exact .expansion hmem rfl
  | none =>
    cases hfound : upperRuns.findSome? (·.map? c.toNat) with
    | some code =>
      obtain ⟨run, hrun, hcode⟩ := List.exists_of_findSome?_eq_some hfound
      exact .run hrun hcode
    | none =>
      rw [List.findSome?_eq_none_iff] at hfound
      refine .self ?_
      simp only [isMapped, hlookup, Bool.or_eq_false_iff, List.any_eq_false]
      exact ⟨fun run hrun => by simp [hfound run hrun], rfl⟩

theorem CaseRun.map?_eq_some {run : CaseRun} {code image : Nat} (h : run.map? code = some image) :
    run.first ≤ code ∧ code ≤ run.last ∧ run.target ≤ image ∧ image ≤ run.target + (run.last - run.first) := by
  unfold CaseRun.map? at h
  split at h
  · cases h
    omega
  · cases h

/-- A character of an upper case is a possible one, or the character itself, and then no source of latin
letters. -/
theorem mem_upperChar {c d : Char} (h : d ∈ upperChar c) : IsImage d ∨ d = c ∧ ¬ IsLatinSource d.toNat := by
  have hcases := upperChar_cases c
  generalize upperChar c = cs at h hcases
  cases hcases with
  | @expansion e he hc =>
    obtain ⟨code, hcode, rfl⟩ := List.mem_map.mp h
    exact .inl (((areImages_expansion e he).2 code hcode).isImage (Nat.le_refl _) (Nat.le_refl _))
  | @run run code hrun hc =>
    obtain ⟨-, -, hlow, hhigh⟩ := CaseRun.map?_eq_some hc
    rw [List.mem_singleton.mp h]
    exact .inl ((areImages_run run hrun).isImage hlow hhigh)
  | self hnone =>
    obtain rfl := List.mem_singleton.mp h
    refine .inr ⟨rfl, fun hsource => ?_⟩
    rw [hsource.isMapped] at hnone
    cases hnone

theorem not_isLatinSource_of_mem_upperChar {c d : Char} (h : d ∈ upperChar c) : ¬ IsLatinSource d.toNat := by
  rcases mem_upperChar h with himage | ⟨-, hsource⟩
  · exact himage.no_source
  · exact hsource

theorem upperChar_ne_nil (c : Char) : upperChar c ≠ [] := by
  have hcases := upperChar_cases c
  generalize upperChar c = cs at hcases
  cases hcases with
  | expansion he hc => simp [(areImages_expansion _ he).1]
  | run | self => exact List.cons_ne_nil _ _

/-- A character that is no source of latin letters is its own upper case, if there is an ASCII character in that. -/
theorem upperChar_eq_self {c d : Char} (hsource : ¬ IsLatinSource c.toNat) (hd : d ∈ upperChar c)
    (hascii : d.toNat < 0x80) : upperChar c = [c] := by
  have hcases := upperChar_cases c
  generalize upperChar c = cs at hd hcases
  cases hcases with
  | @expansion e he hc =>
    obtain ⟨code, hcode, rfl⟩ := List.mem_map.mp hd
    rw [((areImages_expansion e he).2 code hcode).toNat_ofNat (Nat.le_refl _) (Nat.le_refl _)] at hascii
    rcases source_of_expansion e he with hbeyond | ⟨s, hs, hlow, hhigh⟩
    · have := hbeyond code hcode
      omega
    · exact absurd ⟨s, hs, hc ▸ hlow, hc ▸ hhigh⟩ hsource
  | @run run code hrun hc =>
    obtain ⟨hfirst, hlast, hlow, hhigh⟩ := CaseRun.map?_eq_some hc
    rw [List.mem_singleton.mp hd, (areImages_run run hrun).toNat_ofNat hlow hhigh] at hascii
    rcases source_of_run run hrun with hbeyond | ⟨s, hs, hslow, hshigh⟩
    · omega
    · exact absurd ⟨s, hs, by omega, by omega⟩ hsource
  | self => rfl

/-- A letter from `A` to `Z` is its own upper case. -/
theorem upperChar_capital {c : Char} (hlow : 0x41 ≤ c.toNat) (hhigh : c.toNat ≤ 0x5A) : upperChar c = [c] := by
  have hcases := upperChar_cases c
  generalize upperChar c = cs at hcases
  cases hcases with
  | @expansion e he hc =>
    have := expansion_apart_capitals e he
    omega
  | @run run code hrun hc =>
    have hbounds := CaseRun.map?_eq_some hc
    have := run_apart_capitals run hrun
    omega
  | self => rfl

theorem upper_capitals {s : String} (h : ∀ c ∈ s.toList, 0x41 ≤ c.toNat ∧ c.toNat ≤ 0x5A) : upper s = s := by
  have hkept : ∀ c ∈ s.toList, upperChar c = [c] := fun c hc => upperChar_capital (h c hc).1 (h c hc).2
  rw [upper, upperChars, List.flatMap_congr hkept, List.flatMap_singleton', String.ofList_toList]

/-- An upper case of ASCII characters is not changed by taking the upper case again. -/
theorem upper_upper_of_ascii {s : String} (h : ∀ d ∈ (upper (upper s)).toList, d.toNat < 0x80) :
    upper (upper s) = upper s := by
  have htwice : upper (upper s) = String.ofList ((upperChars s.toList).flatMap upperChar) := by
    simp [upper, upperChars]
  rw [htwice, String.toList_ofList] at h
  have hkept : ∀ c ∈ upperChars s.toList, upperChar c = [c] := by
    intro c hc
    obtain ⟨source, -, hsource⟩ := List.mem_flatMap.mp hc
    obtain ⟨d, rest, hd⟩ := List.exists_cons_of_ne_nil (upperChar_ne_nil c)
    have hmem : d ∈ upperChar c := hd ▸ List.mem_cons_self
    exact upperChar_eq_self (not_isLatinSource_of_mem_upperChar hsource) hmem (h d (List.mem_flatMap.mpr ⟨c, hc, hmem⟩))
  rw [htwice, upper, List.flatMap_congr hkept, List.flatMap_singleton']

end FormRules.Text

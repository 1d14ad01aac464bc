import FormRules.Text.CodePoint

/-!
# Blanks

A blank is a character with the property White_Space; U+200B and U+FEFF are none. `trim` drops the blanks at
both ends of a text, and a text is blank when nothing is left of it.
-/

namespace FormRules.Text

/-- The property White_Space. -/
def blankIntervals : List (Nat × Nat) :=
  [(0x0009, 0x000D), (0x0020, 0x0020), (0x0085, 0x0085), (0x00A0, 0x00A0), (0x1680, 0x1680), (0x2000, 0x200A),
   (0x2028, 0x2029), (0x202F, 0x202F), (0x205F, 0x205F), (0x3000, 0x3000)]

def isBlank (c : Char) : Bool := inIntervals c.toNat blankIntervals

def trimStart (cs : List Char) : List Char := cs.dropWhile isBlank

def trimEnd (cs : List Char) : List Char := (cs.reverse.dropWhile isBlank).reverse

def trimChars (cs : List Char) : List Char := trimEnd (trimStart cs)

/-- The text without the blanks at its two ends. -/
def trim (s : String) : String := String.ofList (trimChars s.toList)

/-- Nothing but blanks. -/
def isBlankText (s : String) : Bool := s.toList.all isBlank

theorem toList_trim (s : String) : (trim s).toList = trimChars s.toList := by simp [trim]

private theorem dropWhile_isBlank_eq_nil {cs : List Char} :
    cs.dropWhile isBlank = [] ↔ ∀ c ∈ cs, isBlank c = true := by
  induction cs with
  | nil => simp
  | cons c cs ih => by_cases h : isBlank c = true <;> simp [h, ih]

theorem trimChars_eq_nil_iff {cs : List Char} : trimChars cs = [] ↔ ∀ c ∈ cs, isBlank c = true := by
  simp only [trimChars, trimEnd, trimStart, List.reverse_eq_nil_iff, dropWhile_isBlank_eq_nil,
    List.mem_reverse]
  constructor
  · intro h
    refine dropWhile_isBlank_eq_nil.mp ?_
    cases hd : cs.dropWhile isBlank with
    | nil => rfl
    | cons c rest =>
      have hc := List.head?_dropWhile_not isBlank cs
      rw [hd] at hc h
      simp [h c List.mem_cons_self] at hc
  · intro h c hc
    exact h c ((List.dropWhile_sublist isBlank).subset hc)

/-- A text is blank when trimming leaves nothing. -/
theorem isBlankText_iff_trim_eq {s : String} : isBlankText s = true ↔ trim s = "" := by
  rw [isBlankText, List.all_eq_true, ← trimChars_eq_nil_iff, ← toList_trim, String.toList_eq_nil_iff]

end FormRules.Text

import Mathlib.Data.Bool.AllAny
import Mathlib.Data.List.TakeWhile
import FormRules.Formula.Lexer
import FormRules.Proofs.Text.Case

/-!
# The parts of tokens

Which characters words and numbers are made of: no character of a word is blank or a mark, and what starts like a
number has an unsigned number in front. The name of a field is referable: it is not empty, has no bracket and no
blank at either end. A token that is read has a kind and a text that fit together (`Legible`), and characters that
are read as one token are followed by the tokens of what follows them (`Reads.tokenizeFrom_append`).
-/

namespace FormRules.Text

theorem trimStart_of_head {cs : List Char} (h : ∀ c, cs.head? = some c → isBlank c = false) :
    trimStart cs = cs := by
  cases cs with
  | nil => rfl
  | cons c rest => exact List.dropWhile_cons_of_neg (by simp [h c rfl])

theorem head_trimStart {cs : List Char} {c : Char} (h : (trimStart cs).head? = some c) : isBlank c = false := by
  have hhead := List.head?_dropWhile_not isBlank cs
  rw [trimStart] at h
  rw [h] at hhead
  simpa using hhead

theorem trimEnd_trimEnd (cs : List Char) : trimEnd (trimEnd cs) = trimEnd cs := by
  have h : trimStart (trimStart cs.reverse) = trimStart cs.reverse := trimStart_of_head fun c => head_trimStart
  rw [trimEnd, trimEnd, List.reverse_reverse]
  exact congrArg List.reverse h

theorem prefix_trimEnd (cs : List Char) : trimEnd cs <+: cs := by
  rw [← List.reverse_suffix, trimEnd, List.reverse_reverse]
  exact List.dropWhile_suffix isBlank

theorem trimChars_trimChars (cs : List Char) : trimChars (trimChars cs) = trimChars cs := by
  have hstart : trimStart (trimChars cs) = trimChars cs := by
    refine trimStart_of_head fun c hc => ?_
    -- what is left begins like the text without the blanks at its start
    obtain ⟨rest, hrest⟩ := prefix_trimEnd (trimStart cs)
    have hhead : (trimStart cs).head? = some c := by
      rw [← hrest, List.head?_append]
      change (trimEnd (trimStart cs)).head? = some c at hc
      rw [hc]
      rfl
    exact head_trimStart hhead
  rw [trimChars, hstart]
  exact trimEnd_trimEnd _

/-- Nothing but blanks. -/
def AllBlank (cs : List Char) : Prop := ∀ c ∈ cs, isBlank c = true

/-- What trimming drops is blank. -/
theorem exists_trimChars_append (cs : List Char) :
    ∃ before after, AllBlank before ∧ AllBlank after ∧ cs = before ++ (trimChars cs ++ after) := by
  have hsplit : trimStart cs = trimEnd (trimStart cs) ++ ((trimStart cs).reverse.takeWhile isBlank).reverse := by
    rw [trimEnd, ← List.reverse_append, List.takeWhile_append_dropWhile, List.reverse_reverse]
  refine ⟨cs.takeWhile isBlank, ((trimStart cs).reverse.takeWhile isBlank).reverse,
    fun c hc => List.mem_takeWhile_imp hc, fun c hc => ?_, ?_⟩
  · exact List.mem_takeWhile_imp (List.mem_reverse.mp hc)
  · rw [trimChars, ← hsplit]
    exact List.takeWhile_append_dropWhile.symm

theorem mem_of_mem_trimChars {cs : List Char} {c : Char} (h : c ∈ trimChars cs) : c ∈ cs := by
  have hstart := (prefix_trimEnd (trimStart cs)).subset h
  exact (List.dropWhile_sublist isBlank).subset hstart

end FormRules.Text

namespace FormRules.Formula

/-- A name that can stand in brackets: not empty, without brackets, and without blanks at its ends. -/
structure Referable (name : String) : Prop where
  ne_empty : name ≠ ""
  no_bracket : ∀ c ∈ name.toList, c ≠ ']' ∧ c ≠ '['
  trimmed : Text.trimChars name.toList = name.toList

namespace Lexeme

open Text (Apart blankIntervals isBlank isLetter isLetterOrNumeral isNumeral letterIntervals numeralIntervals upper)

/-! ### Words -/

/-- A letter or an underscore with letters, numerals and underscores behind it. -/
def isWord : List Char → Bool
  | [] => false
  | c :: rest => isNameStart c && rest.all isNameChar

theorem isNameChar_of_isNameStart {c : Char} (h : isNameStart c = true) : isNameChar c = true := by
  rw [isNameStart, Bool.or_eq_true] at h
  rw [isNameChar, isLetterOrNumeral, Bool.or_eq_true, Bool.or_eq_true]
  exact h.imp_left .inl

/-- The characters beside digits and letters that the tokens are made of. -/
def marks : List Char := ['[', ']', '"', '(', ')', ',', '.', '=', '<', '>', '+', '-', '*', '/']

theorem isNameChar_mark : ∀ c ∈ marks, isNameChar c = false := List.all_iff_forall_prop.mp (by decide)

theorem isBlank_mark : ∀ c ∈ marks, isBlank c = false := List.all_iff_forall_prop.mp (by decide)

theorem isDigit_mark : ∀ c ∈ marks, c.isDigit = false := List.all_iff_forall_prop.mp (by decide)

private theorem apart_blanks : ∀ interval ∈ blankIntervals,
    Apart interval.1 interval.2 letterIntervals ∧ Apart interval.1 interval.2 numeralIntervals := by
  decide +kernel

private theorem apart_digits : Apart 0x30 0x39 letterIntervals := by decide +kernel

theorem isBlank_of_isNameChar {c : Char} (h : isNameChar c = true) : isBlank c = false := by
  refine Bool.eq_false_iff.mpr fun hblank => ?_
  obtain ⟨interval, hinterval, hlow, hhigh⟩ := Text.exists_of_inIntervals hblank
  obtain ⟨hletters, hnumerals⟩ := apart_blanks interval hinterval
  have hletter : isLetter c = false := hletters.inIntervals_eq_false hlow hhigh
  have hnumeral : isNumeral c = false := hnumerals.inIntervals_eq_false hlow hhigh
  have hunderscore : c = '_' := by simpa [isNameChar, isLetterOrNumeral, hletter, hnumeral] using h
  rw [hunderscore] at hblank
  exact absurd hblank (by decide)

theorem isDigit_of_isNameStart {c : Char} (h : isNameStart c = true) : c.isDigit = false := by
  refine Bool.eq_false_iff.mpr fun hdigit => ?_
  obtain ⟨hlow, hhigh⟩ := Char.isDigit_iff_toNat.mp hdigit
  have hletter : isLetter c = false := apart_digits.inIntervals_eq_false hlow hhigh
  have hunderscore : c = '_' := by simpa [isNameStart, hletter] using h
  rw [hunderscore] at hdigit
  exact absurd hdigit (by decide)

theorem isNameChar_of_isDigit {c : Char} (h : c.isDigit = true) : isNameChar c = true := by
  obtain ⟨hlow, hhigh⟩ := Char.isDigit_iff_toNat.mp h
  have hnumeral : isNumeral c = true := Text.inIntervals_of_first hlow hhigh numeralIntervals.tail
  simp [isNameChar, isLetterOrNumeral, hnumeral]

theorem isBlank_of_isDigit {c : Char} (h : c.isDigit = true) : isBlank c = false :=
  isBlank_of_isNameChar (isNameChar_of_isDigit h)

theorem isDigit_of_not_isNameChar {c : Char} (h : isNameChar c = false) : c.isDigit = false := by
  refine Bool.eq_false_iff.mpr fun hdigit => ?_
  rw [isNameChar_of_isDigit hdigit] at h
  cases h

theorem ne_mark_of_isNameChar {c mark : Char} (h : isNameChar c = true) (hmark : mark ∈ marks) : c ≠ mark := by
  rintro rfl
  rw [isNameChar_mark c hmark] at h
  cases h

/-! ### Numerals -/

/-- A number without a sign: digits, or a point with digits behind it. -/
inductive IsUnsigned : List Char → Prop where
  | whole {digits : List Char} (hne : digits ≠ []) (hdigits : ∀ c ∈ digits, c.isDigit = true) : IsUnsigned digits
  | point {whole fraction : List Char} (hne : fraction ≠ []) (hwhole : ∀ c ∈ whole, c.isDigit = true)
      (hfraction : ∀ c ∈ fraction, c.isDigit = true) : IsUnsigned (whole ++ '.' :: fraction)

/-- A number with or without a sign. -/
def IsNumeral (cs : List Char) : Prop := IsUnsigned cs ∨ ∃ body, cs = '-' :: body ∧ IsUnsigned body

theorem IsUnsigned.head {cs : List Char} (h : IsUnsigned cs) :
    ∃ c rest, cs = c :: rest ∧ (c.isDigit = true ∨ c = '.') := by
  cases h with
  | whole hne hdigits =>
    obtain ⟨c, rest, rfl⟩ := List.exists_cons_of_ne_nil hne
    exact ⟨c, rest, rfl, .inl (hdigits c List.mem_cons_self)⟩
  | @point whole fraction _ hwhole _ =>
    cases whole with
    | nil => exact ⟨'.', fraction, rfl, .inr rfl⟩
    | cons c whole => exact ⟨c, whole ++ '.' :: fraction, rfl, .inl (hwhole c List.mem_cons_self)⟩

theorem isDigitFirst_iff {cs : List Char} : isDigitFirst cs = true ↔ cs.takeWhile Char.isDigit ≠ [] := by
  cases cs with
  | nil => simp [isDigitFirst]
  | cons c rest => cases hc : c.isDigit <;> simp [isDigitFirst, hc]

theorem isUnsigned_unsignedNumber {cs : List Char} (h : startsNumber cs = true) : IsUnsigned (unsignedNumber cs) := by
  have hdigits (cs : List Char) : ∀ c ∈ cs.takeWhile Char.isDigit, c.isDigit = true :=
    fun c hc => List.mem_takeWhile_imp hc
  unfold unsignedNumber
  extract_lets whole
  -- no number starts with a point without a digit behind it
  have hwhole (hstop : isDigitFirst (cs.drop 1) = false ∨ cs.head? ≠ some '.') : IsUnsigned whole := by
    refine .whole (isDigitFirst_iff.mp ?_) (hdigits cs)
    unfold startsNumber at h
    split at h
    · next rest => simp [h] at hstop
    · exact h
  split
  · next rest hdrop =>
    split
    · next hfirst => exact .point (isDigitFirst_iff.mp hfirst) (hdigits cs) (hdigits rest)
    · next hfirst =>
      refine hwhole ?_
      cases cs with
      | nil => exact .inr (by simp)
      | cons c cs =>
        by_cases hc : c = '.'
        · subst hc
          have hnil : whole = [] := rfl
          rw [hnil] at hdrop
          cases hdrop
          exact .inl (by simpa using hfirst)
        · exact .inr (by simpa using hc)
  · next hpoint =>
    refine hwhole (.inr fun hhead => ?_)
    cases cs with
    | nil => cases hhead
    | cons c cs =>
      cases hhead
      exact hpoint cs rfl

/-! ### Tokens -/

/-- The kinds and texts of the tokens that are read. -/
inductive Legible : TokenKind → String → Prop
  | field {name : String} (h : Referable name) : Legible .field name
  | text (s : String) : Legible .text s
  | opening : Legible .openParen "("
  | closing : Legible .closeParen ")"
  | comma : Legible .comma ","
  | number {cs : List Char} (h : startsNumber cs = true) : Legible .number (String.ofList (unsignedNumber cs))
  | signed {cs : List Char} (h : startsNumber cs = true) : Legible .number (String.ofList ('-' :: unsignedNumber cs))
  | operator (symbol : String) : Legible .operator symbol
  | truth {text : String} (h : text = "TRUE" ∨ text = "FALSE") : Legible .boolean text
  | function {c : Char} {rest : List Char} (hc : isNameStart c = true) (hrest : ∀ d ∈ rest, isNameChar d = true)
      (h : ¬ (upper (String.ofList (c :: rest)) = "TRUE" ∨ upper (String.ofList (c :: rest)) = "FALSE")) :
      Legible .function (upper (String.ofList (c :: rest)))

theorem Legible.kind_ne_eof {kind : TokenKind} {text : String} (h : Legible kind text) : kind ≠ .eof := by
  rintro rfl
  cases h

theorem Legible.referable {text : String} (h : Legible .field text) : Referable text := by
  cases h with
  | field h => exact h

/-- The characters are read as one token of the kind with the text, if `Next` holds of what follows them. -/
def Reads (afterOperand : Bool) (Next : List Char → Prop) (cs : List Char) (kind : TokenKind) (text : String) : Prop :=
  ∃ c rest, cs = c :: rest ∧ Text.isBlank c = false ∧
    ∀ position tail, Next tail → read afterOperand position c (rest ++ tail) = .ok ⟨kind, text, rest.length⟩

theorem Reads.tokenizeFrom_append {afterOperand : Bool} {Next : List Char → Prop} {cs tail : List Char}
    {kind : TokenKind} {text : String} (h : Reads afterOperand Next cs kind text) (htail : Next tail)
    (position : Nat) : tokenizeFrom afterOperand position (cs ++ tail) =
      (tokenizeFrom kind.endsOperand (position + cs.length) tail).map (⟨kind, text, position⟩ :: ·) := by
  obtain ⟨c, rest, rfl, hblank, hread⟩ := h
  have hposition : position + (c :: rest).length = position + 1 + rest.length := by
    rw [List.length_cons, Nat.add_assoc, Nat.add_comm 1]
  rw [List.cons_append, tokenizeFrom, if_neg (by simp [hblank]), hread position tail htail, hposition]
  simp only [bind, Except.bind, List.drop_left, pure, Except.pure]
  cases tokenizeFrom kind.endsOperand (position + 1 + rest.length) tail <;> rfl

end Lexeme

/-- Blanks are read as no tokens. -/
theorem tokenizeFrom_gap {gap : List Char} (h : Text.AllBlank gap) (afterOperand : Bool) (position : Nat)
    (cs : List Char) :
    tokenizeFrom afterOperand position (gap ++ cs) = tokenizeFrom afterOperand (position + gap.length) cs := by
  induction gap generalizing position with
  | nil => rfl
  | cons c gap ih =>
    obtain ⟨hc, hgap⟩ := List.forall_mem_cons.mp h
    rw [List.cons_append, tokenizeFrom, if_pos hc, ih hgap, List.length_cons, Nat.add_assoc, Nat.add_comm 1]

end FormRules.Formula

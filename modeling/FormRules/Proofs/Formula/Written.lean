import FormRules.Proofs.Formula.Spelling

/-!
# Reading what is written for a token

What is written for a token is a token of the lexical grammar (`Scans`), if what follows does not go on with it:
names in brackets and texts in quotes (`reads_field`, `reads_text`), numerals (`reads_numeral`), truth values
(`reads_truth`), names of functions (`reads_name`) and operators (`reads_operator`). The word of a number that is not
finite and the name of a function that is not a word are refused (`refused_nonfinite`, `refused_name`).
-/

namespace FormRules.Formula

open Text (isBlank upper)

namespace Lexeme

/-! ### What follows -/

/-- The characters that go on with a formula behind an operand. -/
def joints : List Char := [',', ')', '=', '<', '>', '+', '-', '*', '/']

theorem mem_marks_of_mem_joints : ∀ c ∈ joints, c ∈ marks := List.all_iff_forall_prop.mp (by decide)

/-- What may follow an operand. -/
def Follows (tail : List Char) : Prop := ∀ c, tail.head? = some c → c ∈ joints

theorem follows_nil : Follows [] := nofun

theorem follows_cons {c : Char} {rest : List Char} (h : c ∈ joints) : Follows (c :: rest) := by
  intro d hd
  cases hd
  exact h

namespace Follows

variable {tail : List Char} (h : Follows tail)

include h

theorem isNameChar_head : ∀ c, tail.head? = some c → isNameChar c = false :=
  fun c hc => isNameChar_mark c (mem_marks_of_mem_joints c (h c hc))

theorem isDigit_head : ∀ c, tail.head? = some c → c.isDigit = false :=
  fun c hc => isDigit_mark c (mem_marks_of_mem_joints c (h c hc))

theorem trimStart_eq : Text.trimStart tail = tail :=
  Text.trimStart_of_head fun c hc => isBlank_mark c (mem_marks_of_mem_joints c (h c hc))

theorem head_ne {mark : Char} (hmark : mark ∉ joints) : tail.head? ≠ some mark := fun hc => hmark (h mark hc)

end Follows

/-- What may follow an operator: nothing that makes another operator of it. -/
def EndsOperator (tail : List Char) : Prop := ∀ c, tail.head? = some c → c ≠ '=' ∧ c ≠ '>'

theorem endsOperator_nil : EndsOperator [] := nofun

/-! ### Texts -/

theorem reads_text (afterOperand : Bool) (text : String) :
    Reads afterOperand Follows ('"' :: (Token.escapeQuotes text.toList ++ ['"'])) .text text := by
  refine reads_of_scans follows_nil fun tail htail => ?_
  have hscans : Scans afterOperand tail ('"' :: (Token.escapeQuotes text.toList ++ ['"'])) .text
      (String.ofList text.toList) := .text (htail.head_ne (by decide))
  rwa [String.ofList_toList] at hscans

/-! ### Numbers -/

theorem Follows.numberEnds {tail : List Char} (h : Follows tail) (cs : List Char) : NumberEnds cs tail := by
  have hdigit : isDigitFirst tail = false := isDigitFirst_eq_false h.isDigit_head
  refine ⟨hdigit, fun _ => ?_⟩
  cases tail with
  | nil => rfl
  | cons c rest =>
    have hpoint : c ≠ '.' := fun heq => absurd (h c rfl) (heq ▸ by decide)
    rw [startsNumber_cons hpoint]
    exact hdigit

theorem IsUnsigned.reads {cs : List Char} (h : IsUnsigned cs) (afterOperand : Bool) :
    Reads afterOperand Follows cs .number (String.ofList cs) :=
  reads_of_scans follows_nil fun _ htail => .number h (htail.numberEnds cs)

theorem reads_signed {body : List Char} (h : IsUnsigned body) :
    Reads false Follows ('-' :: body) .number (String.ofList ('-' :: body)) :=
  reads_of_scans follows_nil fun _ htail => .signed rfl h (htail.numberEnds body)

theorem reads_numeral {cs : List Char} (h : IsNumeral cs) : Reads false Follows cs .number (String.ofList cs) := by
  rcases h with h | ⟨body, rfl, h⟩
  · exact h.reads false
  · exact reads_signed h

/-! ### Operators and other marks -/

theorem EndsOperator.not_mem_pairs {tail : List Char} (h : EndsOperator tail) (c : Char) :
    ∀ d, tail.head? = some d → [c, d] ∉ pairs := by
  intro d hd
  obtain ⟨heq, hgt⟩ := h d hd
  simp [pairs, heq, hgt]

theorem reads_operator {tier : Tier} {symbol : String} (h : symbol ∈ tier.symbols) :
    Reads true EndsOperator symbol.toList .operator symbol := by
  have hall : ∀ tier : Tier, ∀ symbol ∈ tier.symbols,
      symbol.toList ∈ signs.map ([·]) ∨ symbol.toList ∈ pairs := by
    intro tier
    cases tier <;> decide
  refine reads_of_scans endsOperator_nil fun tail htail => ?_
  have hscans : Scans true tail symbol.toList .operator (String.ofList symbol.toList) := by
    rcases hall tier symbol h with hsingle | hdouble
    · obtain ⟨c, hc, heq⟩ := List.mem_map.mp hsingle
      rw [← heq]
      exact .sign hc (htail.not_mem_pairs c) fun _ => .inl rfl
    · exact .pair hdouble
  rwa [String.ofList_toList] at hscans

/-- A minus in front of an operand that does not start with a number. -/
theorem reads_minus (afterOperand : Bool) :
    Reads afterOperand (fun tail => startsNumber tail = false ∧ EndsOperator tail) "-".toList .operator "-" :=
  reads_of_scans ⟨rfl, endsOperator_nil⟩ fun _ htail =>
    .sign (by decide) (htail.2.not_mem_pairs '-') fun _ => .inr htail.1

theorem reads_opening (afterOperand : Bool) (Next : List Char → Prop) :
    Reads afterOperand Next "(".toList .openParen "(" := ⟨'(', [], rfl, by decide, fun _ _ _ => rfl⟩

theorem reads_closing (afterOperand : Bool) (Next : List Char → Prop) :
    Reads afterOperand Next ")".toList .closeParen ")" := ⟨')', [], rfl, by decide, fun _ _ _ => rfl⟩

theorem reads_comma (afterOperand : Bool) (Next : List Char → Prop) :
    Reads afterOperand Next ",".toList .comma "," := ⟨',', [], rfl, by decide, fun _ _ _ => rfl⟩

/-! ### Words -/

theorem Stray.refused {c : Char} (h : Stray c) (afterOperand : Bool) (position : Nat) (rest : List Char) :
    ∃ e, tokenizeFrom afterOperand position (c :: rest) = .error e := by
  refine ⟨.malformed position (.strayCharacter c), ?_⟩
  rw [tokenizeFrom, if_neg (by simp [h.no_blank]), read_of_not_mark h.not_mem_marks h.isDigit_eq_false,
    if_neg (by simp [h.no_name])]
  rfl

theorem reads_truth {text : String} (h : text = "TRUE" ∨ text = "FALSE") (afterOperand : Bool) :
    Reads afterOperand Follows text.toList .boolean text := by
  have hword : isWord text.toList = true ∧ upper (String.ofList text.toList) = text := by
    rcases h with rfl | rfl <;> exact ⟨by decide, by decide +kernel⟩
  refine reads_of_scans follows_nil fun tail htail => ?_
  have hscans : Scans afterOperand tail text.toList .boolean (upper (String.ofList text.toList)) :=
    .truth hword.1 htail.isNameChar_head (by rwa [hword.2])
  rwa [hword.2] at hscans

/-- The name of a function in front of a parenthesis; it may be another one in upper case. -/
theorem reads_name {text : String} {word : List Char} (htext : text = upper (String.ofList word))
    (htrue : text ≠ "TRUE") (hfalse : text ≠ "FALSE") (hword : isWord text.toList = true) (afterOperand : Bool) :
    Reads afterOperand (fun tail => tail.head? = some '(') text.toList .function (upper text) := by
  -- the upper case of the name is none of these words, since it would be the name itself
  have hne {truth : String} (hascii : ∀ d ∈ truth.toList, d.toNat < 0x80) (htruth : text ≠ truth) :
      upper text ≠ truth := by
    intro heq
    have hsame : upper text = text := by
      rw [htext] at heq ⊢
      exact Text.upper_upper_of_ascii (heq ▸ hascii)
    exact htruth (hsame.symm.trans heq)
  have hnone : ¬ (upper text = "TRUE" ∨ upper text = "FALSE") :=
    not_or.mpr ⟨hne (List.all_iff_forall_prop.mp (by decide)) htrue,
      hne (List.all_iff_forall_prop.mp (by decide)) hfalse⟩
  refine reads_of_scans (show ['('].head? = some '(' from rfl) fun tail htail => ?_
  obtain ⟨rest, rfl⟩ := List.head?_eq_some_iff.mp htail
  have hends : WordEnds ('(' :: rest) := by
    intro c hc
    cases hc
    decide
  have hscans : Scans afterOperand ('(' :: rest) text.toList .function (upper (String.ofList text.toList)) :=
    .function hword hends (by rwa [String.ofList_toList]) (.inr rfl)
  rwa [String.ofList_toList] at hscans

/-! ### Refusals -/

/-- The characters are not read as tokens, if `Next` holds of what follows them. -/
def Refused (afterOperand : Bool) (Next : List Char → Prop) (cs : List Char) : Prop :=
  ∀ position tail, Next tail → ∃ e, tokenizeFrom afterOperand position (cs ++ tail) = .error e

/-- A word that is neither a truth value nor a function. -/
theorem refused_word {c : Char} {rest : List Char} (hc : isNameStart c = true)
    (hrest : ∀ d ∈ rest, isNameChar d = true)
    (htrue : upper (String.ofList (c :: rest)) ≠ "TRUE") (hfalse : upper (String.ofList (c :: rest)) ≠ "FALSE")
    (hnone : (Builtin.ofName? (upper (String.ofList (c :: rest)))).isSome = false) (afterOperand : Bool) :
    Refused afterOperand Follows (c :: rest) := by
  intro position tail htail
  have hopening : ¬ (Text.trimStart tail).head? = some '(' := by
    rw [htail.trimStart_eq]
    exact htail.head_ne (by decide)
  refine ⟨.malformed position (.unknownWord (String.ofList (c :: rest))), ?_⟩
  rw [List.cons_append, tokenizeFrom, if_neg (by simp [isBlank_of_isNameChar (isNameChar_of_isNameStart hc)]),
    read_word hc, word_append hrest htail.isNameChar_head]
  simp only [htrue, hfalse, or_self, ↓reduceIte, hnone, hopening, Bool.false_eq_true]
  rfl

theorem refused_nonfinite {text : String} (h : text ∈ nonfiniteWords) (afterOperand : Bool) :
    Refused afterOperand Follows text.toList := by
  have hinfinite (afterOperand : Bool) : Refused afterOperand Follows ['i', 'n', 'f'] :=
    refused_word (by decide) (List.all_eq_true.mp (by decide)) (by decide +kernel) (by decide +kernel)
      (by decide +kernel) afterOperand
  simp only [nonfiniteWords, List.mem_cons, List.not_mem_nil, or_false] at h
  rcases h with rfl | rfl | rfl
  · exact hinfinite afterOperand
  · intro position tail htail
    have hnext : startsNumber (['i', 'n', 'f'] ++ tail) = false ∧ EndsOperator (['i', 'n', 'f'] ++ tail) := by
      refine ⟨startsNumber_cons (by decide) _, fun c hc => ?_⟩
      cases hc
      decide
    have hminus := (reads_minus afterOperand).tokenizeFrom_append hnext position
    obtain ⟨e, he⟩ := hinfinite false (position + 1) tail htail
    exact ⟨e, hminus.trans (congrArg (Except.map _) he)⟩
  · exact refused_word (by decide) (List.all_eq_true.mp (by decide)) (by decide +kernel) (by decide +kernel)
      (by decide +kernel) afterOperand

/-- A word with a stray character behind it. -/
theorem refused_stray {c d : Char} {rest : List Char} (hc : isNameStart c = true)
    (hrest : ∀ e ∈ rest, isNameChar e = true) (hname : isNameChar d = false) (hd : Stray d) (afterOperand : Bool)
    (position : Nat) (tail : List Char) :
    ∃ e, tokenizeFrom afterOperand position (c :: (rest ++ d :: tail)) = .error e := by
  have hhead : ∀ e, (d :: tail).head? = some e → isNameChar e = false := by
    intro e he
    cases he
    exact hname
  have hblank : ¬ isBlank c = true := by simp [isBlank_of_isNameChar (isNameChar_of_isNameStart hc)]
  -- whether or not the word is one of a formula, what stands behind it is refused
  cases hread : word position c (rest ++ d :: tail) with
  | error e => exact ⟨e, by rw [tokenizeFrom, if_neg hblank, read_word hc, hread]; rfl⟩
  | ok lexeme =>
    have htail : lexeme.tail = rest.length := by
      rw [word_append hrest hhead] at hread
      dsimp only at hread
      split at hread
      · cases hread
        rfl
      · split at hread
        · cases hread
          rfl
        · cases hread
    obtain ⟨e, he⟩ := hd.refused lexeme.kind.endsOperand (position + 1 + rest.length) tail
    refine ⟨e, ?_⟩
    rw [tokenizeFrom, if_neg hblank, read_word hc, hread]
    show (tokenizeFrom _ (position + 1 + lexeme.tail) (List.drop lexeme.tail _) >>= _) = _
    rw [htail, List.drop_left, he]
    rfl

theorem refused_name {word : List Char} (hword : isWord word = true)
    (h : isWord (Text.upperChars word) = false) (afterOperand : Bool) (Next : List Char → Prop) :
    Refused afterOperand Next (Text.upperChars word) := by
  intro position tail _
  obtain ⟨c, behind, hupper, hc | hstray, hbehind⟩ := exists_upperChars_cons hword
  · rw [hupper, isWord, hc, Bool.true_and] at h
    have hsplit := List.takeWhile_append_dropWhile (p := isNameChar) (l := behind)
    cases hdrop : behind.dropWhile isNameChar with
    | nil =>
      rw [List.dropWhile_eq_nil_iff, ← List.all_eq_true, h] at hdrop
      cases hdrop
    | cons d others =>
      have hname : isNameChar d = false := by
        have hhead := List.head?_dropWhile_not isNameChar behind
        rw [hdrop] at hhead
        simpa using hhead
      have hd : d ∈ behind := (List.dropWhile_sublist isNameChar).subset (hdrop ▸ List.mem_cons_self)
      have hstray : Stray d := (hbehind d hd).resolve_left (by simp [hname])
      rw [hdrop] at hsplit
      rw [hupper, ← hsplit, List.cons_append, List.append_assoc, List.cons_append]
      exact refused_stray hc (fun e he => List.mem_takeWhile_imp he) hname hstray afterOperand position _
  · rw [hupper]
    exact hstray.refused afterOperand position _

end Lexeme

end FormRules.Formula

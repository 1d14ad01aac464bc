import FormRules.Proofs.Formula.Lexing

/-!
# The lexical grammar of formulas

`Scans afterOperand tail cs kind text` says that the characters `cs` in front of `tail` are one token. Each kind
of token has its own characters, and its own condition on what follows it: a number goes on as long as it can, a
text does not end where a quote is written twice, a word that is no built-in function needs a parenthesis. Main
statements: a token that is read is one of the grammar (`scans_of_read`), and each of the grammar is read
(`Scans.read_eq`), so reading a token depends on the text behind it through these conditions alone. The tokens of a
text are legible, and its end is the last one (`tokenizeFrom_eq_ok`).
-/

namespace FormRules.Formula

open Text (isBlank upper)

namespace Lexeme

/-! ### Runs of characters -/

theorem takeWhile_append {p : Char → Bool} {cs tail : List Char} (hcs : ∀ c ∈ cs, p c = true)
    (htail : ∀ c, tail.head? = some c → p c = false) : (cs ++ tail).takeWhile p = cs := by
  rw [List.takeWhile_append_of_pos hcs]
  cases tail with
  | nil => simp
  | cons c tail => simp [htail c rfl]

/-- A text is a longest run and what follows it. -/
theorem exists_takeWhile_append (p : Char → Bool) (cs : List Char) :
    ∃ tail, cs = cs.takeWhile p ++ tail ∧ cs.drop (cs.takeWhile p).length = tail ∧
      ∀ c, tail.head? = some c → p c = false := by
  have hsplit : cs = cs.takeWhile p ++ cs.dropWhile p := List.takeWhile_append_dropWhile.symm
  have hdrop : cs.drop (cs.takeWhile p).length = cs.dropWhile p := by
    calc cs.drop (cs.takeWhile p).length
        = (cs.takeWhile p ++ cs.dropWhile p).drop (cs.takeWhile p).length := by rw [← hsplit]
      _ = cs.dropWhile p := List.drop_left
  refine ⟨cs.dropWhile p, hsplit, hdrop, fun c hc => ?_⟩
  have hhead := List.head?_dropWhile_not p cs
  rw [hc] at hhead
  exact hhead

/-! ### What follows a token -/

/-- What follows a number: no digit, nor a point in front of a digit unless the number has a point already. -/
structure NumberEnds (cs tail : List Char) : Prop where
  no_digit : isDigitFirst tail = false
  no_point : '.' ∉ cs → startsNumber tail = false

/-- What follows a word. -/
def WordEnds (tail : List Char) : Prop := ∀ c, tail.head? = some c → isNameChar c = false

/-- The characters of operators. -/
def signs : List Char := ['=', '<', '>', '+', '-', '*', '/']

/-- The operators of two characters. -/
def pairs : List (List Char) := [['<', '>'], ['<', '='], ['>', '=']]

/-- The characters are one token in front of `tail`, and behind a token that does or does not end an operand. -/
inductive Scans (afterOperand : Bool) (tail : List Char) : List Char → TokenKind → String → Prop
  | field {inner : List Char} (hinner : ∀ c ∈ inner, c ≠ ']' ∧ c ≠ '[') (hname : Text.trimChars inner ≠ []) :
      Scans afterOperand tail ('[' :: (inner ++ [']'])) .field (String.ofList (Text.trimChars inner))
  | text {content : List Char} (htail : tail.head? ≠ some '"') :
      Scans afterOperand tail ('"' :: (Token.escapeQuotes content ++ ['"'])) .text (String.ofList content)
  | opening : Scans afterOperand tail ['('] .openParen "("
  | closing : Scans afterOperand tail [')'] .closeParen ")"
  | comma : Scans afterOperand tail [','] .comma ","
  | number {cs : List Char} (h : IsUnsigned cs) (htail : NumberEnds cs tail) :
      Scans afterOperand tail cs .number (String.ofList cs)
  | signed {cs : List Char} (hbefore : afterOperand = false) (h : IsUnsigned cs) (htail : NumberEnds cs tail) :
      Scans afterOperand tail ('-' :: cs) .number (String.ofList ('-' :: cs))
  | sign {c : Char} (hc : c ∈ signs) (htail : ∀ d, tail.head? = some d → [c, d] ∉ pairs)
      (hminus : c = '-' → afterOperand = true ∨ startsNumber tail = false) :
      Scans afterOperand tail [c] .operator (String.ofList [c])
  | pair {cs : List Char} (h : cs ∈ pairs) : Scans afterOperand tail cs .operator (String.ofList cs)
  | truth {word : List Char} (hword : isWord word = true) (htail : WordEnds tail)
      (h : upper (String.ofList word) = "TRUE" ∨ upper (String.ofList word) = "FALSE") :
      Scans afterOperand tail word .boolean (upper (String.ofList word))
  | function {word : List Char} (hword : isWord word = true) (htail : WordEnds tail)
      (hne : ¬ (upper (String.ofList word) = "TRUE" ∨ upper (String.ofList word) = "FALSE"))
      (h : (Builtin.ofName? (upper (String.ofList word))).isSome = true ∨ (Text.trimStart tail).head? = some '(') :
      Scans afterOperand tail word .function (upper (String.ofList word))

variable {afterOperand : Bool} {position : Nat} {c : Char} {cs rest tail : List Char} {lexeme : Lexeme}

/-! ### Texts -/

theorem quoted?_escapeQuotes (cs : List Char) (h : tail.head? ≠ some '"') :
    quoted? (Token.escapeQuotes cs ++ '"' :: tail) = some (cs, (Token.escapeQuotes cs).length + 1) := by
  induction cs with
  | nil =>
    show quoted? ('"' :: tail) = _
    cases tail with
    | nil => rfl
    | cons c tail =>
      have hc : c ≠ '"' := fun heq => h (by rw [heq]; rfl)
      rw [quoted?]
      · rfl
      · simpa using hc
  | cons c cs ih =>
    rw [Token.escapeQuotes]
    split
    · next heq =>
      subst heq
      simp [quoted?, ih]
    · next hne =>
      rw [List.cons_append, quoted?, ih]
      · rfl
      all_goals simp [hne]

theorem eq_append_of_quoted? {content : List Char} {size : Nat} (h : quoted? rest = some (content, size)) :
    ∃ tail, rest = Token.escapeQuotes content ++ '"' :: tail ∧ size = (Token.escapeQuotes content).length + 1 ∧
      tail.head? ≠ some '"' := by
  fun_induction quoted? rest generalizing content size with
  | case1 => cases h
  | case2 rest ih =>
    obtain ⟨⟨inner, n⟩, hinner, heq⟩ := Option.map_eq_some_iff.mp h
    cases heq
    obtain ⟨tail, rfl, rfl, htail⟩ := ih hinner
    exact ⟨tail, rfl, rfl, htail⟩
  | case3 tail hne =>
    cases h
    refine ⟨tail, rfl, rfl, fun hhead => ?_⟩
    obtain ⟨rest, rfl⟩ := List.head?_eq_some_iff.mp hhead
    exact hne rest rfl
  | case4 c rest hne hne' ih =>
    obtain ⟨⟨inner, n⟩, hinner, heq⟩ := Option.map_eq_some_iff.mp h
    cases heq
    obtain ⟨tail, rfl, rfl, htail⟩ := ih hinner
    have hc : c ≠ '"' := fun heq => hne' heq
    exact ⟨tail, by simp [Token.escapeQuotes, hc], by simp [Token.escapeQuotes, hc], htail⟩

/-! ### Numbers -/

theorem startsNumber_cons (hc : c ≠ '.') (rest : List Char) : startsNumber (c :: rest) = c.isDigit := by
  rw [startsNumber]
  · rfl
  · simpa using hc

theorem isDigit_head_of_isDigitFirst (h : isDigitFirst tail = false) :
    ∀ c, tail.head? = some c → c.isDigit = false := by
  intro c hc
  obtain ⟨rest, rfl⟩ := List.head?_eq_some_iff.mp hc
  exact h

theorem isDigitFirst_eq_false (h : ∀ c, tail.head? = some c → c.isDigit = false) : isDigitFirst tail = false := by
  cases tail with
  | nil => rfl
  | cons c rest => exact h c rfl

theorem not_mem_digits {digits : List Char} (h : ∀ c ∈ digits, c.isDigit = true) : '.' ∉ digits := by
  intro hmem
  have := h '.' hmem
  cases this

namespace IsUnsigned

variable (h : IsUnsigned cs)

include h

theorem startsNumber_append (tail : List Char) : startsNumber (cs ++ tail) = true := by
  obtain ⟨c, rest, heq, hc⟩ := h.head
  by_cases hpoint : c = '.'
  · subst hpoint
    cases h with
    | whole _ hdigits => exact absurd (heq ▸ List.mem_cons_self) (not_mem_digits hdigits)
    | @point whole fraction hne hwhole hfraction =>
      cases whole with
      | nil =>
        obtain ⟨d, fraction, rfl⟩ := List.exists_cons_of_ne_nil hne
        exact hfraction d List.mem_cons_self
      | cons d whole =>
        cases heq
        exact absurd List.mem_cons_self (not_mem_digits hwhole)
  · rw [heq, List.cons_append, startsNumber_cons hpoint]
    exact hc.resolve_right hpoint

theorem unsignedNumber_append (htail : NumberEnds cs tail) : unsignedNumber (cs ++ tail) = cs := by
  have hdigit := isDigit_head_of_isDigitFirst htail.no_digit
  unfold unsignedNumber
  cases h with
  | whole hne hdigits =>
    have hpoint := htail.no_point (not_mem_digits hdigits)
    simp only [takeWhile_append hdigits hdigit, List.drop_left]
    split
    · next after =>
      have hno : isDigitFirst after = false := hpoint
      simp [hno]
    · rfl
  | @point whole fraction hne hwhole hfraction =>
    have htake : (whole ++ '.' :: (fraction ++ tail)).takeWhile Char.isDigit = whole := by
      refine takeWhile_append hwhole fun c hc => ?_
      cases hc
      rfl
    have hfirst : isDigitFirst (fraction ++ tail) = true := by
      obtain ⟨d, fraction, rfl⟩ := List.exists_cons_of_ne_nil hne
      exact hfraction d List.mem_cons_self
    rw [List.append_assoc, List.cons_append, htake]
    simp only [List.drop_left, hfirst, ↓reduceIte, takeWhile_append hfraction hdigit]

theorem startsNumber_eq : startsNumber cs = true := by
  have hstarts := h.startsNumber_append []
  rwa [List.append_nil] at hstarts

theorem unsignedNumber_eq : unsignedNumber cs = cs := by
  have hends : NumberEnds cs [] := ⟨rfl, fun _ => rfl⟩
  have hnumber := h.unsignedNumber_append hends
  rwa [List.append_nil] at hnumber

end IsUnsigned

/-- A text starts with its number, which has ended where the number does. -/
theorem exists_unsignedNumber_append (cs : List Char) :
    ∃ tail, cs = unsignedNumber cs ++ tail ∧ NumberEnds (unsignedNumber cs) tail := by
  obtain ⟨behind, hsplit, hdrop, hstop⟩ := exists_takeWhile_append Char.isDigit cs
  unfold unsignedNumber
  simp only [hdrop]
  split
  · next rest =>
    cases hfirst : isDigitFirst rest with
    | true =>
      obtain ⟨tail, hrest, -, htail⟩ := exists_takeWhile_append Char.isDigit rest
      refine ⟨tail, ?_, ⟨isDigitFirst_eq_false htail, fun hpoint => absurd (by simp) hpoint⟩⟩
      simp only [↓reduceIte]
      rw [List.append_assoc, List.cons_append, ← hrest]
      exact hsplit
    | false => exact ⟨'.' :: rest, hsplit, ⟨rfl, fun _ => hfirst⟩⟩
  · next hpoint =>
    have hdigit := isDigitFirst_eq_false hstop
    refine ⟨behind, hsplit, ⟨hdigit, fun _ => ?_⟩⟩
    rw [startsNumber]
    · exact hdigit
    · exact hpoint

/-! ### Operators and words -/

theorem mem_marks_of_mem_signs : ∀ c ∈ signs, c ∈ marks := List.all_iff_forall_prop.mp (by decide)

theorem operator?_single (hc : c ∈ signs) (htail : ∀ d, tail.head? = some d → [c, d] ∉ pairs) :
    operator? c tail = some ⟨.operator, String.ofList [c], 0⟩ := by
  unfold operator?
  split
  · exact absurd (by decide) (htail _ rfl)
  · exact absurd (by decide) (htail _ rfl)
  · exact absurd (by decide) (htail _ rfl)
  · exact if_pos hc

/-- What starts with a character that is no mark and no digit is a word, or refused. -/
theorem read_of_not_mark (hmark : c ∉ marks) (hdigit : c.isDigit = false) (afterOperand : Bool)
    (position : Nat) (rest : List Char) : read afterOperand position c rest =
      if isNameStart c then word position c rest else .error (.malformed position (.strayCharacter c)) := by
  have hne {mark : Char} (hmem : mark ∈ marks) : c ≠ mark := fun heq => hmark (heq ▸ hmem)
  have hnone : startsNumber (c :: rest) = false := by rw [startsNumber_cons (hne (by decide)), hdigit]
  have hoperator : operator? c rest = none := by
    unfold operator?
    split
    · exact absurd rfl (hne (by decide))
    · exact absurd rfl (hne (by decide))
    · exact absurd rfl (hne (by decide))
    · exact if_neg fun hc => hmark (mem_marks_of_mem_signs c hc)
  rw [read, if_neg (hne (by decide)), if_neg (hne (by decide)), if_neg (hne (by decide)),
    if_neg (hne (by decide)), if_neg (hne (by decide)), if_neg (by simp [hnone]),
    if_neg fun hc => hne (by decide) hc.1, hoperator]

theorem not_mem_marks (h : isNameChar c = true) : c ∉ marks :=
  fun hmem => ne_mark_of_isNameChar h hmem rfl

theorem read_word (hc : isNameStart c = true) (afterOperand : Bool) (position : Nat) (rest : List Char) :
    read afterOperand position c rest = word position c rest := by
  rw [read_of_not_mark (not_mem_marks (isNameChar_of_isNameStart hc)) (isDigit_of_isNameStart hc), if_pos hc]

/-- A word is read to its end. -/
theorem word_append (hrest : ∀ d ∈ rest, isNameChar d = true) (htail : WordEnds tail) (position : Nat) :
    word position c (rest ++ tail) =
      let written := String.ofList (c :: rest)
      if upper written = "TRUE" ∨ upper written = "FALSE" then .ok ⟨.boolean, upper written, rest.length⟩
      else if (Builtin.ofName? (upper written)).isSome ∨ (Text.trimStart tail).head? = some '(' then
        .ok ⟨.function, upper written, rest.length⟩
      else .error (.malformed position (.unknownWord written)) := by
  unfold word
  simp only [takeWhile_append hrest htail, List.drop_left]

theorem isWord_cons : isWord (c :: rest) = true ↔ isNameStart c = true ∧ ∀ d ∈ rest, isNameChar d = true := by
  rw [isWord, Bool.and_eq_true, List.all_eq_true]

/-! ### What is read is a token of the grammar -/

/-- What is read of the characters behind the first one, and the token that it is. -/
def ReadsAs (afterOperand : Bool) (c : Char) (rest : List Char) (lexeme : Lexeme) : Prop :=
  ∃ body tail, rest = body ++ tail ∧ lexeme.tail = body.length ∧
    Scans afterOperand tail (c :: body) lexeme.kind lexeme.text

theorem readsAs_field (h : field position rest = .ok lexeme) : ReadsAs afterOperand '[' rest lexeme := by
  have hinner : ∀ c ∈ rest.takeWhile fun c => c ≠ ']' ∧ c ≠ '[', c ≠ ']' ∧ c ≠ '[' :=
    fun c hc => by simpa using List.mem_takeWhile_imp hc
  obtain ⟨behind, hsplit, hdrop, hstop⟩ := exists_takeWhile_append (fun c => decide (c ≠ ']' ∧ c ≠ '[')) rest
  unfold field at h
  dsimp only at h
  rw [hdrop] at h
  split at h
  · cases h
  · next c after =>
    split at h
    · cases h
    · next hbracket =>
      obtain rfl : c = ']' := by
        by_contra hne
        have := hstop c rfl
        simp [hne, hbracket] at this
      split at h
      · cases h
      · next hempty =>
        cases h
        exact ⟨_ ++ [']'], after, by simpa using hsplit, by simp,
          .field hinner fun hnil => hempty (List.isEmpty_iff.mpr hnil)⟩

theorem readsAs_textLiteral (h : textLiteral position rest = .ok lexeme) : ReadsAs afterOperand '"' rest lexeme := by
  unfold textLiteral at h
  split at h
  · next content size hquoted =>
    cases h
    obtain ⟨tail, rfl, rfl, htail⟩ := eq_append_of_quoted? hquoted
    exact ⟨_ ++ ['"'], tail, by simp, by simp, .text htail⟩
  · cases h

theorem readsAs_number (h : startsNumber (c :: rest) = true) :
    ReadsAs afterOperand c rest (number [] (c :: rest)) := by
  have hunsigned := isUnsigned_unsignedNumber h
  obtain ⟨tail, hsplit, htail⟩ := exists_unsignedNumber_append (c :: rest)
  unfold number
  dsimp only
  rw [List.nil_append]
  generalize unsignedNumber (c :: rest) = chars at hunsigned hsplit htail
  obtain ⟨d, body, rfl, -⟩ := hunsigned.head
  obtain ⟨rfl, rfl⟩ := List.cons.inj hsplit
  exact ⟨body, tail, rfl, by simp, .number hunsigned htail⟩

theorem readsAs_signed (hbefore : afterOperand = false) (h : startsNumber rest = true) :
    ReadsAs afterOperand '-' rest (number ['-'] rest) := by
  obtain ⟨tail, hsplit, htail⟩ := exists_unsignedNumber_append rest
  exact ⟨unsignedNumber rest, tail, hsplit, by simp [number],
    .signed hbefore (isUnsigned_unsignedNumber h) htail⟩

theorem readsAs_operator (hminus : c = '-' → afterOperand = true ∨ startsNumber rest = false)
    (h : operator? c rest = some lexeme) : ReadsAs afterOperand c rest lexeme := by
  unfold operator? at h
  split at h
  · cases h
    exact ⟨['>'], _, rfl, rfl, .pair (by decide)⟩
  · cases h
    exact ⟨['='], _, rfl, rfl, .pair (by decide)⟩
  · cases h
    exact ⟨['='], _, rfl, rfl, .pair (by decide)⟩
  · next hne hle hge =>
    split at h
    · next hc =>
      cases h
      refine ⟨[], rest, rfl, rfl, .sign hc (fun d hd hpair => ?_) hminus⟩
      obtain ⟨after, rfl⟩ := List.head?_eq_some_iff.mp hd
      simp only [pairs, List.mem_cons, List.cons.injEq, and_true, List.not_mem_nil, or_false] at hpair
      rcases hpair with ⟨rfl, rfl⟩ | ⟨rfl, rfl⟩ | ⟨rfl, rfl⟩
      · exact hne after rfl rfl
      · exact hle after rfl rfl
      · exact hge after rfl rfl
    · cases h

theorem readsAs_word (hc : isNameStart c = true) (h : word position c rest = .ok lexeme) :
    ReadsAs afterOperand c rest lexeme := by
  obtain ⟨tail, hsplit, -, htail⟩ := exists_takeWhile_append isNameChar rest
  have hbody : ∀ d ∈ rest.takeWhile isNameChar, isNameChar d = true := fun d hd => List.mem_takeWhile_imp hd
  generalize rest.takeWhile isNameChar = body at hsplit hbody
  subst hsplit
  have hword : isWord (c :: body) = true := isWord_cons.mpr ⟨hc, hbody⟩
  rw [word_append hbody htail] at h
  dsimp only at h
  split at h
  · next htruth =>
    cases h
    exact ⟨body, tail, rfl, rfl, .truth hword htail htruth⟩
  · next htruth =>
    split at h
    · next hname =>
      cases h
      exact ⟨body, tail, rfl, rfl, .function hword htail htruth hname⟩
    · cases h

/-- A token that is read is one of the grammar. -/
theorem scans_of_read (h : read afterOperand position c rest = .ok lexeme) :
    ReadsAs afterOperand c rest lexeme := by
  unfold read at h
  split at h
  · next hc =>
    subst hc
    exact readsAs_field h
  split at h
  · next hc =>
    subst hc
    exact readsAs_textLiteral h
  split at h
  · next hc =>
    subst hc
    cases h
    exact ⟨[], rest, rfl, rfl, .opening⟩
  split at h
  · next hc =>
    subst hc
    cases h
    exact ⟨[], rest, rfl, rfl, .closing⟩
  split at h
  · next hc =>
    subst hc
    cases h
    exact ⟨[], rest, rfl, rfl, .comma⟩
  split at h
  · next hstart =>
    cases h
    exact readsAs_number hstart
  split at h
  · next hsign =>
    obtain ⟨rfl, hbefore, hstart⟩ := hsign
    cases h
    exact readsAs_signed (by simpa using hbefore) hstart
  · next hsign =>
    have hminus : c = '-' → afterOperand = true ∨ startsNumber rest = false := by
      intro hc
      cases hbefore : afterOperand with
      | true => exact .inl rfl
      | false => exact .inr (Bool.eq_false_iff.mpr fun hstart => hsign ⟨hc, by simp [hbefore], hstart⟩)
    split at h
    · next hop =>
      cases h
      exact readsAs_operator hminus hop
    · split at h
      · next hc => exact readsAs_word hc h
      · cases h

/-! ### Each token of the grammar is read -/

variable {body : List Char}

theorem IsUnsigned.head_not_mark (h : IsUnsigned (c :: rest)) :
    isBlank c = false ∧ ∀ mark ∈ marks, mark ≠ '.' → c ≠ mark := by
  obtain ⟨d, body, heq, hd⟩ := h.head
  cases heq
  rcases hd with hdigit | rfl
  · have hname := isNameChar_of_isDigit hdigit
    exact ⟨isBlank_of_isNameChar hname, fun _ hmark _ => ne_mark_of_isNameChar hname hmark⟩
  · exact ⟨by decide, fun _ _ hpoint => hpoint.symm⟩

theorem read_field {inner : List Char} (hinner : ∀ c ∈ inner, c ≠ ']' ∧ c ≠ '[') (hname : Text.trimChars inner ≠ []) :
    field position (inner ++ [']'] ++ tail) =
      .ok ⟨.field, String.ofList (Text.trimChars inner), (inner ++ [']']).length⟩ := by
  have htake : (inner ++ ']' :: tail).takeWhile (fun c => c ≠ ']' ∧ c ≠ '[') = inner := by
    refine takeWhile_append (fun c hc => by simpa using hinner c hc) fun c hc => ?_
    cases hc
    decide
  have hnil : (Text.trimChars inner).isEmpty = false := List.isEmpty_eq_false_iff.mpr hname
  rw [List.append_assoc, List.singleton_append, field]
  simp only [htake, List.drop_left, hnil, List.length_append]
  rfl

theorem read_number (h : IsUnsigned (c :: body)) (htail : NumberEnds (c :: body) tail) :
    read afterOperand position c (body ++ tail) = .ok ⟨.number, String.ofList (c :: body), body.length⟩ := by
  have hmark := h.head_not_mark.2
  have hstarts : startsNumber (c :: (body ++ tail)) = true := h.startsNumber_append tail
  have hnumber : unsignedNumber (c :: (body ++ tail)) = c :: body := h.unsignedNumber_append htail
  rw [read, if_neg (hmark _ (by decide) (by decide)), if_neg (hmark _ (by decide) (by decide)),
    if_neg (hmark _ (by decide) (by decide)), if_neg (hmark _ (by decide) (by decide)),
    if_neg (hmark _ (by decide) (by decide)), if_pos hstarts, number, hnumber]
  rfl

theorem read_signed (h : IsUnsigned body) (htail : NumberEnds body tail) :
    read false position '-' (body ++ tail) = .ok ⟨.number, String.ofList ('-' :: body), body.length⟩ := by
  have hnone : startsNumber ('-' :: (body ++ tail)) = false := startsNumber_cons (by decide) _
  rw [read, if_neg (by decide), if_neg (by decide), if_neg (by decide), if_neg (by decide), if_neg (by decide),
    if_neg (by simp [hnone]), if_pos (by simp [h.startsNumber_append tail]), number, h.unsignedNumber_append htail]
  rfl

theorem read_sign (hc : c ∈ signs) (htail : ∀ d, tail.head? = some d → [c, d] ∉ pairs)
    (hminus : c = '-' → afterOperand = true ∨ startsNumber tail = false) :
    read afterOperand position c tail = .ok ⟨.operator, String.ofList [c], 0⟩ := by
  have hmark {mark : Char} (hmark : mark ∉ signs) : c ≠ mark := fun heq => hmark (heq ▸ hc)
  have hdigit : c.isDigit = false := isDigit_mark c (mem_marks_of_mem_signs c hc)
  have hnone : startsNumber (c :: tail) = false := by rw [startsNumber_cons (hmark (by decide)), hdigit]
  have hsign : ¬ (c = '-' ∧ (!afterOperand) = true ∧ startsNumber tail = true) := by
    rintro ⟨heq, hfront, hstarts⟩
    rcases hminus heq with hafter | hno
    · simp [hafter] at hfront
    · rw [hno] at hstarts
      cases hstarts
  rw [read, if_neg (hmark (by decide)), if_neg (hmark (by decide)), if_neg (hmark (by decide)),
    if_neg (hmark (by decide)), if_neg (hmark (by decide)), if_neg (by simp [hnone]), if_neg hsign,
    operator?_single hc htail]

theorem read_pair (h : c :: body ∈ pairs) :
    read afterOperand position c (body ++ tail) = .ok ⟨.operator, String.ofList (c :: body), body.length⟩ := by
  simp only [pairs, List.mem_cons, List.cons.injEq, List.not_mem_nil, or_false] at h
  rcases h with ⟨rfl, rfl⟩ | ⟨rfl, rfl⟩ | ⟨rfl, rfl⟩ <;> rfl

namespace Scans

variable {kind : TokenKind} {text : String}

/-- A token starts with a character that is not blank. -/
theorem exists_cons (h : Scans afterOperand tail cs kind text) : ∃ c body, cs = c :: body ∧ isBlank c = false := by
  have hword : ∀ word, isWord word = true → ∃ c body, word = c :: body ∧ isBlank c = false := by
    intro word hword
    cases word with
    | nil => cases hword
    | cons c body => exact ⟨c, body, rfl, isBlank_of_isNameChar (isNameChar_of_isNameStart (isWord_cons.mp hword).1)⟩
  cases h with
  | field | text | opening | closing | comma | signed => exact ⟨_, _, rfl, by decide⟩
  | number h =>
    obtain ⟨c, body, rfl, -⟩ := h.head
    exact ⟨c, body, rfl, h.head_not_mark.1⟩
  | sign hc => exact ⟨_, [], rfl, isBlank_mark _ (mem_marks_of_mem_signs _ hc)⟩
  | pair h =>
    have hall : ∀ cs ∈ pairs, cs.head?.any (fun c => !isBlank c) = true := by decide
    obtain ⟨c, hhead, hc⟩ := (Option.any_eq_true _ _).mp (hall cs h)
    obtain ⟨body, rfl⟩ := List.head?_eq_some_iff.mp hhead
    exact ⟨c, body, rfl, by simpa using hc⟩
  | truth h => exact hword _ h
  | function h => exact hword _ h

/-- The kind and the text of a token of the grammar fit together. -/
theorem legible (h : Scans afterOperand tail cs kind text) : Legible kind text := by
  cases h with
  | @field inner hinner hname =>
    refine .field ⟨fun heq => hname ?_, fun c hc => hinner c ?_, ?_⟩
    · rwa [← String.toList_eq_nil_iff, String.toList_ofList] at heq
    · rw [String.toList_ofList] at hc
      exact Text.mem_of_mem_trimChars hc
    · rw [String.toList_ofList, Text.trimChars_trimChars]
  | text => exact .text _
  | opening => exact .opening
  | closing => exact .closing
  | comma => exact .comma
  | number h =>
    have hnumber := Legible.number h.startsNumber_eq
    rwa [h.unsignedNumber_eq] at hnumber
  | signed _ h =>
    have hsigned := Legible.signed h.startsNumber_eq
    rwa [h.unsignedNumber_eq] at hsigned
  | sign | pair => exact .operator _
  | truth _ _ h => exact .truth h
  | function hword _ hne =>
    cases cs with
    | nil => cases hword
    | cons c rest =>
      obtain ⟨hc, hrest⟩ := isWord_cons.mp hword
      exact .function hc hrest hne

/-- A token of the grammar is read. -/
theorem read_eq (h : Scans afterOperand tail (c :: body) kind text) (position : Nat) :
    read afterOperand position c (body ++ tail) = .ok ⟨kind, text, body.length⟩ := by
  generalize hcs : c :: body = cs at h
  cases h with
  | field hinner hname =>
    cases hcs
    exact read_field hinner hname
  | text htail =>
    cases hcs
    rw [read, if_neg (by decide), if_pos rfl, textLiteral, List.append_assoc, List.singleton_append,
      quoted?_escapeQuotes _ htail]
    simp
  | opening | closing | comma =>
    cases hcs
    rfl
  | number h htail =>
    subst hcs
    exact read_number h htail
  | signed hbefore h htail =>
    cases hcs
    subst hbefore
    exact read_signed h htail
  | sign hc htail hminus =>
    cases hcs
    exact read_sign hc htail hminus
  | pair h =>
    subst hcs
    exact read_pair h
  | truth hword htail h =>
    subst hcs
    obtain ⟨hc, hbody⟩ := isWord_cons.mp hword
    rw [read_word hc, word_append hbody htail]
    exact if_pos h
  | function hword htail hne h =>
    subst hcs
    obtain ⟨hc, hbody⟩ := isWord_cons.mp hword
    rw [read_word hc, word_append hbody htail]
    exact (if_neg hne).trans (if_pos h)

end Scans

/-- Characters that are a token whatever follows them, so far as `Next` allows, are read as one. -/
theorem reads_of_scans {Next : List Char → Prop} {kind : TokenKind} {text : String} (hnext : Next tail)
    (h : ∀ tail, Next tail → Scans afterOperand tail cs kind text) : Reads afterOperand Next cs kind text := by
  obtain ⟨c, body, rfl, hc⟩ := (h tail hnext).exists_cons
  exact ⟨c, body, rfl, hc, fun position tail htail => (h tail htail).read_eq position⟩

/-- A name in brackets is read as one token, whatever follows. -/
theorem reads_field {name : String} (h : Referable name) (afterOperand : Bool) (Next : List Char → Prop) :
    Reads afterOperand Next ('[' :: (name.toList ++ [']'])) .field name := by
  have hname : Text.trimChars name.toList ≠ [] := by
    rw [h.trimmed, ne_eq, String.toList_eq_nil_iff]
    exact h.ne_empty
  have hscans (tail : List Char) : Scans afterOperand tail ('[' :: (name.toList ++ [']'])) .field name := by
    have hfield : Scans afterOperand tail _ .field _ := .field h.no_bracket hname
    rwa [h.trimmed, String.ofList_toList] at hfield
  exact ⟨'[', name.toList ++ [']'], rfl, by decide, fun position tail _ => (hscans tail).read_eq position⟩

end Lexeme

/-- The tokens of a text are ended by one token, and those in front of it are legible. -/
theorem tokenizeFrom_eq_ok {afterOperand : Bool} {position : Nat} {cs : List Char} {tokens : List Token}
    (h : tokenizeFrom afterOperand position cs = .ok tokens) :
    ∃ body last, tokens = body ++ [.eof last] ∧
      ∀ token ∈ body, token.kind ≠ .eof ∧ Lexeme.Legible token.kind token.text := by
  fun_induction tokenizeFrom afterOperand position cs generalizing tokens with
  | case1 _ position =>
    cases h
    exact ⟨[], position, rfl, nofun⟩
  | case2 _ _ _ _ _ ih => exact ih h
  | case3 afterOperand position c rest _ ih =>
    obtain ⟨lexeme, hread, h⟩ := exists_of_bind_eq_ok h
    obtain ⟨others, hrest, h⟩ := exists_of_bind_eq_ok h
    cases h
    obtain ⟨body, last, rfl, hbody⟩ := ih lexeme hrest
    refine ⟨⟨lexeme.kind, lexeme.text, position⟩ :: body, last, rfl, fun token htoken => ?_⟩
    rcases List.mem_cons.mp htoken with rfl | hmem
    · obtain ⟨_, _, -, -, hscans⟩ := Lexeme.scans_of_read hread
      exact ⟨hscans.legible.kind_ne_eof, hscans.legible⟩
    · exact hbody token hmem

end FormRules.Formula

import FormRules.Proofs.Formula.Expansion

/-!
# How tokens are spelled

Every token of a formula, and every literal that a call is expanded to, has a text of its kind (`Shaped`): a
number is a numeral or the word of a number that is not finite, and a function is the upper case of a word. Two
of these texts are not always read as the token they are written for: the words of numbers that are not finite,
and the upper case of a word if some character of it cannot stand in a word (`Token.Spelled`).
-/

namespace FormRules.Formula

open Text (isBlank isLetter upper upperChar IsImage letterIntervals)

namespace Lexeme

/-! ### Upper case -/

/-- A character that no token starts with. -/
structure Stray (c : Char) : Prop where
  beyond : 0x80 ≤ c.toNat
  no_blank : isBlank c = false
  no_name : isNameStart c = false

namespace Stray

variable {c : Char} (h : Stray c)

include h

theorem not_mem_marks : c ∉ marks := by
  intro hmem
  have hascii : ∀ c ∈ marks, c.toNat < 0x80 := List.all_iff_forall_prop.mp (by decide)
  exact absurd (hascii c hmem) (Nat.not_lt.mpr h.beyond)

theorem isDigit_eq_false : c.isDigit = false := by
  refine Bool.eq_false_iff.mpr fun hdigit => ?_
  have hnine : c.toNat ≤ 0x39 := (Char.isDigit_iff_toNat.mp hdigit).2
  have := h.beyond
  omega

end Stray

/-- What an upper case is made of, but no word, is stray. -/
theorem stray_of_isImage {c : Char} (h : IsImage c) (hname : isNameStart c = false) : Stray c := by
  refine ⟨?_, h.no_blank, hname⟩
  rcases h.range with hcapital | hbeyond
  · have hletter : isLetter c = true :=
      Text.inIntervals_of_first hcapital.1 hcapital.2 letterIntervals.tail
    rw [isNameStart, hletter] at hname
    cases hname
  · exact hbeyond

/-- The upper case of a character of a word is made of such characters and of stray ones. -/
theorem start_or_stray {c d : Char} (hc : isNameStart c = true) (hd : d ∈ upperChar c) :
    isNameStart d = true ∨ Stray d := by
  rcases Text.mem_upperChar hd with himage | ⟨rfl, -⟩
  · rcases Bool.eq_false_or_eq_true (isNameStart d) with hstart | hstart
    · exact .inl hstart
    · exact .inr (stray_of_isImage himage hstart)
  · exact .inl hc

theorem name_or_stray {c d : Char} (hc : isNameChar c = true) (hd : d ∈ upperChar c) :
    isNameChar d = true ∨ Stray d := by
  rcases Text.mem_upperChar hd with himage | ⟨rfl, -⟩
  · rcases Bool.eq_false_or_eq_true (isNameStart d) with hstart | hstart
    · exact .inl (isNameChar_of_isNameStart hstart)
    · exact .inr (stray_of_isImage himage hstart)
  · exact .inl hc

/-- The upper case of a word is one, but for stray characters. -/
theorem exists_upperChars_cons {word : List Char} (h : isWord word = true) :
    ∃ c rest, Text.upperChars word = c :: rest ∧ (isNameStart c = true ∨ Stray c) ∧
      ∀ d ∈ rest, isNameChar d = true ∨ Stray d := by
  cases word with
  | nil => cases h
  | cons first word =>
    rw [isWord, Bool.and_eq_true, List.all_eq_true] at h
    obtain ⟨hfirst, hword⟩ := h
    obtain ⟨c, image, himage⟩ := List.exists_cons_of_ne_nil (Text.upperChar_ne_nil first)
    have hc : c ∈ upperChar first := himage ▸ List.mem_cons_self
    refine ⟨c, image ++ Text.upperChars word, ?_, start_or_stray hfirst hc, fun d hd => ?_⟩
    · rw [Text.upperChars, List.flatMap_cons, himage]
      rfl
    · rcases List.mem_append.mp hd with hd | hd
      · exact name_or_stray (isNameChar_of_isNameStart hfirst) (himage ▸ List.mem_cons_of_mem c hd)
      · obtain ⟨source, hsource, hd⟩ := List.mem_flatMap.mp hd
        exact name_or_stray (hword source hsource) hd

/-! ### Numbers -/

theorem isUnsigned_positional (digits : Nat) (places : Int) :
    IsUnsigned (Binary64.positional (toString digits) places).toList := by
  have hlist : (toString digits).toList = Nat.toDigits 10 digits := by
    rw [Nat.toString_eq_ofList_toDigits, String.toList_ofList]
  have hdigits : ∀ c ∈ Nat.toDigits 10 digits, c.isDigit = true :=
    fun c hc => Nat.isDigit_of_mem_toDigits (by decide) (Nat.le_refl _) hc
  have hzeros (n : Nat) : ∀ c ∈ List.replicate n '0', c.isDigit = true := by
    intro c hc
    rw [List.eq_of_mem_replicate hc]
    rfl
  have hne : Nat.toDigits 10 digits ≠ [] := Nat.toDigits_ne_nil
  rw [Binary64.toList_positional, hlist]
  split
  · exact @IsUnsigned.point ['0'] _ (List.append_ne_nil_of_right_ne_nil _ hne) (hzeros 1)
      (List.forall_mem_append.mpr ⟨hzeros _, hdigits⟩)
  · split
    · next hlt =>
      refine .point ?_ (fun c hc => hdigits c (List.mem_of_mem_take hc)) fun c hc =>
        hdigits c (List.mem_of_mem_drop hc)
      rw [ne_eq, List.drop_eq_nil_iff]
      omega
    · exact .whole (List.append_ne_nil_of_left_ne_nil hne _) (List.forall_mem_append.mpr ⟨hdigits, hzeros _⟩)

/-- What is written for the numbers that are not finite. -/
def nonfiniteWords : List String := ["inf", "-inf", "NaN"]

/-- A finite number is written as a numeral. -/
theorem plain_cases (x : Binary64) : IsNumeral x.plain.toList ∨ x.plain ∈ nonfiniteWords := by
  cases x with
  | nan => exact .inr (by decide)
  | infinite negative => exact .inr (by cases negative <;> decide)
  | finite negative rank =>
    left
    have hsigned {body : List Char} (hbody : IsUnsigned body) :
        IsNumeral ((if negative then ['-'] else []) ++ body) := by
      cases negative with
      | true => exact .inr ⟨body, rfl, hbody⟩
      | false => exact .inl hbody
    rcases Nat.eq_zero_or_pos rank.val with hzero | hpos
    · obtain rfl : rank = ⟨0, by decide⟩ := Fin.ext hzero
      have htext : (Binary64.finite negative ⟨0, by decide⟩).plain.toList =
          (if negative then ['-'] else []) ++ ['0'] := by cases negative <;> decide +kernel
      rw [htext]
      exact hsigned (.whole (List.cons_ne_nil _ _) (List.forall_mem_singleton.mpr rfl))
    · rw [Binary64.toList_plain negative hpos]
      exact hsigned (isUnsigned_positional _ _)

/-! ### The texts of tokens -/

/-- The text is one that a token of the kind may have. -/
def Shaped (kind : TokenKind) (text : String) : Prop :=
  match kind with
  | .field => Referable text
  | .number => IsNumeral text.toList ∨ text ∈ nonfiniteWords
  | .boolean => text = "TRUE" ∨ text = "FALSE"
  | .function => text ≠ "TRUE" ∧ text ≠ "FALSE" ∧ ∃ word, isWord word = true ∧ text = upper (String.ofList word)
  | .openParen => text = "("
  | .closeParen => text = ")"
  | .comma => text = ","
  | .text | .operator | .eof => True

theorem Legible.isNumeral {text : String} (h : Legible .number text) : IsNumeral text.toList := by
  cases h with
  | number h =>
    rw [String.toList_ofList]
    exact .inl (isUnsigned_unsignedNumber h)
  | signed h =>
    rw [String.toList_ofList]
    exact .inr ⟨_, rfl, isUnsigned_unsignedNumber h⟩

theorem Legible.shaped {kind : TokenKind} {text : String} (h : Legible kind text) : Shaped kind text := by
  cases h with
  | field h => exact h
  | text | operator => trivial
  | opening | closing | comma => rfl
  | number h => exact .inl (Legible.number h).isNumeral
  | signed h => exact .inl (Legible.signed h).isNumeral
  | truth h => exact h
  | @function c rest hc hrest h =>
    refine ⟨fun heq => h (.inl heq), fun heq => h (.inr heq), c :: rest, ?_, rfl⟩
    rw [isWord, Bool.and_eq_true, List.all_eq_true]
    exact ⟨hc, hrest⟩

end Lexeme

open Lexeme Expansion

theorem shaped_of_mem_tokenizeFrom {afterOperand : Bool} {position : Nat} {cs : List Char} {tokens : List Token}
    (h : tokenizeFrom afterOperand position cs = .ok tokens) : ∀ t ∈ tokens, Shaped t.kind t.text := by
  obtain ⟨body, last, rfl, hbody⟩ := tokenizeFrom_eq_ok h
  refine List.forall_mem_append.mpr ⟨fun t ht => (hbody t ht).2.shaped, ?_⟩
  exact List.forall_mem_singleton.mpr trivial

theorem shaped_literalToken (value : Value) (position : Nat) :
    Shaped (literalToken value position).kind (literalToken value position).text := by
  cases value with
  | null => trivial
  | boolean b => cases b <;> simp [literalToken, Shaped, Value.boolText]
  | number x => exact plain_cases x
  | text s => trivial

theorem eq_append_of_untilClose? {depth : Nat} {tokens inner after : List Token} {closing : Token}
    (h : untilClose? depth tokens = some (inner, closing, after)) : tokens = inner ++ closing :: after := by
  induction tokens generalizing depth inner with
  | nil => simp [untilClose?] at h
  | cons token tokens ih =>
    unfold untilClose? at h
    split at h
    · obtain ⟨rfl, rfl, rfl⟩ := by simpa using h
      rfl
    all_goals
      obtain ⟨⟨rest, more⟩, hrest, heq⟩ := Option.map_eq_some_iff.mp h
      cases heq
      rw [ih hrest, List.cons_append]

theorem exists_of_map_eq_ok {α β : Type} {outcome : Outcome α} {f : α → β} {b : β} (h : outcome.map f = .ok b) :
    ∃ a, outcome = .ok a ∧ f a = b := by
  cases outcome with
  | error e => cases h
  | ok a => exact ⟨a, rfl, Except.ok.inj h⟩

/-- A call that is to be expanded becomes a literal or stays, and what follows it is expanded. -/
theorem expandTokens_call_cases {ctx : Context} {f : Builtin} {token opening : Token} {rest out : List Token}
    (hf : callee? token (opening :: rest) = some f) (h : expandTokens ctx (token :: opening :: rest) = .ok out) :
    ∃ inner closing after others, rest = inner ++ closing :: after ∧ expandTokens ctx after = .ok others ∧
      ((∃ value, out = literalToken value token.position :: others) ∨
        out = token :: opening :: (inner ++ closing :: others)) := by
  rw [expandTokens] at h
  case heq => exact hf
  split at h
  · cases h
  · next inner closing after hclose =>
    have hrest := eq_append_of_untilClose? hclose
    split at h
    · cases h
    · split at h
      · obtain ⟨others, hothers, rfl⟩ := exists_of_map_eq_ok h
        exact ⟨inner, closing, after, others, hrest, hothers, .inl ⟨_, rfl⟩⟩
      · obtain ⟨others, hothers, rfl⟩ := exists_of_map_eq_ok h
        exact ⟨inner, closing, after, others, hrest, hothers, .inr rfl⟩
      · cases h

/-- The tokens that expansion leaves are tokens that were there and literals of values. -/
theorem forall_mem_expandTokens {ctx : Context} {P : Token → Prop} {tokens out : List Token}
    (hliteral : ∀ value position, P (literalToken value position)) (h : expandTokens ctx tokens = .ok out)
    (htokens : ∀ t ∈ tokens, P t) : ∀ t ∈ out, P t := by
  obtain ⟨bound, hbound⟩ : ∃ bound, tokens.length ≤ bound := ⟨_, Nat.le_refl _⟩
  induction bound generalizing tokens out with
  | zero =>
    rw [List.length_eq_zero_iff.mp (Nat.le_zero.mp hbound), expandTokens_nil] at h
    cases h
    nofun
  | succ bound ih =>
    cases tokens with
    | nil =>
      rw [expandTokens_nil] at h
      cases h
      nofun
    | cons token rest =>
      have hrest : rest.length ≤ bound := Nat.le_of_succ_le_succ hbound
      obtain ⟨htoken, htokens⟩ := List.forall_mem_cons.mp htokens
      cases hcallee : callee? token rest with
      | none =>
        rw [expandTokens_cons hcallee] at h
        obtain ⟨others, hothers, rfl⟩ := exists_of_map_eq_ok h
        exact List.forall_mem_cons.mpr ⟨htoken, ih hothers htokens hrest⟩
      | some f =>
        cases rest with
        | nil => simp [callee?] at hcallee
        | cons opening rest =>
          obtain ⟨inner, closing, after, others, rfl, hothers, hout⟩ := expandTokens_call_cases hcallee h
          have hafter : after.length ≤ bound := by
            simp only [List.length_cons, List.length_append] at hrest
            omega
          simp only [List.forall_mem_cons, List.forall_mem_append] at htokens
          obtain ⟨hopening, hinner, hclosing, htokens⟩ := htokens
          have hbehind := ih hothers htokens hafter
          rcases hout with ⟨value, rfl⟩ | rfl
          · exact List.forall_mem_cons.mpr ⟨hliteral value _, hbehind⟩
          · simp only [List.forall_mem_cons, List.forall_mem_append]
            exact ⟨htoken, hopening, hinner, hclosing, hbehind⟩

/-- Not the literal of a number that is not finite, and no name of a function that is not a word. -/
structure Token.Spelled (t : Token) : Prop where
  number : t.kind = .number → t.text ∉ nonfiniteWords
  function : t.kind = .function → isWord t.text.toList = true

instance (t : Token) : Decidable t.Spelled :=
  decidable_of_iff (_ ∧ _) ⟨fun h => ⟨h.1, h.2⟩, fun h => ⟨h.1, h.2⟩⟩

theorem Token.spelled_of_kind {t : Token} (hnumber : t.kind ≠ .number) (hfunction : t.kind ≠ .function) : t.Spelled :=
  ⟨fun h => absurd h hnumber, fun h => absurd h hfunction⟩

end FormRules.Formula

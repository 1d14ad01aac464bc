import FormRules.Proofs.Formula.Refusal
import FormRules.Proofs.Formula.Scanning

/-!
# Where tokens stand in a text

A layout of a text is a list of pieces, each a lexeme with the blanks in front of it, and the blanks at the end.
The lexeme is what a token is read from: the name of a field in brackets, maybe with blanks around it, a text in
quotes, a word in any case, and all else as it is. Main statement: the tokens of a text are those of a layout of it,
so no character is lost or read twice, and every syntax error is at a position in the text or at its end
(`tokenize_layout`).
-/

namespace FormRules.Formula

open Lexeme
open Text (isBlank AllBlank)

/-- The characters are what a token of the kind with the text is read from. -/
def IsLexeme (kind : TokenKind) (text : String) (cs : List Char) : Prop :=
  match kind with
  | .field => ∃ before after, AllBlank before ∧ AllBlank after ∧
      cs = '[' :: (before ++ (text.toList ++ after) ++ [']'])
  | .text => cs = '"' :: (Token.escapeQuotes text.toList ++ ['"'])
  | .boolean | .function => text = Text.upper (String.ofList cs)
  | .eof => False
  | _ => cs = text.toList

/-- The lexeme of a token and the blanks in front of it. -/
structure Piece where
  gap : List Char
  lexeme : List Char
  kind : TokenKind
  text : String
  gap_blank : AllBlank gap
  ne_nil : lexeme ≠ []
  isLexeme : IsLexeme kind text lexeme

def Piece.chars (piece : Piece) : List Char := piece.gap ++ piece.lexeme

/-- The text of some pieces. -/
def charsOf (pieces : List Piece) : List Char := pieces.flatMap Piece.chars

/-- The tokens of some pieces of which the first stands at `position`. -/
def tokensAt (position : Nat) : List Piece → List Token
  | [] => []
  | piece :: pieces =>
    ⟨piece.kind, piece.text, position + piece.gap.length⟩ :: tokensAt (position + piece.chars.length) pieces

/-- A text as the pieces of its tokens and the blanks behind them. -/
structure Layout where
  pieces : List Piece
  rest : List Char
  rest_blank : AllBlank rest

namespace Layout

def chars (layout : Layout) : List Char := charsOf layout.pieces ++ layout.rest

/-- The tokens, each at the position of its lexeme, and the end of the formula at the end of the text. -/
def tokens (layout : Layout) : List Token := tokensAt 0 layout.pieces ++ [.eof layout.chars.length]

end Layout

@[simp] theorem charsOf_nil : charsOf [] = [] := rfl

theorem charsOf_cons (piece : Piece) (pieces : List Piece) :
    charsOf (piece :: pieces) = piece.gap ++ (piece.lexeme ++ charsOf pieces) := by
  rw [charsOf, List.flatMap_cons, Piece.chars, List.append_assoc]
  rfl

/-! ### Positions -/

theorem position_of_mem_tokensAt {position : Nat} {pieces : List Piece} {t : Token}
    (h : t ∈ tokensAt position pieces) : position ≤ t.position ∧ t.position < position + (charsOf pieces).length := by
  induction pieces generalizing position with
  | nil => cases h
  | cons piece pieces ih =>
    have hpos := List.length_pos_of_ne_nil piece.ne_nil
    have hlength : (charsOf (piece :: pieces)).length =
        piece.gap.length + piece.lexeme.length + (charsOf pieces).length := by
      rw [charsOf_cons, List.length_append, List.length_append, Nat.add_assoc]
    have hchars : piece.chars.length = piece.gap.length + piece.lexeme.length := List.length_append
    rcases List.mem_cons.mp h with rfl | h
    · exact ⟨Nat.le_add_right _ _, by simp only; omega⟩
    · have := ih h
      omega

theorem pairwise_tokensAt (position : Nat) (pieces : List Piece) :
    (tokensAt position pieces).Pairwise (·.position < ·.position) := by
  induction pieces generalizing position with
  | nil => exact List.Pairwise.nil
  | cons piece pieces ih =>
    refine List.pairwise_cons.mpr ⟨fun t ht => ?_, ih _⟩
    have hpos := List.length_pos_of_ne_nil piece.ne_nil
    have hchars : piece.chars.length = piece.gap.length + piece.lexeme.length := List.length_append
    have := position_of_mem_tokensAt ht
    simp only
    omega

/-- The positions of the tokens of a layout increase up to the end of the text. -/
theorem Layout.pairwise_tokens (layout : Layout) : layout.tokens.Pairwise (·.position < ·.position) := by
  refine List.pairwise_append.mpr ⟨pairwise_tokensAt 0 _, List.pairwise_singleton _ _, fun t ht last hlast => ?_⟩
  rw [List.mem_singleton.mp hlast]
  have hlength : layout.chars.length = (charsOf layout.pieces).length + layout.rest.length := List.length_append
  have := position_of_mem_tokensAt ht
  simp only [Token.eof]
  omega

theorem Layout.standWithin_tokens (layout : Layout) : StandWithin layout.chars.length layout.tokens := by
  refine List.forall_mem_append.mpr ⟨fun t ht => ?_, List.forall_mem_singleton.mpr (Nat.le_refl _)⟩
  have hlength : layout.chars.length = (charsOf layout.pieces).length + layout.rest.length := List.length_append
  have := position_of_mem_tokensAt ht
  omega

/-! ### The pieces that are read -/

theorem Lexeme.Scans.isLexeme {afterOperand : Bool} {tail cs : List Char} {kind : TokenKind} {text : String}
    (h : Scans afterOperand tail cs kind text) : IsLexeme kind text cs := by
  cases h with
  | @field inner =>
    obtain ⟨before, after, hbefore, hafter, hinner⟩ := Text.exists_trimChars_append inner
    refine ⟨before, after, hbefore, hafter, ?_⟩
    rw [String.toList_ofList, ← hinner]
  | text => simp [IsLexeme]
  | opening | closing | comma => rfl
  | number | signed | sign | pair => exact (String.toList_ofList).symm
  | truth | function => rfl

/-- Each piece is a token in front of what follows it, and behind the piece before it. -/
def ScansAll : Bool → List Piece → List Char → Prop
  | _, [], _ => True
  | afterOperand, piece :: pieces, tail =>
    Scans afterOperand (charsOf pieces ++ tail) piece.lexeme piece.kind piece.text ∧
      ScansAll piece.kind.endsOperand pieces tail

/-- Whether the last piece, or what stands in front of the pieces if there is none, ends an operand. -/
def endsAfter : Bool → List Piece → Bool
  | afterOperand, [] => afterOperand
  | _, piece :: pieces => endsAfter piece.kind.endsOperand pieces

/-- The tokens of a text are those of pieces of it. -/
theorem exists_pieces {afterOperand : Bool} {position : Nat} {cs : List Char} {tokens : List Token}
    (h : tokenizeFrom afterOperand position cs = .ok tokens) :
    ∃ pieces rest, AllBlank rest ∧ cs = charsOf pieces ++ rest ∧ ScansAll afterOperand pieces rest ∧
      tokens = tokensAt position pieces ++ [.eof (position + cs.length)] := by
  induction hlength : cs.length using Nat.strong_induction_on generalizing afterOperand position cs tokens with
  | _ n ih =>
    obtain ⟨behind, hsplit, -, hstop⟩ := exists_takeWhile_append isBlank cs
    have hgap : AllBlank (cs.takeWhile isBlank) := fun c hc => List.mem_takeWhile_imp hc
    generalize cs.takeWhile isBlank = gap at hsplit hgap
    subst hsplit
    rw [tokenizeFrom_gap hgap] at h
    cases behind with
    | nil =>
      rw [tokenizeFrom] at h
      cases h
      exact ⟨[], gap, hgap, List.append_nil gap, trivial, by simp [tokensAt, ← hlength]⟩
    | cons c rest =>
      rw [tokenizeFrom, if_neg (by simp [hstop c rfl])] at h
      obtain ⟨lexeme, hread, h⟩ := exists_of_bind_eq_ok h
      obtain ⟨others, hrest, h⟩ := exists_of_bind_eq_ok h
      cases h
      obtain ⟨body, tail, rfl, hbody, hscans⟩ := scans_of_read hread
      rw [hbody, List.drop_left] at hrest
      simp only [List.length_append, List.length_cons] at hlength
      obtain ⟨pieces, last, hlast, rfl, hall, rfl⟩ := ih tail.length (by omega) hrest rfl
      refine ⟨⟨gap, c :: body, lexeme.kind, lexeme.text, hgap, List.cons_ne_nil _ _, hscans.isLexeme⟩ :: pieces,
        last, hlast, ?_, ⟨hscans, hall⟩, ?_⟩
      · simp [charsOf_cons]
      · have hnext : position + gap.length + 1 + body.length = position + (gap ++ c :: body).length := by
          rw [List.length_append, List.length_cons]
          omega
        rw [hnext, ← hlength]
        simp [tokensAt, Piece.chars, Nat.add_assoc, Nat.add_left_comm, Nat.add_comm]

/-- Pieces that are tokens one after the other are read as these tokens. -/
theorem ScansAll.tokenizeFrom_append {afterOperand : Bool} {pieces : List Piece} {tail : List Char}
    (h : ScansAll afterOperand pieces tail) (position : Nat) :
    tokenizeFrom afterOperand position (charsOf pieces ++ tail) =
      (tokenizeFrom (endsAfter afterOperand pieces) (position + (charsOf pieces).length) tail).map
        (tokensAt position pieces ++ ·) := by
  induction pieces generalizing afterOperand position with
  | nil =>
    show tokenizeFrom afterOperand position tail = _
    cases htail : tokenizeFrom afterOperand position tail <;> simp [endsAfter, tokensAt, htail, Except.map]
  | cons piece pieces ih =>
    obtain ⟨hscans, hall⟩ := h
    have hreads : Reads afterOperand (· = charsOf pieces ++ tail) piece.lexeme piece.kind piece.text :=
      reads_of_scans rfl fun tail' htail' => htail' ▸ hscans
    have hposition : position + piece.gap.length + piece.lexeme.length = position + piece.chars.length := by
      rw [Piece.chars, List.length_append, Nat.add_assoc]
    have hnext : position + (charsOf (piece :: pieces)).length =
        position + piece.chars.length + (charsOf pieces).length := by
      rw [charsOf, List.flatMap_cons, List.length_append, Nat.add_assoc]
      rfl
    rw [charsOf_cons, List.append_assoc, List.append_assoc, tokenizeFrom_gap piece.gap_blank,
      hreads.tokenizeFrom_append rfl, hposition, ih hall, ← charsOf_cons, hnext, endsAfter, tokensAt]
    cases tokenizeFrom (endsAfter piece.kind.endsOperand pieces)
      (position + piece.chars.length + (charsOf pieces).length) tail <;> rfl

/-! ### The positions of errors -/

section

variable {afterOperand : Bool} {position n : Nat} {c : Char} {rest : List Char}

theorem staysWithin_field (h : position + rest.length ≤ n) :
    StaysWithin n (fun _ => True) (field position rest) := by
  unfold field
  dsimp only
  split
  · exact staysWithin_malformed _ (by omega)
  · next c after hdrop =>
    split
    · -- the second opening bracket is one of the characters behind the first one
      have hlength := congrArg List.length hdrop
      rw [List.length_drop, List.length_cons] at hlength
      exact staysWithin_malformed _ (by omega)
    · split
      · exact staysWithin_malformed _ (by omega)
      · exact .ok trivial

theorem staysWithin_word (h : position ≤ n) : StaysWithin n (fun _ => True) (word position c rest) := by
  unfold word
  exact .ite (.ok trivial) (.ite (.ok trivial) (staysWithin_malformed _ h))

theorem staysWithin_read (h : position + rest.length ≤ n) :
    StaysWithin n (fun _ => True) (Lexeme.read afterOperand position c rest) := by
  have hposition : position ≤ n := by omega
  unfold Lexeme.read
  split
  · exact staysWithin_field h
  split
  · unfold textLiteral
    split
    · exact .ok trivial
    · exact staysWithin_malformed _ hposition
  split
  · exact .ok trivial
  split
  · exact .ok trivial
  split
  · exact .ok trivial
  split
  · exact .ok trivial
  split
  · exact .ok trivial
  split
  · exact .ok trivial
  · split
    · exact staysWithin_word hposition
    · exact staysWithin_malformed _ hposition

/-- No error of reading tokens stands behind the end of the text. -/
theorem staysWithin_tokenizeFrom {cs : List Char} (h : position + cs.length ≤ n) :
    StaysWithin n (fun _ => True) (tokenizeFrom afterOperand position cs) := by
  fun_induction tokenizeFrom afterOperand position cs with
  | case1 => exact .ok trivial
  | case2 _ _ _ _ _ ih =>
    rw [List.length_cons] at h
    exact ih (by omega)
  | case3 afterOperand position c rest _ ih =>
    rw [List.length_cons] at h
    cases hread : Lexeme.read afterOperand position c rest with
    | error e => exact .error ((staysWithin_read (by omega)).within hread)
    | ok lexeme =>
      obtain ⟨body, tail, rfl, hbody, -⟩ := scans_of_read hread
      rw [List.length_append] at h
      refine (ih lexeme ?_).bind fun _ _ => .ok trivial
      rw [hbody, List.drop_left]
      omega

end

/-! ### Whole formulas -/

/-- If a text is read, its tokens are those of a layout of it: the text is their lexemes one after the other, each
at the position of its token, with blanks in between, and the end of the formula is the end of the text. If the text
is not read or does not parse, the error is a syntax error at a position in the text or at its end. -/
theorem tokenize_layout (formula : String) :
    (∀ tokens, tokenize formula = .ok tokens →
      ∃ layout : Layout, layout.chars = formula.toList ∧ layout.tokens = tokens ∧
        tokens.Pairwise (·.position < ·.position) ∧ tokens.getLast? = some (.eof formula.length)) ∧
    ∀ e, tokenize formula = .error e ∨ parseFormula formula = .error e →
      ∃ position fault, e = .malformed position fault ∧ position ≤ formula.length := by
  rw [← String.length_toList]
  have htokenize : StaysWithin formula.toList.length (fun _ => True) (tokenize formula) :=
    staysWithin_tokenizeFrom (Nat.le_of_eq (Nat.zero_add _))
  have hlayout : ∀ tokens, tokenize formula = .ok tokens →
      ∃ layout : Layout, layout.chars = formula.toList ∧ layout.tokens = tokens := by
    intro tokens htokens
    obtain ⟨pieces, rest, hrest, hchars, -, rfl⟩ := exists_pieces htokens
    refine ⟨⟨pieces, rest, hrest⟩, hchars.symm, ?_⟩
    rw [Layout.tokens, Layout.chars, ← hchars, Nat.zero_add]
  refine ⟨fun tokens htokens => ?_, fun e he => ?_⟩
  · obtain ⟨layout, hchars, rfl⟩ := hlayout tokens htokens
    refine ⟨layout, hchars, rfl, layout.pairwise_tokens, ?_⟩
    rw [Layout.tokens, List.getLast?_concat, hchars]
  · rcases he with he | he
    · exact htokenize.within he
    · rw [parseFormula] at he
      cases htokens : tokenize formula with
      | error err =>
        rw [htokens] at he
        cases he
        exact htokenize.within htokens
      | ok tokens =>
        rw [htokens] at he
        obtain ⟨layout, hchars, rfl⟩ := hlayout tokens htokens
        have hwithin : StandWithin formula.toList.length layout.tokens := by
          rw [← hchars]
          exact layout.standWithin_tokens
        exact (staysWithin_parseTokens hwithin).within he

/-- A name with blanks around it, a quote in a text and words in small letters; and a bracket that is not closed. -/
theorem tokenize_layout_mixed :
    let formula := " -.5<=max( [ 氏名 ],\"a\"\"b\")-tRue "
    (∃ layout : Layout, layout.chars = formula.toList ∧ tokenize formula = .ok layout.tokens ∧
      layout.tokens = [⟨.number, "-.5", 1⟩, ⟨.operator, "<=", 4⟩, ⟨.function, "MAX", 6⟩, ⟨.openParen, "(", 9⟩,
        ⟨.field, "氏名", 11⟩, ⟨.comma, ",", 17⟩, ⟨.text, "a\"b", 18⟩, ⟨.closeParen, ")", 24⟩, ⟨.operator, "-", 25⟩,
        ⟨.boolean, "TRUE", 26⟩, .eof 31] ∧ formula.length = 31) ∧
    ∃ position fault, parseFormula "(1" = .error (.malformed position fault) ∧ position ≤ "(1".length := by
  intro formula
  have htokens : tokenize formula =
      .ok [⟨.number, "-.5", 1⟩, ⟨.operator, "<=", 4⟩, ⟨.function, "MAX", 6⟩, ⟨.openParen, "(", 9⟩,
        ⟨.field, "氏名", 11⟩, ⟨.comma, ",", 17⟩, ⟨.text, "a\"b", 18⟩, ⟨.closeParen, ")", 24⟩, ⟨.operator, "-", 25⟩,
        ⟨.boolean, "TRUE", 26⟩, .eof 31] := by decide +kernel
  obtain ⟨layout, hchars, htokens', -, -⟩ := (tokenize_layout formula).1 _ htokens
  refine ⟨⟨layout, hchars, htokens' ▸ htokens, htokens', by decide +kernel⟩, ?_⟩
  cases hparse : parseFormula "(1" with
  | ok e =>
    have hrefused : (parseFormula "(1").toOption = none := by decide +kernel
    rw [hparse] at hrefused
    cases hrefused
  | error e =>
    obtain ⟨position, fault, rfl, hposition⟩ := (tokenize_layout "(1").2 e (.inr hparse)
    exact ⟨position, fault, rfl, hposition⟩

end FormRules.Formula

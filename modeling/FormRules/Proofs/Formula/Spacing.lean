import FormRules.Proofs.Formula.Layout

/-!
# Blanks between tokens

A text with given tokens has one layout only (`Layout.unique`). Blanks between two lexemes may be added, or be
exchanged for others, as long as lexemes that were apart stay apart (`Layout.Respaced`). What follows a token
decides about it by its first character, by whether a number starts there and by whether the first character that
is not blank opens a parenthesis (`Permits`), and blanks in front of it change nothing of that. Main statement: a
respaced text has the same kinds and texts of tokens and the same tree (`tokenize_respaced`).
-/

namespace FormRules.Formula

open Lexeme
open Text (isBlank AllBlank)

/-! ### One layout only -/

/-- No lexeme of a token goes on with blanks. -/
theorem IsLexeme.eq_nil_of_append {kind : TokenKind} {text : String} {cs more : List Char}
    (h : IsLexeme kind text cs) (h' : IsLexeme kind text (cs ++ more)) (hmore : AllBlank more) : more = [] := by
  have hsame : cs = text.toList → cs ++ more = text.toList → more = [] := by
    intro heq heq'
    rwa [← heq, List.append_right_eq_self] at heq'
  cases kind with
  | field =>
    obtain ⟨before, after, -, -, heq⟩ := h'
    by_contra hne
    -- the last character would be a bracket
    have hlast : more.getLast hne = ']' := by
      have hall : (cs ++ more).getLast? = some ']' := by
        rw [heq, ← List.cons_append, List.getLast?_concat]
      rw [List.getLast?_append, List.getLast?_eq_some_getLast hne] at hall
      exact Option.some.inj hall
    have hblank := hmore _ (List.getLast_mem hne)
    rw [hlast] at hblank
    exact absurd hblank (by decide)
  | text => exact List.append_right_eq_self.mp (Eq.trans h' (Eq.symm h))
  | boolean | function =>
    have heq : Text.upperChars (cs ++ more) = Text.upperChars cs := by
      have htext : Text.upper (String.ofList (cs ++ more)) = Text.upper (String.ofList cs) :=
        Eq.trans (Eq.symm h') h
      simpa [Text.upper] using congrArg String.toList htext
    rw [Text.upperChars, List.flatMap_append, Text.upperChars, List.append_right_eq_self] at heq
    cases more with
    | nil => rfl
    | cons c more =>
      rw [List.flatMap_cons, List.append_eq_nil_iff] at heq
      exact absurd heq.1 (Text.upperChar_ne_nil c)
  | eof => cases h
  | _ => exact hsame h h'

/-- A token has one lexeme at the front of a text, as far as the blanks behind it show. -/
theorem IsLexeme.unique {kind : TokenKind} {text : String} {cs cs' gap gap' : List Char} (h : IsLexeme kind text cs)
    (h' : IsLexeme kind text cs') (hgap : AllBlank gap) (hgap' : AllBlank gap') (heq : cs ++ gap = cs' ++ gap') :
    cs = cs' := by
  rcases List.append_eq_append_iff.mp heq with ⟨more, rfl, rfl⟩ | ⟨more, rfl, rfl⟩
  · rw [h.eq_nil_of_append h' (List.forall_mem_append.mp hgap).1, List.append_nil]
  · rw [h'.eq_nil_of_append h (List.forall_mem_append.mp hgap').1, List.append_nil]

section

variable {position : Nat} {pieces pieces' : List Piece} {rest rest' : List Char}

/-- Where the tokens behind two lexemes stand at the same positions, the lexemes differ by blanks at most. -/
theorem exists_gaps {cs cs' : List Char} (hrest : AllBlank rest) (hrest' : AllBlank rest')
    (hchars : cs ++ (charsOf pieces ++ rest) = cs' ++ (charsOf pieces' ++ rest'))
    (htokens : tokensAt (position + cs.length) pieces = tokensAt (position + cs'.length) pieces') :
    ∃ gap gap', AllBlank gap ∧ AllBlank gap' ∧ cs ++ gap = cs' ++ gap' := by
  cases pieces with
  | nil =>
    cases pieces' with
    | nil => exact ⟨rest, rest', hrest, hrest', hchars⟩
    | cons => cases htokens
  | cons piece pieces =>
    cases pieces' with
    | nil => cases htokens
    | cons piece' pieces' =>
      have hposition := congrArg Token.position (List.cons.inj htokens).1
      have hlength : (cs ++ piece.gap).length = (cs' ++ piece'.gap).length := by
        simp only [List.length_append] at hposition ⊢
        omega
      refine ⟨piece.gap, piece'.gap, piece.gap_blank, piece'.gap_blank, ?_⟩
      simp only [charsOf_cons, List.append_assoc] at hchars
      rw [← List.append_assoc, ← List.append_assoc cs'] at hchars
      exact List.append_inj_left hchars hlength

theorem pieces_unique (hrest : AllBlank rest) (hrest' : AllBlank rest')
    (hchars : charsOf pieces ++ rest = charsOf pieces' ++ rest')
    (htokens : tokensAt position pieces = tokensAt position pieces') : pieces = pieces' ∧ rest = rest' := by
  induction pieces generalizing position pieces' with
  | nil =>
    cases pieces' with
    | nil => exact ⟨rfl, hchars⟩
    | cons => cases htokens
  | cons piece pieces ih =>
    cases pieces' with
    | nil => cases htokens
    | cons piece' pieces' =>
      obtain ⟨gap, cs, kind, text, hgap, hne, hcs⟩ := piece
      obtain ⟨gap', cs', kind', text', hgap', hne', hcs'⟩ := piece'
      obtain ⟨htoken, hbehind⟩ := List.cons.inj htokens
      obtain ⟨rfl, rfl, hposition⟩ := Token.mk.inj htoken
      have hsplit : gap = gap' ∧
          cs ++ (charsOf pieces ++ rest) = cs' ++ (charsOf pieces' ++ rest') := by
        simp only [charsOf_cons, List.append_assoc] at hchars
        exact List.append_inj hchars (Nat.add_left_cancel hposition)
      obtain ⟨rfl, hlexemes⟩ := hsplit
      simp only [Piece.chars, List.length_append, ← Nat.add_assoc] at hbehind
      obtain ⟨_, _, hblank, hblank', heq⟩ := exists_gaps hrest hrest' hlexemes hbehind
      obtain rfl := hcs.unique hcs' hblank hblank' heq
      obtain ⟨rfl, rfl⟩ := ih (List.append_cancel_left hlexemes) hbehind
      exact ⟨rfl, rfl⟩

end

/-- A text with its tokens has one layout only. -/
theorem Layout.unique {layout layout' : Layout} (hchars : layout.chars = layout'.chars)
    (htokens : layout.tokens = layout'.tokens) : layout = layout' := by
  obtain ⟨pieces, rest, hrest⟩ := layout
  obtain ⟨pieces', rest', hrest'⟩ := layout'
  obtain ⟨rfl, rfl⟩ := pieces_unique hrest hrest' hchars (List.append_inj' htokens rfl).1
  rfl

/-! ### Other blanks -/

/-- The same token, maybe behind other blanks. If there were any, there are still some. -/
structure Piece.Respaced (piece respaced : Piece) : Prop where
  lexeme_eq : respaced.lexeme = piece.lexeme
  kind_eq : respaced.kind = piece.kind
  text_eq : respaced.text = piece.text
  apart : piece.gap ≠ [] → respaced.gap ≠ []

/-- The same tokens one after the other, with other blanks between them, in front and behind. -/
def Layout.Respaced (layout respaced : Layout) : Prop := List.Forall₂ Piece.Respaced layout.pieces respaced.pieces

theorem map_content_tokensAt {pieces respaced : List Piece} (h : List.Forall₂ Piece.Respaced pieces respaced)
    (position position' : Nat) :
    (tokensAt position' respaced).map Token.content = (tokensAt position pieces).map Token.content := by
  induction h generalizing position position' with
  | nil => rfl
  | cons hpiece _ ih =>
    rw [tokensAt, tokensAt, List.map_cons, List.map_cons, Token.content, Token.content, hpiece.kind_eq,
      hpiece.text_eq, ih]

/-- Whatever the blanks are, the kinds and texts of the tokens are the same. -/
theorem Layout.Respaced.map_content {layout respaced : Layout} (h : layout.Respaced respaced) :
    respaced.tokens.map Token.content = layout.tokens.map Token.content := by
  rw [tokens, tokens, List.map_append, List.map_append, map_content_tokensAt h 0 0]
  rfl

/-! ### What follows a token -/

namespace Lexeme

/-- Neither goes on with a token in front of it, nor starts a number or closes an operator. -/
def Neutral (tail : List Char) : Prop :=
  ∀ c, tail.head? = some c → isNameChar c = false ∧ c ∉ ['.', '"', '=', '>']

/-- A token in front of `tail` is one in front of `tail'` as well. -/
structure Permits (tail tail' : List Char) : Prop where
  opening : (Text.trimStart tail).head? = some '(' → (Text.trimStart tail').head? = some '('
  front : Neutral tail' ∨ tail'.head? = tail.head? ∧ startsNumber tail' = startsNumber tail

theorem Neutral.startsNumber_eq_false {tail : List Char} (h : Neutral tail) : startsNumber tail = false := by
  cases tail with
  | nil => rfl
  | cons c tail =>
    obtain ⟨hname, hmark⟩ := h c rfl
    rw [startsNumber_cons fun hpoint => hmark (by simp [hpoint])]
    exact isDigit_of_not_isNameChar hname

theorem neutral_of_blank {gap : List Char} (hne : gap ≠ []) (hgap : AllBlank gap) (tail : List Char) :
    Neutral (gap ++ tail) := by
  obtain ⟨b, gap, rfl⟩ := List.exists_cons_of_ne_nil hne
  intro c hc
  obtain rfl : b = c := Option.some.inj hc
  have hblank : isBlank b = true := hgap b List.mem_cons_self
  refine ⟨Bool.eq_false_iff.mpr fun hname => by simp [isBlank_of_isNameChar hname] at hblank, fun hmem => ?_⟩
  have hmark : ∀ c ∈ ['.', '"', '=', '>'], isBlank c = false := List.all_iff_forall_prop.mp (by decide)
  rw [hmark b hmem] at hblank
  cases hblank

/-- Each token in front of blanks is one in front of a neutral text. -/
theorem permits_of_blank {rest tail : List Char} (hrest : AllBlank rest) (htail : Neutral tail) :
    Permits rest tail := by
  refine ⟨fun hopening => ?_, .inl htail⟩
  have hnil : Text.trimStart rest = [] := List.dropWhile_eq_nil_iff.mpr hrest
  rw [hnil] at hopening
  cases hopening

namespace Permits

variable {tail tail' : List Char} (h : Permits tail tail')

include h

/-- A condition on the first character carries over, if the first characters of neutral texts meet it. -/
theorem head {p : Char → Prop} (hp : ∀ c, isNameChar c = false → c ∉ ['.', '"', '=', '>'] → p c)
    (htail : ∀ c, tail.head? = some c → p c) : ∀ c, tail'.head? = some c → p c := by
  intro c hc
  rcases h.front with hneutral | ⟨hhead, -⟩
  · exact hp c (hneutral c hc).1 (hneutral c hc).2
  · exact htail c (hhead ▸ hc)

theorem startsNumber_eq_false (htail : startsNumber tail = false) : startsNumber tail' = false := by
  rcases h.front with hneutral | ⟨-, hstarts⟩
  · exact hneutral.startsNumber_eq_false
  · rw [hstarts, htail]

theorem numberEnds {cs : List Char} (htail : NumberEnds cs tail) : NumberEnds cs tail' := by
  have hdigit : ∀ c, tail'.head? = some c → c.isDigit = false :=
    h.head (fun _ hname _ => isDigit_of_not_isNameChar hname) (isDigit_head_of_isDigitFirst htail.no_digit)
  exact ⟨isDigitFirst_eq_false hdigit, fun hpoint => h.startsNumber_eq_false (htail.no_point hpoint)⟩

theorem wordEnds (htail : WordEnds tail) : WordEnds tail' := h.head (fun _ hname _ => hname) htail

theorem not_mem_pairs {c : Char} (htail : ∀ d, tail.head? = some d → [c, d] ∉ pairs) :
    ∀ d, tail'.head? = some d → [c, d] ∉ pairs := by
  refine h.head (fun d _ hmark hpair => hmark ?_) htail
  simp only [pairs, List.mem_cons, List.cons.injEq, and_true, List.not_mem_nil, or_false] at hpair
  rcases hpair with ⟨-, rfl⟩ | ⟨-, rfl⟩ | ⟨-, rfl⟩ <;> decide

end Permits

namespace Scans

variable {afterOperand : Bool} {tail tail' cs : List Char} {kind : TokenKind} {text : String}

/-- What is a token in front of a text is one in front of each text that this one permits. -/
theorem permits (h : Scans afterOperand tail cs kind text) (htail : Permits tail tail') :
    Scans afterOperand tail' cs kind text := by
  cases h with
  | field hinner hname => exact .field hinner hname
  | text hquote =>
    refine .text fun hhead => ?_
    exact htail.head (p := (· ≠ '"')) (fun c _ hmark hc => hmark (by simp [hc]))
      (fun c hc heq => hquote (heq ▸ hc)) '"' hhead rfl
  | opening => exact .opening
  | closing => exact .closing
  | comma => exact .comma
  | number h hends => exact .number h (htail.numberEnds hends)
  | signed hbefore h hends => exact .signed hbefore h (htail.numberEnds hends)
  | sign hc hpairs hminus =>
    exact .sign hc (htail.not_mem_pairs hpairs) fun heq => (hminus heq).imp_right htail.startsNumber_eq_false
  | pair h => exact .pair h
  | truth hword hends h => exact .truth hword (htail.wordEnds hends) h
  | function hword hends hne h => exact .function hword (htail.wordEnds hends) hne (h.imp_right htail.opening)

/-- Whether a number starts where a token does is not for the text behind it to say. -/
theorem startsNumber_append (h : Scans afterOperand tail cs kind text) (behind behind' : List Char) :
    startsNumber (cs ++ behind) = startsNumber (cs ++ behind') := by
  have hcons : ∀ c body, c ≠ '.' → startsNumber (c :: body ++ behind) = startsNumber (c :: body ++ behind') :=
    fun c body hc => (startsNumber_cons hc _).trans (startsNumber_cons hc _).symm
  have hword : isWord cs = true → startsNumber (cs ++ behind) = startsNumber (cs ++ behind') := by
    intro hword
    cases cs with
    | nil => cases hword
    | cons c body =>
      exact hcons c body (ne_mark_of_isNameChar (isNameChar_of_isNameStart (isWord_cons.mp hword).1) (by decide))
  cases h with
  | number h => rw [h.startsNumber_append, h.startsNumber_append]
  | field | text | opening | closing | comma | signed => exact hcons _ _ (by decide)
  | sign hc => exact hcons _ [] fun hpoint => absurd (hpoint ▸ hc) (by decide)
  | pair h =>
    simp only [pairs, List.mem_cons, List.not_mem_nil, or_false] at h
    rcases h with rfl | rfl | rfl <;> exact hcons _ _ (by decide)
  | truth h => exact hword h
  | function h => exact hword h

end Scans

end Lexeme

/-! ### Respaced texts -/

/-- The first character that is not blank is that of the first piece. -/
theorem Piece.trimStart_append (piece : Piece) {afterOperand : Bool} {tail : List Char}
    (h : Scans afterOperand tail piece.lexeme piece.kind piece.text) (behind : List Char) :
    (Text.trimStart (piece.gap ++ (piece.lexeme ++ behind))).head? = piece.lexeme.head? := by
  obtain ⟨c, body, hcs, hc⟩ := h.exists_cons
  have hblank : piece.gap.dropWhile isBlank = [] := List.dropWhile_eq_nil_iff.mpr piece.gap_blank
  rw [Text.trimStart, List.dropWhile_append, hblank, List.isEmpty_nil, if_pos rfl, hcs, List.cons_append,
    List.dropWhile_cons_of_neg (by simp [hc])]
  rfl

/-- Other blanks between the pieces and another text behind them leave each piece the token that it is, if the text
permits what stands in front of it. -/
theorem ScansAll.respaced_of_permits {afterOperand : Bool} {pieces respaced : List Piece} {rest rest' : List Char}
    (hrespaced : List.Forall₂ Piece.Respaced pieces respaced) (hrest : Permits rest rest')
    (h : ScansAll afterOperand pieces rest) :
    ScansAll afterOperand respaced rest' ∧ Permits (charsOf pieces ++ rest) (charsOf respaced ++ rest') := by
  -- from the last piece to the first: a piece is permitted in front of what is known of the pieces behind it
  induction hrespaced generalizing afterOperand with
  | nil => exact ⟨trivial, hrest⟩
  | @cons piece piece' pieces pieces' hpiece _ ih =>
    obtain ⟨hscans, hall⟩ := h
    obtain ⟨hall', hpermits⟩ := ih hall
    have hscans' : Scans afterOperand (charsOf pieces' ++ rest') piece'.lexeme piece'.kind piece'.text := by
      rw [hpiece.lexeme_eq, hpiece.kind_eq, hpiece.text_eq]
      exact hscans.permits hpermits
    refine ⟨⟨hscans', hpiece.kind_eq ▸ hall'⟩, ?_⟩
    rw [charsOf_cons, charsOf_cons, List.append_assoc, List.append_assoc, List.append_assoc, List.append_assoc]
    refine ⟨fun hopening => ?_, ?_⟩
    · rwa [piece'.trimStart_append hscans', hpiece.lexeme_eq, ← piece.trimStart_append hscans]
    · rcases eq_or_ne piece'.gap [] with hnil | hne
      · -- without blanks both texts go on with the same lexeme
        have hnil' : piece.gap = [] := by
          by_contra hne
          exact hpiece.apart hne hnil
        obtain ⟨c, body, hcs, -⟩ := hscans.exists_cons
        rw [hnil, hnil', hpiece.lexeme_eq]
        exact .inr ⟨by rw [hcs]; rfl, hscans.startsNumber_append _ _⟩
      · exact .inl (neutral_of_blank hne piece'.gap_blank _)

/-- Other blanks leave each piece the token that it is, and what stands in front of them as well. -/
theorem ScansAll.respaced {afterOperand : Bool} {pieces respaced : List Piece} {rest rest' : List Char}
    (hrespaced : List.Forall₂ Piece.Respaced pieces respaced) (hrest : AllBlank rest) (hrest' : AllBlank rest')
    (h : ScansAll afterOperand pieces rest) :
    ScansAll afterOperand respaced rest' ∧ Permits (charsOf pieces ++ rest) (charsOf respaced ++ rest') := by
  have hneutral : Neutral rest' := by
    rcases eq_or_ne rest' [] with rfl | hne
    · exact nofun
    · exact List.append_nil rest' ▸ neutral_of_blank hne hrest' []
  exact h.respaced_of_permits hrespaced (permits_of_blank hrest hneutral)

/-- A layout of a text that is read as its tokens. -/
theorem Layout.tokenize_eq {layout : Layout} (h : ScansAll false layout.pieces layout.rest) :
    tokenize (String.ofList layout.chars) = .ok layout.tokens := by
  have hrest : tokenizeFrom (endsAfter false layout.pieces) (0 + (charsOf layout.pieces).length) layout.rest =
      .ok [.eof layout.chars.length] := by
    rw [← List.append_nil layout.rest, tokenizeFrom_gap layout.rest_blank, tokenizeFrom, chars, List.length_append,
      Nat.zero_add]
  rw [tokenize, String.toList_ofList, chars, h.tokenizeFrom_append 0, hrest]
  rfl

/-- Texts with the same tokens up to positions parse to the same trees. -/
theorem parseFormula_eq_ok_iff_of_content {formula formula' : String} {tokens tokens' : List Token}
    (h : tokenize formula = .ok tokens) (h' : tokenize formula' = .ok tokens')
    (hsame : tokens'.map Token.content = tokens.map Token.content) (e : Expr) :
    parseFormula formula' = .ok e ↔ parseFormula formula = .ok e := by
  have hforward : ∀ {formula formula' tokens tokens'}, tokenize formula = .ok tokens →
      tokenize formula' = .ok tokens' → tokens'.map Token.content = tokens.map Token.content →
      parseFormula formula = .ok e → parseFormula formula' = .ok e := by
    intro formula formula' tokens tokens' h h' hsame hparse
    obtain ⟨body, last, htokens, hbody⟩ := parseFormula_eq_ok_iff.mp hparse
    obtain ⟨body', last', rfl, -⟩ := tokenizeFrom_eq_ok h'
    obtain rfl : tokens = body ++ [.eof last] := Except.ok.inj (h.symm.trans htokens)
    rw [List.map_append, List.map_append] at hsame
    exact parseFormula_eq_ok_iff.mpr ⟨body', last', h', hbody.congr (List.append_inj' hsame rfl).1⟩
  exact ⟨hforward h' h hsame.symm, hforward h h' hsame⟩

/-- A text that is read as some tokens has one layout with them. Whatever blanks stand between the lexemes of it
instead, in front of the first and behind the last, so long as lexemes that were apart stay apart, the text is read
as tokens of the same kinds and texts, and parses to the same tree or not at all. -/
theorem tokenize_respaced {formula : String} {tokens : List Token} (h : tokenize formula = .ok tokens) :
    ∃ layout : Layout,
      (∀ other : Layout, other.chars = formula.toList ∧ other.tokens = tokens ↔ other = layout) ∧
      ∀ respaced : Layout, layout.Respaced respaced →
        tokenize (String.ofList respaced.chars) = .ok respaced.tokens ∧
        respaced.tokens.map Token.content = tokens.map Token.content ∧
        ∀ e, parseFormula (String.ofList respaced.chars) = .ok e ↔ parseFormula formula = .ok e := by
  obtain ⟨pieces, rest, hrest, hchars, hall, htokens⟩ := exists_pieces h
  let layout : Layout := ⟨pieces, rest, hrest⟩
  have htokens : layout.tokens = tokens := by
    rw [htokens, Layout.tokens, Layout.chars, ← hchars, Nat.zero_add]
  refine ⟨layout, fun other => ⟨?_, ?_⟩, fun respaced hrespaced => ?_⟩
  · rintro ⟨hother, hsame⟩
    exact Layout.unique (hother.trans hchars) (hsame.trans htokens.symm)
  · rintro rfl
    exact ⟨hchars.symm, htokens⟩
  · have hcontent : respaced.tokens.map Token.content = tokens.map Token.content :=
      htokens ▸ hrespaced.map_content
    have hread : tokenize (String.ofList respaced.chars) = .ok respaced.tokens :=
      Layout.tokenize_eq (hall.respaced hrespaced hrest respaced.rest_blank).1
    exact ⟨hread, hcontent, parseFormula_eq_ok_iff_of_content h hread hcontent⟩

/-- Blanks around both minuses of a text without any: the second one is the sign of the number behind it. -/
theorem tokenize_respaced_minus :
    ∃ layout respaced : Layout, layout.Respaced respaced ∧
      layout.chars = "1--.5".toList ∧ respaced.chars = " 1 -\t-.5\n".toList ∧
      tokenize "1--.5" = .ok layout.tokens ∧ tokenize " 1 -\t-.5\n" = .ok respaced.tokens ∧
      ∀ e, parseFormula " 1 -\t-.5\n" = .ok e ↔ parseFormula "1--.5" = .ok e := by
  have htokens : tokenize "1--.5" =
      .ok [⟨.number, "1", 0⟩, ⟨.operator, "-", 1⟩, ⟨.number, "-.5", 2⟩, .eof 5] := by decide +kernel
  let one (gap : List Char) (h : AllBlank gap) : Piece := ⟨gap, ['1'], .number, "1", h, nofun, rfl⟩
  let minus (gap : List Char) (h : AllBlank gap) : Piece := ⟨gap, ['-'], .operator, "-", h, nofun, rfl⟩
  let half (gap : List Char) (h : AllBlank gap) : Piece := ⟨gap, ['-', '.', '5'], .number, "-.5", h, nofun, rfl⟩
  let dense : Layout := ⟨[one [] nofun, minus [] nofun, half [] nofun], [], nofun⟩
  have hblank : ∀ c ∈ [' ', '\t', '\n'], isBlank c = true := List.all_eq_true.mp (by decide)
  have hgap {c : Char} (hc : c ∈ [' ', '\t', '\n']) : AllBlank [c] := List.forall_mem_singleton.mpr (hblank c hc)
  let loose : Layout :=
    ⟨[one [' '] (hgap (by decide)), minus [' '] (hgap (by decide)), half ['\t'] (hgap (by decide))], ['\n'],
      hgap (by decide)⟩
  have hrespaced : dense.Respaced loose :=
    .cons ⟨rfl, rfl, rfl, nofun⟩ (.cons ⟨rfl, rfl, rfl, nofun⟩ (.cons ⟨rfl, rfl, rfl, nofun⟩ .nil))
  obtain ⟨layout, hlayout, hall⟩ := tokenize_respaced htokens
  obtain rfl : dense = layout := (hlayout dense).mp ⟨rfl, rfl⟩
  obtain ⟨hread, -, hparse⟩ := hall loose hrespaced
  exact ⟨dense, loose, hrespaced, rfl, rfl, htokens, hread, hparse⟩

end FormRules.Formula

import Mathlib.Data.List.Forall2
import FormRules.Proofs.Formula.Rendering
import FormRules.Proofs.Formula.Spacing

/-!
# Putting formulas together

A formula keeps its tokens wherever it stands in front of a comma or a closing parenthesis (`ReadsAll.of_tokenize`):
only the first character of these behind its last blanks could decide about a token, and it decides about none.
Texts that are read so are put one behind the other (`ReadsAll.append`) as the tokens of phrases are by the grammar.
Main statement: formulas in parentheses on both sides of an operator, and formulas between the commas of a call of a
built-in function, parse to the operation and to the call of their trees, if each of them leaves a level to the
parentheses around it (`parseFormula_composed`).
-/

namespace FormRules.Formula

open Lexeme
open Text (AllBlank)

/-! ### Texts that are read wherever they stand -/

/-- Wherever the characters stand in front of what `Next` holds of, they are read as tokens of the same kinds and
texts as the given ones. -/
def ReadsAll (before after : Bool) (Next : List Char → Prop) (cs : List Char) (tokens : List Token) : Prop :=
  ∀ position tail, Next tail → ∃ out next, out.map Token.content = tokens.map Token.content ∧
    tokenizeFrom before position (cs ++ tail) = (tokenizeFrom after next tail).map (out ++ ·)

/-- What ends a formula that is part of another one. -/
def EndsPart (tail : List Char) : Prop := ∃ rest, tail = ',' :: rest ∨ tail = ')' :: rest

namespace EndsPart

variable {tail : List Char} (h : EndsPart tail)

include h

theorem neutral : Neutral tail := by
  obtain ⟨rest, rfl | rfl⟩ := h
  all_goals
    intro c hc
    cases hc
    decide

/-- It is read alike whatever stands in front of it. -/
theorem tokenizeFrom_eq (before after : Bool) (position : Nat) :
    tokenizeFrom before position tail = tokenizeFrom after position tail := by
  obtain ⟨rest, rfl | rfl⟩ := h
  · have hcomma (before : Bool) := (reads_comma before (· = rest)).tokenizeFrom_append rfl position
    exact (hcomma before).trans (hcomma after).symm
  · have hclosing (before : Bool) := (reads_closing before (· = rest)).tokenizeFrom_append rfl position
    exact (hclosing before).trans (hclosing after).symm

end EndsPart

namespace ReadsAll

variable {before middle after : Bool} {Next Next' : List Char → Prop} {cs cs' : List Char}
  {tokens left right : List Token}

theorem of_reads {kind : TokenKind} {text : String} (h : Reads before Next cs kind text) :
    ReadsAll before kind.endsOperand Next cs [⟨kind, text, 0⟩] := by
  intro position tail htail
  exact ⟨[⟨kind, text, position⟩], position + cs.length, rfl, h.tokenizeFrom_append htail position⟩

theorem nil : ReadsAll before after EndsPart [] [] := by
  intro position tail htail
  refine ⟨[], position, rfl, ?_⟩
  rw [List.nil_append, htail.tokenizeFrom_eq before after]
  cases tokenizeFrom after position tail <;> rfl

theorem append (hl : ReadsAll before middle Next cs left) (hr : ReadsAll middle after Next' cs' right)
    (hnext : ∀ tail, Next' tail → Next (cs' ++ tail)) :
    ReadsAll before after Next' (cs ++ cs') (left ++ right) := by
  intro position tail htail
  obtain ⟨l, next, hleft, heq⟩ := hl position _ (hnext tail htail)
  obtain ⟨r, last, hright, heq'⟩ := hr next tail htail
  refine ⟨l ++ r, last, by rw [List.map_append, List.map_append, hleft, hright], ?_⟩
  rw [List.append_assoc, heq, heq']
  cases tokenizeFrom after last tail with
  | error e => rfl
  | ok more => simp [Except.map]

/-- A formula is read with the same tokens in front of what ends a part. -/
theorem of_tokenize {formula : String} {last : Nat} (h : tokenize formula = .ok (tokens ++ [.eof last])) :
    ReadsAll false after EndsPart formula.toList tokens := by
  obtain ⟨pieces, rest, hrest, hchars, hall, htokens⟩ := exists_pieces h
  obtain rfl : tokens = tokensAt 0 pieces := (List.append_inj' htokens rfl).1
  have hsame : List.Forall₂ Piece.Respaced pieces pieces := List.forall₂_same.mpr fun _ _ => ⟨rfl, rfl, rfl, id⟩
  intro position tail htail
  have hneutral : Neutral (rest ++ tail) := by
    rcases eq_or_ne rest [] with rfl | hne
    · exact htail.neutral
    · exact neutral_of_blank hne hrest tail
  have hread := (hall.respaced_of_permits hsame (permits_of_blank hrest hneutral)).1.tokenizeFrom_append position
  refine ⟨tokensAt position pieces, position + (charsOf pieces).length + rest.length,
    map_content_tokensAt hsame 0 position, ?_⟩
  rw [hchars, List.append_assoc, hread, tokenizeFrom_gap hrest, htail.tokenizeFrom_eq _ after]

/-- Parentheses around a text, whatever follows them. -/
theorem group (h : ReadsAll false true EndsPart cs tokens) :
    ReadsAll false true (fun _ => True) ("(".toList ++ (cs ++ ")".toList))
      (⟨.openParen, "(", 0⟩ :: (tokens ++ [⟨.closeParen, ")", 0⟩])) := by
  have hopening : ReadsAll false false (fun _ => True) "(".toList [⟨.openParen, "(", 0⟩] :=
    of_reads (reads_opening false _)
  have hclosing : ReadsAll true true (fun _ => True) ")".toList [⟨.closeParen, ")", 0⟩] :=
    of_reads (reads_closing true _)
  exact hopening.append (h.append hclosing fun tail _ => ⟨tail, .inr rfl⟩) fun _ _ => trivial

/-- A whole text that is read as the tokens of a phrase parses to the tree of the phrase. -/
theorem parseFormula_eq {formula : String} {e : Expr} (h : ReadsAll false true (fun _ => True) formula.toList tokens)
    (hd : Derives .comparison (maxLevels - 1) tokens e) : parseFormula formula = .ok e := by
  obtain ⟨out, last, hsame, hread⟩ := h 0 [] trivial
  rw [List.append_nil, tokenizeFrom] at hread
  exact parseFormula_eq_ok_iff.mpr ⟨out, last, hread, hd.congr hsame⟩

end ReadsAll

/-! ### Parts of a formula -/

/-- The formula is a phrase no point of which is inside more than `levels` parentheses, arguments and minuses before
an atom. -/
def NestsWithin (levels : Nat) (formula : String) : Prop :=
  ∃ body last e, tokenize formula = .ok (body ++ [.eof last]) ∧ Derives .comparison levels body e

/-- A formula parses exactly if it leaves one of the levels to itself. -/
theorem exists_parseFormula_iff {formula : String} :
    (∃ e, parseFormula formula = .ok e) ↔ NestsWithin (maxLevels - 1) formula := by
  constructor
  · rintro ⟨e, hparse⟩
    obtain ⟨body, last, hbody, hd⟩ := parseFormula_eq_ok_iff.mp hparse
    exact ⟨body, last, e, hbody, hd⟩
  · rintro ⟨body, last, e, hbody, hd⟩
    exact ⟨e, parseFormula_eq_ok_iff.mpr ⟨body, last, hbody, hd⟩⟩

/-- The text may be put where an expression stands inside which `levels` levels may open. -/
def IsPart (levels : Nat) (formula : String) (e : Expr) : Prop :=
  ∃ tokens, Derives .comparison levels tokens e ∧ ReadsAll false true EndsPart formula.toList tokens

theorem isPart_of_parseFormula {levels : Nat} {formula : String} {e : Expr} (hparse : parseFormula formula = .ok e)
    (hnests : NestsWithin levels formula) : IsPart levels formula e := by
  obtain ⟨body, last, hbody, hd⟩ := parseFormula_eq_ok_iff.mp hparse
  obtain ⟨body', last', e', hbody', hd'⟩ := hnests
  obtain ⟨rfl, -⟩ := List.append_inj' (Except.ok.inj (hbody.symm.trans hbody')) rfl
  obtain rfl := hd.unique hd'
  exact ⟨body, hd', .of_tokenize hbody⟩

/-- An atom is a phrase of each tier. -/
theorem Derives.of_atom {levels : Nat} {tokens : List Token} {e : Expr} (h : Derives .atom levels tokens e)
    (tier : Tier) : Derives tier levels tokens e := by
  cases tier with
  | atom => exact h
  | product => exact .single (by decide) h
  | sum => exact .single (by decide) (.single (by decide) h)
  | comparison => exact h.toComparison

/-- Each operator belongs to a tier. -/
theorem ArithmeticOp.exists_tier (op : ArithmeticOp) :
    ∃ tier : Tier, (op.symbol, Expr.arithmetic op) ∈ tier.operators := by
  cases op with
  | add => exact ⟨.sum, by simp [symbol, Tier.operators]⟩
  | subtract => exact ⟨.sum, by simp [symbol, Tier.operators]⟩
  | multiply => exact ⟨.product, by simp [symbol, Tier.operators]⟩
  | divide => exact ⟨.product, by simp [symbol, Tier.operators]⟩

theorem ComparisonOp.mem_operators (op : ComparisonOp) :
    (op.symbol, Expr.comparison op) ∈ Tier.comparison.operators := by
  cases op <;> simp [symbol, Tier.operators]

namespace IsPart

variable {levels : Nat} {f g : String} {a b : Expr}

/-- A part in parentheses is an atom. -/
theorem group (h : IsPart levels f a) :
    ∃ tokens, Derives .atom (levels + 1) tokens a ∧
      ReadsAll false true (fun _ => True) ("(".toList ++ (f.toList ++ ")".toList)) tokens := by
  obtain ⟨tokens, hd, hreads⟩ := h
  exact ⟨_, .parens rfl rfl hd, hreads.group⟩

/-- Two parts in parentheses are joined by each operator. -/
theorem joined (hf : IsPart levels f a) (hg : IsPart levels g b) {tier : Tier} {symbol : String}
    {join : Expr → Expr → Expr} (hsymbol : (symbol, join) ∈ tier.operators) :
    ∃ tokens, Derives .comparison (levels + 1) tokens (join a b) ∧
      ReadsAll false true (fun _ => True)
        ("(".toList ++ (f.toList ++ ")".toList) ++ (symbol.toList ++ ("(".toList ++ (g.toList ++ ")".toList))))
        tokens := by
  obtain ⟨left, hl, hreadl⟩ := hf.group
  obtain ⟨right, hr, hreadr⟩ := hg.group
  let op : Token := ⟨.operator, symbol, 0⟩
  have hjoint : tier.joint op = some join := Tier.joint_eq_some_iff.mpr ⟨rfl, hsymbol⟩
  have hreads : ReadsAll true false EndsOperator symbol.toList [op] :=
    .of_reads (reads_operator (tier.text_mem_symbols hjoint))
  refine ⟨left ++ op :: right, (Derives.joined (hl.of_atom tier) hjoint (hr.of_atom tier.below)).toComparison, ?_⟩
  refine hreadl.append (hreads.append hreadr fun tail _ => ?_) fun _ _ => trivial
  intro c hc
  cases hc
  decide

end IsPart

/-- The arguments of a call from parts with commas between them. -/
theorem exists_arguments {levels : Nat} {first : String × Expr} {rest : List (String × Expr)}
    (hparts : ∀ part ∈ first :: rest, IsPart levels part.1 part.2) :
    ∃ (tokens : List Token) (args : List Argument), Derives .comparison levels tokens first.2 ∧
      (∀ arg ∈ args, arg.comma.kind = .comma) ∧
      (∀ arg ∈ args, Derives .comparison levels arg.tokens arg.tree) ∧
      args.map Argument.tree = rest.map Prod.snd ∧
      ReadsAll false true EndsPart ([','].intercalate ((first :: rest).map (·.1.toList)))
        (tokens ++ args.flatMap Argument.written) := by
  induction rest generalizing first with
  | nil =>
    obtain ⟨tokens, hd, hreads⟩ := hparts first List.mem_cons_self
    exact ⟨tokens, [], hd, nofun, nofun, rfl, by simpa using hreads⟩
  | cons second rest ih =>
    obtain ⟨hfirst, hrest⟩ := List.forall_mem_cons.mp hparts
    obtain ⟨tokens, hd, hreads⟩ := hfirst
    obtain ⟨tokens', args, hd', hcommas, hargs, htrees, hreads'⟩ := ih hrest
    let comma : Token := ⟨.comma, ",", 0⟩
    have hcomma : ReadsAll true false (fun _ => True) ",".toList [comma] := .of_reads (reads_comma true _)
    refine ⟨tokens, ⟨comma, tokens', second.2⟩ :: args, hd, List.forall_mem_cons.mpr ⟨rfl, hcommas⟩,
      List.forall_mem_cons.mpr ⟨hd', hargs⟩, by rw [List.map_cons, List.map_cons, htrees], ?_⟩
    have happend := hreads.append (hcomma.append hreads' fun _ _ => trivial) fun tail _ => ⟨_, .inl rfl⟩
    simpa [List.intercalate_cons_cons, Argument.written] using happend

/-- The name of a built-in function is read as a function in front of a parenthesis. -/
theorem reads_builtin (function : Builtin) :
    Reads false (fun tail => tail.head? = some '(') function.name.toList .function function.name := by
  have hname : (Builtin.ofName? function.name).isSome = true := by rw [Builtin.ofName?_name]; rfl
  obtain ⟨hword, hupper⟩ := isWord_of_builtin hname
  have htext : function.name = Text.upper (String.ofList function.name.toList) := by
    rw [String.ofList_toList, hupper]
  have htruth : function.name ≠ "TRUE" ∧ function.name ≠ "FALSE" := by cases function <;> decide
  have hread := reads_name htext htruth.1 htruth.2 hword false
  rwa [hupper] at hread

/-- Parts between the parentheses and commas of a call are its arguments. -/
theorem exists_call {levels : Nat} (function : Builtin) {parts : List (String × Expr)}
    (hparts : ∀ part ∈ parts, IsPart levels part.1 part.2) :
    ∃ tokens, Derives .atom (levels + 1) tokens (.call function.name (parts.map Prod.snd)) ∧
      ReadsAll false true (fun _ => True)
        (function.name.toList ++ ("(".toList ++ ([','].intercalate (parts.map (·.1.toList)) ++ ")".toList)))
        tokens := by
  have hname : ReadsAll false false (fun tail => tail.head? = some '(') function.name.toList
      [⟨.function, function.name, 0⟩] := .of_reads (reads_builtin function)
  cases parts with
  | nil => exact ⟨_, .emptyCall rfl rfl rfl, hname.append ReadsAll.nil.group fun _ _ => rfl⟩
  | cons first rest =>
    obtain ⟨tokens, args, hd, hcommas, hargs, htrees, hreads⟩ := exists_arguments hparts
    refine ⟨_, ?_, hname.append hreads.group fun _ _ => rfl⟩
    rw [List.map_cons, ← htrees]
    exact .call rfl rfl rfl hd hcommas hargs

/-! ### Whole formulas -/

theorem parseFormula_joined {f g symbol : String} {a b : Expr} {tier : Tier} {join : Expr → Expr → Expr}
    (hf : IsPart (maxLevels - 2) f a) (hg : IsPart (maxLevels - 2) g b)
    (hsymbol : (symbol, join) ∈ tier.operators) :
    parseFormula ("(" ++ f ++ ")" ++ symbol ++ "(" ++ g ++ ")") = .ok (join a b) := by
  obtain ⟨tokens, hd, hreads⟩ := hf.joined hg hsymbol
  have htext : ("(" ++ f ++ ")" ++ symbol ++ "(" ++ g ++ ")").toList =
      "(".toList ++ (f.toList ++ ")".toList) ++ (symbol.toList ++ ("(".toList ++ (g.toList ++ ")".toList))) := by
    simp only [String.toList_append, List.append_assoc]
  exact ReadsAll.parseFormula_eq (htext ▸ hreads) hd

theorem parseFormula_call (function : Builtin) {parts : List (String × Expr)}
    (hparts : ∀ part ∈ parts, IsPart (maxLevels - 2) part.1 part.2) :
    parseFormula (function.name ++ "(" ++ ",".intercalate (parts.map Prod.fst) ++ ")") =
      .ok (.call function.name (parts.map Prod.snd)) := by
  obtain ⟨tokens, hd, hreads⟩ := exists_call function hparts
  have htext : (function.name ++ "(" ++ ",".intercalate (parts.map Prod.fst) ++ ")").toList =
      function.name.toList ++ ("(".toList ++ ([','].intercalate (parts.map (·.1.toList)) ++ ")".toList)) := by
    simp [String.toList_intercalate, Function.comp_def]
  exact ReadsAll.parseFormula_eq (htext ▸ hreads) hd.toComparison

theorem Expr.anyExpandable_eq (args : List Expr) : anyExpandable args = args.any hasExpandable := by
  induction args with
  | nil => rfl
  | cons arg args ih => rw [anyExpandable, ih, List.any_cons]

/-- Formulas that leave a level to the parentheses around them may be put together: two of them in parentheses with
an operator in between parse to the operation on their trees, and any number of them, with commas in between, to the
arguments of a call. The new formula has calls to expand exactly if one of its parts has or its own call is one. -/
theorem parseFormula_composed :
    (∀ {f g : String} {a b : Expr}, parseFormula f = .ok a → NestsWithin (maxLevels - 2) f →
      parseFormula g = .ok b → NestsWithin (maxLevels - 2) g →
      (∀ op : ArithmeticOp,
        parseFormula ("(" ++ f ++ ")" ++ op.symbol ++ "(" ++ g ++ ")") = .ok (.arithmetic op a b) ∧
          (Expr.arithmetic op a b).hasExpandable = (a.hasExpandable || b.hasExpandable)) ∧
      ∀ op : ComparisonOp,
        parseFormula ("(" ++ f ++ ")" ++ op.symbol ++ "(" ++ g ++ ")") = .ok (.comparison op a b) ∧
          (Expr.comparison op a b).hasExpandable = (a.hasExpandable || b.hasExpandable)) ∧
    ∀ (function : Builtin) (parts : List (String × Expr)),
      (∀ part ∈ parts, parseFormula part.1 = .ok part.2 ∧ NestsWithin (maxLevels - 2) part.1) →
      parseFormula (function.name ++ "(" ++ ",".intercalate (parts.map Prod.fst) ++ ")") =
          .ok (.call function.name (parts.map Prod.snd)) ∧
        (Expr.call function.name (parts.map Prod.snd)).hasExpandable =
          (function.isExpandable || parts.any (·.2.hasExpandable)) := by
  refine ⟨fun {f g a b} hf hnestsf hg hnestsg => ?_, fun function parts hparts => ⟨?_, ?_⟩⟩
  · have hpartf : IsPart (maxLevels - 2) f a := isPart_of_parseFormula hf hnestsf
    have hpartg : IsPart (maxLevels - 2) g b := isPart_of_parseFormula hg hnestsg
    refine ⟨fun op => ⟨?_, rfl⟩, fun op => ⟨?_, rfl⟩⟩
    · obtain ⟨tier, htier⟩ := op.exists_tier
      exact parseFormula_joined hpartf hpartg htier
    · exact parseFormula_joined hpartf hpartg op.mem_operators
  · exact parseFormula_call function fun part hpart =>
      isPart_of_parseFormula (hparts part hpart).1 (hparts part hpart).2
  · rw [Expr.hasExpandable, isExpandableName, function.ofName?_name, Expr.anyExpandable_eq, List.any_map]
    rfl

/-- A name with a parenthesis in it behind a minus, and a call in small letters with blanks in it. -/
theorem parseFormula_composed_due :
    let f := "-[due)] "
    let g := "now ( )"
    let a : Expr := .arithmetic .subtract (.literal (.number (.zero false))) (.field "due)")
    let b : Expr := .call "NOW" []
    parseFormula f = .ok a ∧ NestsWithin (maxLevels - 2) f ∧ parseFormula g = .ok b ∧ NestsWithin (maxLevels - 2) g ∧
      parseFormula "(-[due)] )*(now ( ))" = .ok (.arithmetic .multiply a b) ∧
      parseFormula "(-[due)] )<=(now ( ))" = .ok (.comparison .lessEqual a b) ∧
      parseFormula "IF(-[due)] ,now ( ),-[due)] )" = .ok (.call "IF" [a, b, a]) ∧
      (Expr.call "IF" [a, b, a]).hasExpandable = true := by
  intro f g a b
  have hf : tokenize f = .ok ([⟨.operator, "-", 0⟩, ⟨.field, "due)", 1⟩] ++ [.eof 8]) := by decide +kernel
  have hg : tokenize g = .ok ([⟨.function, "NOW", 0⟩, ⟨.openParen, "(", 4⟩, ⟨.closeParen, ")", 6⟩] ++ [.eof 7]) := by
    decide +kernel
  have ha : Derives .comparison (maxLevels - 2) [⟨.operator, "-", 0⟩, ⟨.field, "due)", 1⟩] a :=
    (Derives.minus rfl rfl (.field rfl)).toComparison
  have hb : Derives .comparison (maxLevels - 2)
      [⟨.function, "NOW", 0⟩, ⟨.openParen, "(", 4⟩, ⟨.closeParen, ")", 6⟩] b :=
    (Derives.emptyCall rfl rfl rfl).toComparison
  have hparsef : parseFormula f = .ok a := parseFormula_eq_ok_iff.mpr ⟨_, _, hf, ha.mono (by decide)⟩
  have hparseg : parseFormula g = .ok b := parseFormula_eq_ok_iff.mpr ⟨_, _, hg, hb.mono (by decide)⟩
  have hnestsf : NestsWithin (maxLevels - 2) f := ⟨_, _, _, hf, ha⟩
  have hnestsg : NestsWithin (maxLevels - 2) g := ⟨_, _, _, hg, hb⟩
  obtain ⟨harithmetic, hcomparison⟩ := parseFormula_composed.1 hparsef hnestsf hparseg hnestsg
  have hcall := parseFormula_composed.2 .ifThenElse [(f, a), (g, b), (f, a)]
    (by simp [hparsef, hnestsf, hparseg, hnestsg])
  have htext : Builtin.ifThenElse.name ++ "(" ++ ",".intercalate ([(f, a), (g, b), (f, a)].map Prod.fst) ++ ")" =
      "IF(-[due)] ,now ( ),-[due)] )" := by decide +kernel
  rw [htext] at hcall
  exact ⟨hparsef, hnestsf, hparseg, hnestsg, (harithmetic .multiply).1, (hcomparison .lessEqual).1, hcall.1, hcall.2⟩

end FormRules.Formula

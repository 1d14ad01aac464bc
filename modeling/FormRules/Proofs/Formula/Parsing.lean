import Mathlib.Data.List.TakeWhile
import FormRules.Proofs.Formula.Grammar
import FormRules.Proofs.Formula.Scanning

/-!
# The parser and the grammar

The parser of a tier takes a phrase of that tier from the front of a token list, and takes every such phrase
(`parser_sound`, `parser_complete`). A phrase ends where no operator of its tier or of a tighter one follows, so
what follows decides nothing else. Main statement: `parseTokens` succeeds exactly on the phrases of the grammar,
with their tree (`parseTokens_eq_ok_iff`).
-/

namespace FormRules.Formula

open FormRules.Formula.Parser

namespace Tier

/-- The parser of a tier. -/
def parser : Tier → Nat → Parser Expr
  | atom, levels => Parser.atom levels
  | product, levels => chain productJoint (Parser.atom levels)
  | sum, levels => chain sumJoint (chain productJoint (Parser.atom levels))
  | comparison, levels => comparisons (Parser.atom levels)

/-- How loose a tier is. -/
def rank : Tier → Nat
  | atom => 0
  | product => 1
  | sum => 2
  | comparison => 3

theorem rank_below_lt {tier : Tier} (ht : tier ≠ .atom) : tier.below.rank < tier.rank := by
  cases tier with
  | atom => exact absurd rfl ht
  | _ => decide

theorem parser_eq_chain {tier : Tier} (ht : tier ≠ .atom) (levels : Nat) :
    tier.parser levels = chain tier.joint (tier.below.parser levels) := by
  cases tier with
  | atom => exact absurd rfl ht
  | _ => rfl

/-- The tokens that join the operands of a tier. -/
def symbols : Tier → List String
  | atom => []
  | product => ["*", "/"]
  | sum => ["+", "-"]
  | comparison => ["=", "<>", "<", "<=", ">", ">="]

theorem text_mem_symbols {tier : Tier} {op : Token} {join : Expr → Expr → Expr}
    (h : tier.joint op = some join) : op.text ∈ tier.symbols := by
  have hsymbols : tier.symbols = tier.operators.map Prod.fst := by cases tier <;> rfl
  rw [hsymbols]
  exact List.mem_map_of_mem (joint_eq_some_iff.mp h).2

/-- A token joins the operands of one tier only. -/
theorem joint_eq_none {tier other : Tier} {op : Token} {join : Expr → Expr → Expr}
    (h : tier.joint op = some join) (hne : other ≠ tier) : other.joint op = none := by
  cases ho : other.joint op with
  | none => rfl
  | some join' =>
    have h₁ := text_mem_symbols h
    have h₂ := text_mem_symbols ho
    have hdisjoint : ∀ s ∈ tier.symbols, s ∉ other.symbols := by
      cases tier <;> cases other <;> first | exact absurd rfl hne | decide
    exact absurd h₂ (hdisjoint _ h₁)

/-- Behind a phrase of the tier no further operand is joined to it or to one inside of it. -/
def Ends (tier : Tier) (tail : List Token) : Prop :=
  ∀ t ∈ tail.head?, ∀ other : Tier, other.rank ≤ tier.rank → other.joint t = none

theorem Ends.below {tier : Tier} {tail : List Token} (h : tier.Ends tail) : tier.below.Ends tail := by
  intro t ht other hle
  refine h t ht other (Nat.le_trans hle ?_)
  cases tier <;> decide

/-- Only operators join. -/
theorem ends_of_kind {tier : Tier} {t : Token} {tail : List Token} (hk : t.kind ≠ .operator) :
    tier.Ends (t :: tail) := by
  intro t' ht' other _
  cases ht'
  cases hj : other.joint t with
  | none => rfl
  | some join => exact absurd (joint_cases hj).1 hk

end Tier

/-! ### What the parser takes is a phrase -/

/-- What a parser takes from the front of a token list is related to its result. -/
def Takes {α : Type} (p : Parser α) (R : List Token → α → Prop) : Prop :=
  ∀ ⦃tokens rest : List Token⦄ ⦃a : α⦄, p tokens = .ok (a, rest) → ∃ used, tokens = used ++ rest ∧ R used a

theorem takes_tooDeep {α : Type} {R : List Token → α → Prop} : Takes (tooDeep (α := α)) R := by
  intro tokens rest a h
  cases h

section

variable {tier : Tier} {levels : Nat} {operand : Parser Expr}

private theorem chainFrom_takes (hoperand : Takes operand (Derives tier.below levels)) {left : Expr}
    {front tokens rest : List Token} {e : Expr} (hleft : Derives tier levels front left)
    (h : chainFrom tier.joint operand left tokens = .ok (e, rest)) :
    ∃ used, tokens = used ++ rest ∧ Derives tier levels (front ++ used) e := by
  fun_induction chainFrom tier.joint operand left tokens generalizing front with
  | case1 left =>
    cases h
    exact ⟨[], rfl, by simpa using hleft⟩
  | case2 left token tokens hj =>
    cases h
    exact ⟨[], rfl, by simpa using hleft⟩
  | case3 => cases h
  | case4 left op tokens join hj r after hop hle ih =>
    obtain ⟨right, rfl, hr⟩ := hoperand hop
    obtain ⟨used, rfl, he⟩ := ih (.joined hleft hj hr) h
    exact ⟨op :: (right ++ used), by simp, by simpa using he⟩
  | case5 left op tokens join hj r after hop hle =>
    obtain ⟨right, rfl, -⟩ := hoperand hop
    simp at hle

private theorem chain_takes (tier : Tier) (ht : tier ≠ .atom)
    (hoperand : Takes operand (Derives tier.below levels)) :
    Takes (chain tier.joint operand) (Derives tier levels) := by
  intro tokens rest e h
  unfold chain at h
  split at h
  · cases h
  · next left after hop =>
    obtain ⟨front, rfl, hleft⟩ := hoperand hop
    obtain ⟨used, rfl, he⟩ := chainFrom_takes hoperand (.single ht hleft) h
    exact ⟨front ++ used, by simp, he⟩

private theorem parser_takes (hatom : Takes (atom levels) (Derives .atom levels)) (tier : Tier) :
    Takes (tier.parser levels) (Derives tier levels) := by
  have hproduct : Takes (Tier.product.parser levels) (Derives .product levels) :=
    chain_takes .product (by decide) hatom
  have hsum : Takes (Tier.sum.parser levels) (Derives .sum levels) :=
    chain_takes .sum (by decide) hproduct
  cases tier with
  | atom => exact hatom
  | product => exact hproduct
  | sum => exact hsum
  | comparison => exact chain_takes .comparison (by decide) hsum

end

/-- What stands in the parentheses of a call and gives its arguments. -/
inductive IsArguments (R : List Token → Expr → Prop) : List Token → List Expr → Prop where
  | none : IsArguments R [] []
  | some {first : List Token} {e : Expr} {rest : List Argument} (hf : R first e)
      (hcomma : ∀ a ∈ rest, a.comma.kind = .comma) (hr : ∀ a ∈ rest, R a.tokens a.tree) :
      IsArguments R (first ++ rest.flatMap Argument.written) (e :: rest.map Argument.tree)

section

variable {expression : Parser Expr} {R : List Token → Expr → Prop}

private theorem missing_ne_ok {α : Type} {expectation : Expectation} {tokens : List Token} {a : α} :
    missing expectation tokens ≠ .ok a := by
  unfold missing
  split <;> simp

private theorem expect_eq_ok {kind : TokenKind} {expectation : Expectation} {tokens rest : List Token}
    (h : expect kind expectation tokens = .ok rest) : ∃ token, tokens = token :: rest ∧ token.kind = kind := by
  unfold expect at h
  split at h
  · next token tail =>
    split at h
    · next hk => cases h; exact ⟨token, rfl, hk⟩
    · exact absurd h missing_ne_ok
  · exact absurd h missing_ne_ok

private theorem argument_takes (hexpr : Takes expression R) : Takes (argument expression) R := by
  intro tokens rest e h
  unfold argument at h
  split at h
  · split at h
    · cases h
    · exact hexpr h
  · exact hexpr h

private theorem argumentsFrom_takes (hexpr : Takes expression R) {args args' : List Expr}
    {tokens rest : List Token} (h : argumentsFrom expression args tokens = .ok (args', rest)) :
    ∃ (more : List Argument) (closing : Token), tokens = more.flatMap Argument.written ++ closing :: rest ∧
      closing.kind = .closeParen ∧ (∀ a ∈ more, a.comma.kind = .comma) ∧ (∀ a ∈ more, R a.tokens a.tree) ∧
      args' = args ++ more.map Argument.tree := by
  fun_induction argumentsFrom expression args tokens with
  | case1 => cases h
  | case2 => cases h
  | case3 args comma tokens hk arg after harg hle ih =>
    obtain ⟨used, rfl, he⟩ := argument_takes hexpr harg
    obtain ⟨more, closing, rfl, hc, hcomma, hr, rfl⟩ := ih h
    refine ⟨⟨comma, used, arg⟩ :: more, closing, by simp [Argument.written], hc, ?_, ?_, by simp⟩
    · simpa [hk] using hcomma
    · simpa [he] using hr
  | case4 => exact absurd h missing_ne_ok
  | case5 args closing rest' hk hc =>
    cases h
    exact ⟨[], closing, rfl, hc, by simp, by simp, by simp⟩
  | case6 => exact absurd h missing_ne_ok

theorem arguments_takes (hexpr : Takes expression R) {name : String} {args : List Expr}
    {tokens rest : List Token} (h : arguments name expression tokens = .ok (args, rest)) :
    ∃ (opening closing : Token) (inner : List Token), tokens = opening :: (inner ++ closing :: rest) ∧
      opening.kind = .openParen ∧ closing.kind = .closeParen ∧ IsArguments R inner args := by
  unfold arguments at h
  split at h
  · cases h
  · next tokens' hopen =>
    obtain ⟨opening, rfl, ho⟩ := expect_eq_ok hopen
    split at h
    · cases h
    · next closing after =>
      split at h
      · next hc => cases h; exact ⟨opening, closing, [], rfl, ho, hc, .none⟩
      · split at h
        · cases h
        · next arg after' harg =>
          obtain ⟨first, hfirst, hf⟩ := argument_takes hexpr harg
          obtain ⟨more, closing, rfl, hc, hcomma, hr, rfl⟩ := argumentsFrom_takes hexpr h
          exact ⟨opening, closing, first ++ more.flatMap Argument.written, by simp [hfirst], ho, hc,
            .some hf hcomma hr⟩

end

/-- The parser of what stands one level deeper. -/
def deeper (tier : Tier) : Nat → Parser Expr
  | 0 => tooDeep
  | levels + 1 => tier.parser levels

/-- A phrase that stands one level deeper. -/
def DerivesDeeper (tier : Tier) (levels : Nat) (tokens : List Token) (e : Expr) : Prop :=
  ∃ m, levels = m + 1 ∧ Derives tier m tokens e

theorem atom_cons (levels : Nat) (token : Token) (rest : List Token) :
    atom levels (token :: rest) =
      match token.kind with
      | .field => .ok (.field token.text, rest)
      | .text => .ok (.literal (.text token.text), rest)
      | .number =>
        match Binary64.read? token.text.toList with
        | some x => .ok (.literal (.number x), rest)
        | none => .error (.malformed token.position (.badNumber token.text))
      | .boolean => .ok (.literal (.boolean (token.text = "TRUE")), rest)
      | .function => do
        let (args, rest) ← arguments token.text (deeper .comparison levels) rest
        return (.call token.text args, rest)
      | .openParen => do
        let (value, rest) ← deeper .comparison levels rest
        let rest ← expect .closeParen .closeParen rest
        return (value, rest)
      | .operator =>
        if token.text = "-" then do
          let (operand, rest) ← deeper .atom levels rest
          return (.arithmetic .subtract (.literal (.number (.zero false))) operand, rest)
        else missing .value (token :: rest)
      | _ => missing .value (token :: rest) := by
  cases levels <;> rfl

/-- The arguments of a call, each of them one level deeper. -/
private theorem derives_call {levels : Nat} {name opening closing : Token} {inner : List Token}
    {args : List Expr} (hn : name.kind = .function) (ho : opening.kind = .openParen)
    (hc : closing.kind = .closeParen) (h : IsArguments (DerivesDeeper .comparison levels) inner args) :
    Derives .atom levels (name :: opening :: (inner ++ [closing])) (.call name.text args) := by
  cases h with
  | none => exact .emptyCall hn ho hc
  | some hf hcomma hr =>
    obtain ⟨m, rfl, hf⟩ := hf
    refine .call hn ho hc hf hcomma fun a ha => ?_
    obtain ⟨m', hm, ha⟩ := hr a ha
    cases hm
    exact ha

private theorem atom_takes_of {levels : Nat}
    (hdeeper : ∀ tier, Takes (deeper tier levels) (DerivesDeeper tier levels)) :
    Takes (atom levels) (Derives .atom levels) := by
  intro tokens rest e h
  cases tokens with
  | nil =>
    rw [atom.eq_def] at h
    exact absurd h missing_ne_ok
  | cons token tail =>
    rw [atom_cons] at h
    split at h
    · next hk => cases h; exact ⟨[token], rfl, .field hk⟩
    · next hk => cases h; exact ⟨[token], rfl, .text hk⟩
    · next hk =>
      split at h
      · next x hx => cases h; exact ⟨[token], rfl, .number hk hx⟩
      · cases h
    · next hk => cases h; exact ⟨[token], rfl, .boolean hk⟩
    · next hk =>
      obtain ⟨⟨args, after⟩, hargs, hresult⟩ := exists_of_bind_eq_ok h
      obtain ⟨opening, closing, inner, rfl, ho, hc, hin⟩ := arguments_takes (hdeeper .comparison) hargs
      cases hresult
      exact ⟨token :: opening :: (inner ++ [closing]), by simp, derives_call hk ho hc hin⟩
    · next hk =>
      obtain ⟨⟨value, after⟩, hvalue, hend⟩ := exists_of_bind_eq_ok h
      obtain ⟨rest', hclose, hresult⟩ := exists_of_bind_eq_ok hend
      cases hresult
      obtain ⟨closing, rfl, hc⟩ := expect_eq_ok hclose
      obtain ⟨inner, rfl, m, rfl, hin⟩ := hdeeper .comparison hvalue
      exact ⟨token :: (inner ++ [closing]), by simp, .parens hk hc hin⟩
    · next hk =>
      split at h
      · next ht =>
        obtain ⟨⟨operand, after⟩, hoperand, hresult⟩ := exists_of_bind_eq_ok h
        obtain ⟨used, rfl, m, rfl, hin⟩ := hdeeper .atom hoperand
        cases hresult
        exact ⟨token :: used, by simp, .minus hk ht hin⟩
      · exact absurd h missing_ne_ok
    · exact absurd h missing_ne_ok

/-- What the parser of a tier takes is a phrase of that tier. -/
theorem parser_sound (tier : Tier) (levels : Nat) : Takes (tier.parser levels) (Derives tier levels) := by
  induction levels generalizing tier with
  | zero =>
    have hatom : Takes (atom 0) (Derives .atom 0) := atom_takes_of fun _ => takes_tooDeep
    exact parser_takes hatom tier
  | succ levels ih =>
    refine parser_takes (atom_takes_of fun tier tokens rest e h => ?_) tier
    obtain ⟨used, rfl, he⟩ := ih tier h
    exact ⟨used, rfl, levels, rfl, he⟩

/-! ### Every phrase is taken -/

private theorem chainFrom_of_ends {tier : Tier} {operand : Parser Expr} {e : Expr} {tail : List Token}
    (h : tier.Ends tail) : chainFrom tier.joint operand e tail = .ok (e, tail) := by
  unfold chainFrom
  cases tail with
  | nil => rfl
  | cons t tail =>
    have hj := h t rfl tier (Nat.le_refl _)
    simp only [hj]

private theorem expect_cons {kind : TokenKind} {expectation : Expectation} {token : Token} {rest : List Token}
    (h : token.kind = kind) : expect kind expectation (token :: rest) = .ok rest := by
  simp [expect, h]

private theorem argument_of_derives {expression : Parser Expr} {tier : Tier} {levels : Nat}
    {tokens tail : List Token} {e : Expr} (h : Derives tier levels tokens e) :
    argument expression (tokens ++ tail) = expression (tokens ++ tail) := by
  obtain ⟨token, rest, rfl, hcomma, hclose⟩ := h.exists_cons
  simp [argument, hcomma, hclose]

/-- The parser takes the tokens as an argument, whatever comes behind the comma or parenthesis that ends it. -/
private def TakesArgument (expression : Parser Expr) (tokens : List Token) (e : Expr) : Prop :=
  ∀ t rest, t.kind = .comma ∨ t.kind = .closeParen → argument expression (tokens ++ t :: rest) = .ok (e, t :: rest)

/-- What follows an argument is a comma or the closing parenthesis. -/
private theorem exists_argumentEnd {closing : Token} (hc : closing.kind = .closeParen) (tail : List Token)
    {more : List Argument} (hcomma : ∀ a ∈ more, a.comma.kind = .comma) :
    ∃ t rest, more.flatMap Argument.written ++ closing :: tail = t :: rest ∧
      (t.kind = .comma ∨ t.kind = .closeParen) := by
  cases more with
  | nil => exact ⟨closing, tail, rfl, .inr hc⟩
  | cons b more => exact ⟨b.comma, _, rfl, .inl (hcomma b List.mem_cons_self)⟩

private theorem argumentsFrom_complete {expression : Parser Expr} {closing : Token}
    (hc : closing.kind = .closeParen) {more : List Argument} (hcomma : ∀ a ∈ more, a.comma.kind = .comma)
    (hexpr : ∀ a ∈ more, TakesArgument expression a.tokens a.tree) (args : List Expr) (tail : List Token) :
    argumentsFrom expression args (more.flatMap Argument.written ++ closing :: tail) =
      .ok (args ++ more.map Argument.tree, tail) := by
  induction more generalizing args with
  | nil =>
    rw [List.flatMap_nil, List.nil_append, argumentsFrom]
    simp [hc]
  | cons a more ih =>
    simp only [List.mem_cons, forall_eq_or_imp] at hcomma hexpr
    obtain ⟨t, rest, hrest, ht⟩ := exists_argumentEnd hc tail hcomma.2
    have harg : argument expression (a.tokens ++ (more.flatMap Argument.written ++ closing :: tail)) =
        .ok (a.tree, more.flatMap Argument.written ++ closing :: tail) := by
      rw [hrest]
      exact hexpr.1 t rest ht
    rw [List.flatMap_cons, Argument.written, List.cons_append, List.cons_append, argumentsFrom]
    simp only [hcomma.1, ↓reduceIte, List.append_assoc, harg]
    rw [if_pos (by simp only [List.length_append]; omega), ih hcomma.2 hexpr.2]
    simp

private theorem arguments_complete {expression : Parser Expr} {opening closing : Token}
    (ho : opening.kind = .openParen) (hc : closing.kind = .closeParen) {first : List Token} {e : Expr}
    {more : List Argument} (hfirst : ∃ token rest, first = token :: rest ∧ token.kind ≠ .closeParen)
    (hf : TakesArgument expression first e) (hcomma : ∀ a ∈ more, a.comma.kind = .comma)
    (hexpr : ∀ a ∈ more, TakesArgument expression a.tokens a.tree) (name : String) (tail : List Token) :
    arguments name expression (opening :: (first ++ (more.flatMap Argument.written ++ closing :: tail))) =
      .ok (e :: more.map Argument.tree, tail) := by
  obtain ⟨t, rest, hrest, ht⟩ := exists_argumentEnd hc tail hcomma
  have harg : argument expression (first ++ (more.flatMap Argument.written ++ closing :: tail)) =
      .ok (e, more.flatMap Argument.written ++ closing :: tail) := by
    rw [hrest]
    exact hf t rest ht
  have hmore := argumentsFrom_complete hc hcomma hexpr [e] tail
  obtain ⟨token, front, rfl, hk⟩ := hfirst
  unfold arguments
  rw [expect_cons ho]
  simp only [List.cons_append] at harg ⊢
  simp only [hk, ↓reduceIte, harg, hmore, List.singleton_append]

private theorem chainFrom_atom {operand : Parser Expr} {e : Expr} {tail : List Token} :
    chainFrom Tier.atom.joint operand e tail = .ok (e, tail) := by
  cases tail <;> simp [chainFrom, Tier.joint]

/-- A phrase that the parser takes and goes on with what follows is an argument one level deeper. -/
private theorem takesArgument_of_derives {levels : Nat} {tokens : List Token} {e : Expr}
    (hd : Derives .comparison levels tokens e)
    (htakes : ∀ {tail}, Tier.sum.Ends tail → Tier.comparison.parser levels (tokens ++ tail) =
      chainFrom Tier.comparison.joint (Tier.sum.parser levels) e tail) :
    TakesArgument (deeper .comparison (levels + 1)) tokens e := by
  intro t rest ht
  have hk : t.kind ≠ .operator := by rcases ht with ht | ht <;> simp [ht]
  rw [argument_of_derives hd, deeper, htakes (Tier.ends_of_kind hk), chainFrom_of_ends (Tier.ends_of_kind hk)]

/-- The parser of a tier takes a phrase of that tier and goes on with what follows. -/
theorem parser_of_derives {tier : Tier} {levels : Nat} {tokens : List Token} {e : Expr}
    (h : Derives tier levels tokens e) {tail : List Token} (htail : tier.below.Ends tail) :
    tier.parser levels (tokens ++ tail) = chainFrom tier.joint (tier.below.parser levels) e tail := by
  induction h generalizing tail with
  | field hk => simp [Tier.parser, atom_cons, hk, chainFrom_atom]
  | text hk => simp [Tier.parser, atom_cons, hk, chainFrom_atom]
  | number hk hx => simp [Tier.parser, atom_cons, hk, hx, chainFrom_atom]
  | boolean hk => simp [Tier.parser, atom_cons, hk, chainFrom_atom]
  | emptyCall hn ho hc =>
    simp only [List.cons_append, List.nil_append, Tier.parser, atom_cons, hn, chainFrom_atom, arguments, expect_cons ho,
      hc, ↓reduceIte]
    rfl
  | @call levels name opening closing first e rest hn ho hc hf hcomma hr ihf ihr =>
    obtain ⟨token, front, hfirst, -, hclose⟩ := hf.exists_cons
    have hargs := arguments_complete ho hc ⟨token, front, hfirst, hclose⟩ (takesArgument_of_derives hf ihf) hcomma
      (fun a ha => takesArgument_of_derives (hr a ha) (ihr a ha)) name.text tail
    have htokens : name :: opening :: (first ++ rest.flatMap Argument.written ++ [closing]) ++ tail =
        name :: opening :: (first ++ (rest.flatMap Argument.written ++ closing :: tail)) := by simp
    rw [htokens, Tier.parser, atom_cons, chainFrom_atom]
    simp only [hn, hargs]
    rfl
  | @parens levels opening closing inner e ho hc _ ih =>
    have hends : ∀ {tier : Tier}, tier.Ends (closing :: tail) := Tier.ends_of_kind (by simp [hc])
    have hinner : deeper .comparison (levels + 1) (inner ++ closing :: tail) = .ok (e, closing :: tail) := by
      rw [deeper, ih hends, chainFrom_of_ends hends]
    have htokens : opening :: (inner ++ [closing]) ++ tail = opening :: (inner ++ closing :: tail) := by simp
    rw [htokens, Tier.parser, atom_cons, chainFrom_atom]
    simp only [ho, hinner]
    change (expect .closeParen .closeParen (closing :: tail) >>= _) = _
    rw [expect_cons hc]
    rfl
  | @minus levels token operand e hk ht _ ih =>
    have hoperand : deeper .atom (levels + 1) (operand ++ tail) = .ok (e, tail) := by
      rw [deeper, ih htail, chainFrom_atom]
    rw [List.cons_append, Tier.parser, atom_cons, chainFrom_atom]
    simp only [hk, ht, ↓reduceIte, hoperand]
    rfl
  | @single tier levels operand e ht _ ih =>
    rw [Tier.parser_eq_chain ht, chain, ih htail.below, chainFrom_of_ends htail]
  | @joined tier levels left right op l r join _ hj _ ihl ihr =>
    have ht : tier ≠ .atom := by rintro rfl; cases hj
    have hop : tier.below.Ends (op :: (right ++ tail)) := by
      intro t ht' other hle
      cases ht'
      refine Tier.joint_eq_none hj ?_
      rintro rfl
      exact absurd hle (Nat.not_le_of_lt (Tier.rank_below_lt ht))
    rw [List.append_assoc, List.cons_append, ihl hop, chainFrom]
    simp only [hj, ihr htail.below, chainFrom_of_ends htail]
    rw [if_pos (by simp)]

/-- A phrase in front of something that does not continue it is taken. -/
theorem parser_complete {tier : Tier} {levels : Nat} {tokens : List Token} {e : Expr}
    (h : Derives tier levels tokens e) {tail : List Token} (htail : tier.Ends tail) :
    tier.parser levels (tokens ++ tail) = .ok (e, tail) := by
  rw [parser_of_derives h htail.below, chainFrom_of_ends htail]

/-- A token list has one tree at most. -/
theorem Derives.unique {tier : Tier} {levels levels' : Nat} {tokens : List Token} {e e' : Expr}
    (h : Derives tier levels tokens e) (h' : Derives tier levels' tokens e') : e = e' := by
  have hends : tier.Ends [] := by simp [Tier.Ends]
  have h₁ := parser_complete (h.mono (Nat.le_max_left levels levels')) hends
  have h₂ := parser_complete (h'.mono (Nat.le_max_right levels levels')) hends
  rw [h₁] at h₂
  cases h₂
  rfl

/-! ### Whole formulas -/

/-- The tokens of a list in front of the first end of a formula. -/
def formulaBody (tokens : List Token) : List Token := tokens.takeWhile (·.kind ≠ .eof)

theorem kind_of_mem_formulaBody {tokens : List Token} : ∀ t ∈ formulaBody tokens, t.kind ≠ .eof := by
  intro t ht
  simpa using List.mem_takeWhile_imp ht

theorem formulaBody_append_eof {body : List Token} (h : ∀ t ∈ body, t.kind ≠ .eof) (position : Nat) :
    formulaBody (body ++ [.eof position]) = body := by
  rw [formulaBody, List.takeWhile_append_of_pos (by simpa using h)]
  simp [Token.eof]

/-- Behind the body stands one token, which ends the formula. -/
theorem terminated_eq (tokens : List Token) :
    ∃ last, terminated tokens = formulaBody tokens ++ [last] ∧ last.kind = .eof := by
  have hdrop : tokens.drop (formulaBody tokens).length = tokens.dropWhile (·.kind ≠ .eof) := by
    have hsplit : formulaBody tokens ++ tokens.dropWhile (·.kind ≠ .eof) = tokens :=
      List.takeWhile_append_dropWhile
    calc tokens.drop (formulaBody tokens).length
        = (formulaBody tokens ++ tokens.dropWhile (·.kind ≠ .eof)).drop (formulaBody tokens).length := by
          rw [hsplit]
      _ = tokens.dropWhile (·.kind ≠ .eof) := List.drop_left
  unfold terminated
  rw [← formulaBody]
  simp only [hdrop]
  split
  · next last rest hrest =>
    have hlast := List.head?_dropWhile_not (fun t : Token => decide (t.kind ≠ .eof)) tokens
    rw [hrest] at hlast
    exact ⟨last, rfl, by simpa using hlast⟩
  · exact ⟨_, rfl, rfl⟩

private theorem append_eof_inj {body used rest : List Token} {last token : Token}
    (hbody : ∀ t ∈ body, t.kind ≠ .eof) (hused : ∀ t ∈ used, t.kind ≠ .eof) (hlast : last.kind = .eof)
    (htoken : token.kind = .eof) (h : body ++ [last] = used ++ token :: rest) : body = used := by
  have hfront : ∀ {front tail : List Token} {t : Token}, (∀ t ∈ front, t.kind ≠ .eof) → t.kind = .eof →
      (front ++ t :: tail).takeWhile (·.kind ≠ .eof) = front := by
    intro front tail t hfront ht
    rw [List.takeWhile_append_of_pos (by simpa using hfront)]
    simp [ht]
  rw [← hfront hbody hlast, h, hfront hused htoken]

/-- A token list parses exactly if it is a phrase of the grammar up to its end. -/
theorem parseTokens_eq_ok_iff {tokens : List Token} {e : Expr} :
    parseTokens tokens = .ok e ↔ Derives .comparison (maxLevels - 1) (formulaBody tokens) e := by
  obtain ⟨last, hterm, hlast⟩ := terminated_eq tokens
  have hbody := @kind_of_mem_formulaBody tokens
  generalize formulaBody tokens = body at hterm hbody ⊢
  have hparser : Parser.expression maxLevels = Tier.comparison.parser (maxLevels - 1) := rfl
  unfold parseTokens
  rw [hterm]
  constructor
  · intro h
    split at h
    · cases h
    · split at h
      · cases h
      · cases h
      · next value token rest hvalue =>
        split at h
        · next hk =>
          cases h
          rw [hparser] at hvalue
          obtain ⟨used, hused, hd⟩ := parser_sound .comparison _ hvalue
          rwa [append_eof_inj hbody hd.kind_ne_eof hlast hk hused]
        · cases h
  · intro h
    have hends : Tier.comparison.Ends [last] := Tier.ends_of_kind (by simp [hlast])
    have hparse := parser_complete h hends
    obtain ⟨token, rest, rfl, -⟩ := h.exists_cons
    rw [hparser]
    split
    · next heq => simp at heq
    · rw [hparse]
      simp [hlast]

/-- A formula parses exactly if its tokens are a phrase and the end of the formula. -/
theorem parseFormula_eq_ok_iff {formula : String} {e : Expr} :
    parseFormula formula = .ok e ↔
      ∃ body last, tokenize formula = .ok (body ++ [.eof last]) ∧ Derives .comparison (maxLevels - 1) body e := by
  rw [parseFormula]
  constructor
  · intro h
    cases htokens : tokenize formula with
    | error err =>
      rw [htokens] at h
      cases h
    | ok tokens =>
      rw [htokens] at h
      obtain ⟨body, last, rfl, hbody⟩ := tokenizeFrom_eq_ok htokens
      have hphrase := parseTokens_eq_ok_iff.mp h
      rw [formulaBody_append_eof fun token htoken => (hbody token htoken).1] at hphrase
      exact ⟨body, last, rfl, hphrase⟩
  · rintro ⟨body, last, htokens, hd⟩
    have hbody := formulaBody_append_eof hd.kind_ne_eof last
    rw [htokens]
    exact parseTokens_eq_ok_iff.mpr (hbody.symm ▸ hd)

end FormRules.Formula

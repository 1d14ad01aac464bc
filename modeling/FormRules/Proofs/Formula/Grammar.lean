import FormRules.Formula.Parser

/-!
# The grammar of formulas

`Derives tier levels tokens e` says that a token list is a phrase with the tree `e`. Phrases come in four tiers:
atoms, products of atoms, sums of products and comparisons of sums; all chains are grouped from the left. A
parenthesis, an argument and a minus before an atom open a level, and `levels` bounds how many are open at any
point of the phrase.

* The tokens that join operands are the operators of a table (`Tier.joint_eq_some_iff`).
* A phrase may stand where more levels are left (`Derives.mono`), and at any positions (`Derives.congr`).
* The fields of the tree are those of the tokens (`Derives.fields_eq`).
-/

namespace FormRules.Formula

/-- The tiers of phrases, the tightest first. -/
inductive Tier where
  | atom
  | product
  | sum
  | comparison
  deriving DecidableEq

namespace Tier

/-- The operation that a token joins two operands of a phrase by. -/
def joint : Tier → Parser.Joint
  | atom => fun _ => none
  | product => Parser.productJoint
  | sum => Parser.sumJoint
  | comparison => Parser.comparisonJoint

/-- The tier of the operands. -/
def below : Tier → Tier
  | atom => atom
  | product => atom
  | sum => product
  | comparison => sum

/-- The operators of a tier, each with the operation that it stands for. -/
def operators : Tier → List (String × (Expr → Expr → Expr))
  | atom => []
  | product => [("*", .arithmetic .multiply), ("/", .arithmetic .divide)]
  | sum => [("+", .arithmetic .add), ("-", .arithmetic .subtract)]
  | comparison =>
    [("=", .comparison .equal), ("<>", .comparison .notEqual), ("<", .comparison .less),
     ("<=", .comparison .lessEqual), (">", .comparison .greater), (">=", .comparison .greaterEqual)]

end Tier

/-- An argument of a call behind the first one, with the comma before it. -/
structure Argument where
  comma : Token
  tokens : List Token
  tree : Expr

/-- All tokens of an argument. -/
def Argument.written (a : Argument) : List Token := a.comma :: a.tokens

/-- The tokens are a phrase with the given tree, inside which no more than `levels` levels open. -/
inductive Derives : Tier → Nat → List Token → Expr → Prop where
  | field {levels : Nat} {token : Token} (hk : token.kind = .field) :
      Derives .atom levels [token] (.field token.text)
  | text {levels : Nat} {token : Token} (hk : token.kind = .text) :
      Derives .atom levels [token] (.literal (.text token.text))
  | number {levels : Nat} {token : Token} {x : Binary64} (hk : token.kind = .number)
      (hx : Binary64.read? token.text.toList = some x) :
      Derives .atom levels [token] (.literal (.number x))
  | boolean {levels : Nat} {token : Token} (hk : token.kind = .boolean) :
      Derives .atom levels [token] (.literal (.boolean (token.text = "TRUE")))
  | emptyCall {levels : Nat} {name opening closing : Token} (hn : name.kind = .function)
      (ho : opening.kind = .openParen) (hc : closing.kind = .closeParen) :
      Derives .atom levels [name, opening, closing] (.call name.text [])
  | call {levels : Nat} {name opening closing : Token} {first : List Token} {e : Expr} {rest : List Argument}
      (hn : name.kind = .function) (ho : opening.kind = .openParen) (hc : closing.kind = .closeParen)
      (hf : Derives .comparison levels first e) (hcomma : ∀ a ∈ rest, a.comma.kind = .comma)
      (hr : ∀ a ∈ rest, Derives .comparison levels a.tokens a.tree) :
      Derives .atom (levels + 1) (name :: opening :: (first ++ rest.flatMap Argument.written ++ [closing]))
        (.call name.text (e :: rest.map Argument.tree))
  | parens {levels : Nat} {opening closing : Token} {inner : List Token} {e : Expr}
      (ho : opening.kind = .openParen) (hc : closing.kind = .closeParen)
      (h : Derives .comparison levels inner e) :
      Derives .atom (levels + 1) (opening :: (inner ++ [closing])) e
  | minus {levels : Nat} {token : Token} {operand : List Token} {e : Expr} (hk : token.kind = .operator)
      (ht : token.text = "-") (h : Derives .atom levels operand e) :
      Derives .atom (levels + 1) (token :: operand)
        (.arithmetic .subtract (.literal (.number (.zero false))) e)
  | single {tier : Tier} {levels : Nat} {operand : List Token} {e : Expr} (ht : tier ≠ .atom)
      (h : Derives tier.below levels operand e) : Derives tier levels operand e
  | joined {tier : Tier} {levels : Nat} {left right : List Token} {op : Token} {l r : Expr}
      {join : Expr → Expr → Expr} (hl : Derives tier levels left l) (hj : tier.joint op = some join)
      (hr : Derives tier.below levels right r) : Derives tier levels (left ++ op :: right) (join l r)

private theorem arithmetic_symbol {s : String} {op : ArithmeticOp} (h : ArithmeticOp.ofSymbol? s = some op) :
    s = op.symbol := by
  unfold ArithmeticOp.ofSymbol? at h
  split at h <;> cases h <;> rfl

private theorem comparison_symbol {s : String} {op : ComparisonOp} (h : ComparisonOp.ofSymbol? s = some op) :
    s = op.symbol := by
  unfold ComparisonOp.ofSymbol? at h
  split at h <;> cases h <;> rfl

/-- The tokens that join the operands of a tier are its operators. -/
theorem Tier.joint_eq_some_iff {tier : Tier} {op : Token} {join : Expr → Expr → Expr} :
    tier.joint op = some join ↔ op.kind = .operator ∧ (op.text, join) ∈ tier.operators := by
  by_cases hk : op.kind = .operator
  · simp only [hk, true_and]
    cases tier with
    | atom => simp [joint, operators]
    | product | sum =>
      simp only [joint, Parser.productJoint, Parser.sumJoint, hk, ↓reduceIte, operators, List.mem_cons,
        Prod.mk.injEq, List.not_mem_nil, or_false]
      constructor
      · intro h
        split at h
        · next ho => cases h; simp [arithmetic_symbol ho, ArithmeticOp.symbol]
        · next ho => cases h; simp [arithmetic_symbol ho, ArithmeticOp.symbol]
        · cases h
      · rintro (⟨ht, rfl⟩ | ⟨ht, rfl⟩) <;> rw [ht] <;> rfl
    | comparison =>
      simp only [joint, Parser.comparisonJoint, hk, ↓reduceIte, operators, List.mem_cons, Prod.mk.injEq,
        List.not_mem_nil, or_false]
      constructor
      · intro h
        obtain ⟨o, ho, rfl⟩ := Option.map_eq_some_iff.mp h
        cases o <;> simp [comparison_symbol ho, ComparisonOp.symbol]
      · rintro (⟨ht, rfl⟩ | ⟨ht, rfl⟩ | ⟨ht, rfl⟩ | ⟨ht, rfl⟩ | ⟨ht, rfl⟩ | ⟨ht, rfl⟩) <;> rw [ht] <;> rfl
  · cases tier <;> simp [joint, Parser.productJoint, Parser.sumJoint, Parser.comparisonJoint, hk]

/-- A joining token is an operator, and joins by an operation on two expressions. -/
theorem Tier.joint_cases {tier : Tier} {op : Token} {join : Expr → Expr → Expr} (h : tier.joint op = some join) :
    op.kind = .operator ∧ ((∃ o, join = .arithmetic o) ∨ ∃ o, join = .comparison o) := by
  obtain ⟨hk, hmem⟩ := Tier.joint_eq_some_iff.mp h
  refine ⟨hk, ?_⟩
  cases tier with
  | atom => cases hmem
  | product | sum =>
    simp only [operators, List.mem_cons, Prod.mk.injEq, List.not_mem_nil, or_false] at hmem
    rcases hmem with ⟨-, rfl⟩ | ⟨-, rfl⟩ <;> exact .inl ⟨_, rfl⟩
  | comparison =>
    simp only [operators, List.mem_cons, Prod.mk.injEq, List.not_mem_nil, or_false] at hmem
    rcases hmem with ⟨-, rfl⟩ | ⟨-, rfl⟩ | ⟨-, rfl⟩ | ⟨-, rfl⟩ | ⟨-, rfl⟩ | ⟨-, rfl⟩ <;> exact .inr ⟨_, rfl⟩

namespace Derives

variable {tier : Tier} {levels : Nat} {tokens : List Token} {e : Expr}

/-- A phrase may stand where more levels are left. -/
theorem mono {more : Nat} (h : Derives tier levels tokens e) (hle : levels ≤ more) :
    Derives tier more tokens e := by
  induction h generalizing more with
  | field hk => exact .field hk
  | text hk => exact .text hk
  | number hk hx => exact .number hk hx
  | boolean hk => exact .boolean hk
  | emptyCall hn ho hc => exact .emptyCall hn ho hc
  | call hn ho hc _ hcomma _ ihf ihr =>
    cases more with
    | zero => omega
    | succ more =>
      have hle := Nat.le_of_succ_le_succ hle
      exact .call hn ho hc (ihf hle) hcomma fun a ha => ihr a ha hle
  | parens ho hc _ ih =>
    cases more with
    | zero => omega
    | succ more => exact .parens ho hc (ih (Nat.le_of_succ_le_succ hle))
  | minus hk ht _ ih =>
    cases more with
    | zero => omega
    | succ more => exact .minus hk ht (ih (Nat.le_of_succ_le_succ hle))
  | single ht _ ih => exact .single ht (ih hle)
  | joined _ hj _ ihl ihr => exact .joined (ihl hle) hj (ihr hle)

/-- A phrase of a tier is one of every looser tier. -/
theorem toComparison (h : Derives tier levels tokens e) : Derives .comparison levels tokens e := by
  cases tier with
  | atom => exact .single (by decide) (.single (by decide) (.single (by decide) h))
  | product => exact .single (by decide) (.single (by decide) h)
  | sum => exact .single (by decide) h
  | comparison => exact h

/-- No phrase starts with a comma or a closing parenthesis. -/
theorem exists_cons (h : Derives tier levels tokens e) :
    ∃ token rest, tokens = token :: rest ∧ token.kind ≠ .comma ∧ token.kind ≠ .closeParen := by
  induction h with
  | single _ _ ih => exact ih
  | @joined _ _ _ right op _ _ _ _ _ _ ihl =>
    obtain ⟨token, rest, rfl, hk⟩ := ihl
    exact ⟨token, rest ++ op :: right, rfl, hk⟩
  | _ => simp_all

theorem ne_nil (h : Derives tier levels tokens e) : tokens ≠ [] := by
  obtain ⟨token, rest, rfl, -⟩ := h.exists_cons
  exact List.cons_ne_nil token rest

/-- No phrase goes beyond the end of a formula. -/
theorem kind_ne_eof (h : Derives tier levels tokens e) : ∀ t ∈ tokens, t.kind ≠ .eof := by
  induction h with
  | field hk => simp [hk]
  | text hk => simp [hk]
  | number hk _ => simp [hk]
  | boolean hk => simp [hk]
  | emptyCall hn ho hc => simp [hn, ho, hc]
  | call hn ho hc _ hcomma _ ihf ihr =>
    intro t ht
    simp only [List.mem_cons, List.mem_append, List.mem_flatMap, Argument.written, List.not_mem_nil,
      or_false] at ht
    rcases ht with rfl | rfl | (ht | ⟨a, ha, rfl | ht⟩) | rfl
    · simp [hn]
    · simp [ho]
    · exact ihf t ht
    · simp [hcomma a ha]
    · exact ihr a ha t ht
    · simp [hc]
  | parens ho hc _ ih =>
    intro t ht
    simp only [List.mem_cons, List.mem_append, List.not_mem_nil, or_false] at ht
    rcases ht with rfl | ht | rfl
    · simp [ho]
    · exact ih t ht
    · simp [hc]
  | minus hk _ _ ih =>
    intro t ht
    rcases List.mem_cons.mp ht with rfl | ht
    · simp [hk]
    · exact ih t ht
  | single _ _ ih => exact ih
  | joined _ hj _ ihl ihr =>
    intro t ht
    simp only [List.mem_append, List.mem_cons] at ht
    rcases ht with ht | rfl | ht
    · exact ihl t ht
    · simp [(Tier.joint_cases hj).1]
    · exact ihr t ht

end Derives

/-- An operator of a chain with the operand behind it. -/
structure Link where
  op : Token
  join : Expr → Expr → Expr
  operand : List Token
  tree : Expr

/-- All tokens of a link. -/
def Link.written (l : Link) : List Token := l.op :: l.operand

/-- The tokens are an operand and any number of links with operators of the tier, and the tree joins the operands
from the left. -/
inductive IsChain (tier : Tier) (Operand : List Token → Expr → Prop) : List Token → Expr → Prop where
  | links {first : List Token} {e : Expr} {links : List Link} (hf : Operand first e)
      (hop : ∀ l ∈ links, l.op.kind = .operator ∧ (l.op.text, l.join) ∈ tier.operators)
      (hl : ∀ l ∈ links, Operand l.operand l.tree) :
      IsChain tier Operand (first ++ links.flatMap Link.written) (links.foldl (fun left l => l.join left l.tree) e)

theorem IsChain.single {tier : Tier} {Operand : List Token → Expr → Prop} {tokens : List Token} {e : Expr}
    (h : Operand tokens e) : IsChain tier Operand tokens e := by
  have hchain : IsChain tier Operand (tokens ++ List.flatMap Link.written []) e := .links h (by simp) (by simp)
  rwa [List.flatMap_nil, List.append_nil] at hchain

/-- A chain goes on with a further link. -/
theorem IsChain.snoc {tier : Tier} {Operand : List Token → Expr → Prop} {tokens : List Token} {e : Expr}
    (h : IsChain tier Operand tokens e) {l : Link} (hop : l.op.kind = .operator ∧ (l.op.text, l.join) ∈ tier.operators)
    (hl : Operand l.operand l.tree) : IsChain tier Operand (tokens ++ l.written) (l.join e l.tree) := by
  cases h with
  | @links first e links hf hops hls =>
    have hchain : IsChain tier Operand (first ++ (links ++ [l]).flatMap Link.written)
        ((links ++ [l]).foldl (fun left l => l.join left l.tree) e) :=
      .links hf (List.forall_mem_append.mpr ⟨hops, by simpa using hop⟩)
        (List.forall_mem_append.mpr ⟨hls, by simpa using hl⟩)
    simpa using hchain

namespace Derives

variable {tier : Tier} {levels : Nat} {tokens : List Token} {e : Expr}

private theorem isChain (h : Derives tier levels tokens e) :
    IsChain tier (Derives tier.below levels) tokens e := by
  by_cases ht : tier = .atom
  · subst ht
    exact .single h
  · induction h with
    | single _ h _ => exact .single h
    | @joined tier levels left right op l r join _ hj hr ihl _ =>
      exact (ihl ht).snoc (l := ⟨op, join, right, r⟩) (Tier.joint_eq_some_iff.mp hj) hr
    | _ => exact absurd rfl ht

private theorem of_isChain (h : IsChain tier (Derives tier.below levels) tokens e) :
    Derives tier levels tokens e := by
  cases h with
  | @links first e links hf hop hl =>
    have hfirst : Derives tier levels first e := by
      by_cases ht : tier = .atom
      · subst ht
        exact hf
      · exact .single ht hf
    clear hf
    induction links generalizing first e with
    | nil => simpa using hfirst
    | cons l links ih =>
      simp only [List.mem_cons, forall_eq_or_imp] at hop hl
      have hnext : Derives tier levels (first ++ l.written) (l.join e l.tree) :=
        .joined hfirst (Tier.joint_eq_some_iff.mpr hop.1) hl.1
      simpa using ih hop.2 hl.2 hnext

/-- A phrase of a tier is a chain of phrases of the tier below. -/
theorem iff_isChain : Derives tier levels tokens e ↔ IsChain tier (Derives tier.below levels) tokens e :=
  ⟨isChain, of_isChain⟩

end Derives

/-! ### Positions -/

/-- The kind and the text of a token. -/
def Token.content (t : Token) : TokenKind × String := (t.kind, t.text)

theorem Token.content_eq_iff {t t' : Token} : t'.content = t.content ↔ t'.kind = t.kind ∧ t'.text = t.text :=
  Prod.mk.injEq .. ▸ Iff.rfl

theorem exists_arguments_of_content {args : List Argument} {P : List Token → Expr → Prop}
    (hcomma : ∀ a ∈ args, a.comma.kind = .comma)
    (hP : ∀ a ∈ args, ∀ tokens, tokens.map Token.content = a.tokens.map Token.content → P tokens a.tree)
    {tokens : List Token} (h : tokens.map Token.content = (args.flatMap Argument.written).map Token.content) :
    ∃ args' : List Argument, tokens = args'.flatMap Argument.written ∧ (∀ a ∈ args', a.comma.kind = .comma) ∧
      (∀ a ∈ args', P a.tokens a.tree) ∧ args'.map Argument.tree = args.map Argument.tree := by
  induction args generalizing tokens with
  | nil => exact ⟨[], List.map_eq_nil_iff.mp h, nofun, nofun, rfl⟩
  | cons a args ih =>
    obtain ⟨hc, hcomma⟩ := List.forall_mem_cons.mp hcomma
    obtain ⟨ha, hP⟩ := List.forall_mem_cons.mp hP
    rw [List.flatMap_cons, Argument.written, List.cons_append, List.map_cons, List.map_append,
      List.map_eq_cons_iff] at h
    obtain ⟨comma, behind, rfl, hcontent, hbehind⟩ := h
    obtain ⟨first, rest, rfl, hfirst, hrest⟩ := List.map_eq_append_iff.mp hbehind
    obtain ⟨args', rfl, hcomma', hP', htrees⟩ := ih hcomma hP hrest
    refine ⟨⟨comma, first, a.tree⟩ :: args', by simp [Argument.written], ?_, ?_, by simp [htrees]⟩
    · exact List.forall_mem_cons.mpr ⟨(Token.content_eq_iff.mp hcontent).1.trans hc, hcomma'⟩
    · exact List.forall_mem_cons.mpr ⟨ha first hfirst, hP'⟩

/-- Whether tokens are a phrase does not depend on their positions. -/
theorem Derives.congr {tier : Tier} {levels : Nat} {tokens tokens' : List Token} {e : Expr}
    (h : Derives tier levels tokens e) (hsame : tokens'.map Token.content = tokens.map Token.content) :
    Derives tier levels tokens' e := by
  induction h generalizing tokens' with
  | field hk =>
    obtain ⟨t, rfl, ht⟩ := List.map_eq_singleton_iff.mp hsame
    obtain ⟨hkind, htext⟩ := Token.content_eq_iff.mp ht
    exact htext ▸ .field (hkind.trans hk)
  | text hk =>
    obtain ⟨t, rfl, ht⟩ := List.map_eq_singleton_iff.mp hsame
    obtain ⟨hkind, htext⟩ := Token.content_eq_iff.mp ht
    exact htext ▸ .text (hkind.trans hk)
  | number hk hx =>
    obtain ⟨t, rfl, ht⟩ := List.map_eq_singleton_iff.mp hsame
    obtain ⟨hkind, htext⟩ := Token.content_eq_iff.mp ht
    exact .number (hkind.trans hk) (htext ▸ hx)
  | boolean hk =>
    obtain ⟨t, rfl, ht⟩ := List.map_eq_singleton_iff.mp hsame
    obtain ⟨hkind, htext⟩ := Token.content_eq_iff.mp ht
    exact htext ▸ .boolean (hkind.trans hk)
  | emptyCall hn ho hc =>
    obtain ⟨name, _, rfl, hname, hsame⟩ := List.map_eq_cons_iff.mp hsame
    obtain ⟨opening, _, rfl, hopening, hsame⟩ := List.map_eq_cons_iff.mp hsame
    obtain ⟨closing, rfl, hclosing⟩ := List.map_eq_singleton_iff.mp hsame
    simp only [Token.content_eq_iff] at hname hopening hclosing
    exact hname.2 ▸ .emptyCall (hname.1.trans hn) (hopening.1.trans ho) (hclosing.1.trans hc)
  | call hn ho hc _ hcomma _ ihf ihr =>
    obtain ⟨name, _, rfl, hname, hsame⟩ := List.map_eq_cons_iff.mp hsame
    obtain ⟨opening, _, rfl, hopening, hsame⟩ := List.map_eq_cons_iff.mp hsame
    simp only [List.map_append, List.append_assoc] at hsame
    obtain ⟨first, _, rfl, hfirst, hsame⟩ := List.map_eq_append_iff.mp hsame
    obtain ⟨rest, _, rfl, hrest, hsame⟩ := List.map_eq_append_iff.mp hsame
    obtain ⟨closing, rfl, hclosing⟩ := List.map_eq_singleton_iff.mp hsame
    simp only [Token.content_eq_iff] at hname hopening hclosing
    obtain ⟨args, rfl, hcomma', hargs, htrees⟩ := exists_arguments_of_content hcomma (fun a ha _ => ihr a ha) hrest
    rw [← hname.2, ← htrees, ← List.append_assoc]
    exact .call (hname.1.trans hn) (hopening.1.trans ho) (hclosing.1.trans hc) (ihf hfirst) hcomma' hargs
  | parens ho hc _ ih =>
    obtain ⟨opening, _, rfl, hopening, hsame⟩ := List.map_eq_cons_iff.mp hsame
    rw [List.map_append] at hsame
    obtain ⟨inner, _, rfl, hinner, hsame⟩ := List.map_eq_append_iff.mp hsame
    obtain ⟨closing, rfl, hclosing⟩ := List.map_eq_singleton_iff.mp hsame
    simp only [Token.content_eq_iff] at hopening hclosing
    exact .parens (hopening.1.trans ho) (hclosing.1.trans hc) (ih hinner)
  | minus hk ht _ ih =>
    obtain ⟨op, operand, rfl, hop, hoperand⟩ := List.map_eq_cons_iff.mp hsame
    obtain ⟨hkind, htext⟩ := Token.content_eq_iff.mp hop
    exact .minus (hkind.trans hk) (htext.trans ht) (ih hoperand)
  | single ht _ ih => exact .single ht (ih hsame)
  | joined _ hj _ ihl ihr =>
    rw [List.map_append] at hsame
    obtain ⟨left, _, rfl, hleft, hsame⟩ := List.map_eq_append_iff.mp hsame
    obtain ⟨op, right, rfl, hop, hright⟩ := List.map_eq_cons_iff.mp hsame
    obtain ⟨hkind, htext⟩ := Token.content_eq_iff.mp hop
    refine .joined (ihl hleft) ?_ (ihr hright)
    rw [Tier.joint_eq_some_iff] at hj ⊢
    rwa [hkind, htext]

/-! ### Fields -/

/-- The names of the fields among some tokens, in the order of the tokens. -/
def fieldTexts (tokens : List Token) : List String := (tokens.filter (·.kind = .field)).map (·.text)

@[simp] theorem fieldTexts_nil : fieldTexts [] = [] := rfl

theorem fieldTexts_cons {t : Token} {tokens : List Token} :
    fieldTexts (t :: tokens) = (if t.kind = .field then [t.text] else []) ++ fieldTexts tokens := by
  unfold fieldTexts
  rw [List.filter_cons]
  by_cases hk : t.kind = .field <;> simp [hk]

theorem fieldTexts_append {left right : List Token} :
    fieldTexts (left ++ right) = fieldTexts left ++ fieldTexts right := by
  simp [fieldTexts]

private theorem fieldsOfAll_arguments {args : List Argument} (hcomma : ∀ a ∈ args, a.comma.kind = .comma)
    (h : ∀ a ∈ args, a.tree.fields = fieldTexts a.tokens) :
    Expr.fieldsOfAll (args.map Argument.tree) = fieldTexts (args.flatMap Argument.written) := by
  induction args with
  | nil => rfl
  | cons a args ih =>
    simp only [List.mem_cons, forall_eq_or_imp] at hcomma h
    have ih := ih hcomma.2 h.2
    simp [Expr.fieldsOfAll, fieldTexts_append, fieldTexts_cons, Argument.written, hcomma.1, h.1, ih]

/-- The fields of the tree are those of the tokens, in the same order. -/
theorem Derives.fields_eq {tier : Tier} {levels : Nat} {tokens : List Token} {e : Expr}
    (h : Derives tier levels tokens e) : e.fields = fieldTexts tokens := by
  induction h with
  | field hk => simp [fieldTexts_cons, hk, Expr.fields]
  | text hk => simp [fieldTexts_cons, hk, Expr.fields]
  | number hk _ => simp [fieldTexts_cons, hk, Expr.fields]
  | boolean hk => simp [fieldTexts_cons, hk, Expr.fields]
  | emptyCall hn ho hc => simp [fieldTexts_cons, hn, ho, hc, Expr.fields, Expr.fieldsOfAll]
  | call hn ho hc _ hcomma _ ihf ihr =>
    simp [fieldTexts_cons, fieldTexts_append, hn, ho, hc, Expr.fields, Expr.fieldsOfAll, ihf,
      fieldsOfAll_arguments hcomma ihr]
  | parens ho hc _ ih => simp [fieldTexts_cons, fieldTexts_append, ho, hc, ih]
  | minus hk _ _ ih => simp [fieldTexts_cons, hk, Expr.fields, ih]
  | single _ _ ih => exact ih
  | joined _ hj _ ihl ihr =>
    obtain ⟨hk, ⟨o, rfl⟩ | ⟨o, rfl⟩⟩ := Tier.joint_cases hj
    · simp [fieldTexts_cons, fieldTexts_append, hk, Expr.fields, ihl, ihr]
    · simp [fieldTexts_cons, fieldTexts_append, hk, Expr.fields, ihl, ihr]

end FormRules.Formula

import FormRules.Proofs.Formula.Brackets
import FormRules.Proofs.Formula.Evaluation
import FormRules.Proofs.Formula.Parsing
import FormRules.Proofs.Number.RoundTrip

/-!
# Expansion preserves meaning

Expanding a phrase in front of other tokens is expanding the phrase, then the rest (`Splits`). What a phrase
expands to is a phrase of the same tier with the same result, in which the expandable calls that are left fail;
and it expands to itself (`Derives.expands`). The induction is over the derivation of the phrase. The case that
matters is that of an expandable call: the arguments that are found between its parentheses are those of the
derivation, so its value is the result of the call.
-/

namespace FormRules.Formula

open Expansion

variable {ctx : Context} {token name opening closing : Token} {rest inner after : List Token}

theorem expandTokens_nil : expandTokens ctx [] = .ok [] := by rw [expandTokens]

theorem expandTokens_cons (h : callee? token rest = none) :
    expandTokens ctx (token :: rest) = (expandTokens ctx rest).map (token :: ·) := by
  rw [expandTokens]
  intro f opening rest' hf
  rw [h] at hf
  cases hf

theorem expandTokens_call {f : Builtin} {args : List (List Token)} (hf : callee? name (opening :: rest) = some f)
    (hc : untilClose? 0 rest = some (inner, closing, after))
    (ha : splitArguments closing.position inner = .ok args) :
    expandTokens ctx (name :: opening :: rest) =
      match (evaluateArguments ctx args).bind (applyCall ctx f) with
      | .ok value => (expandTokens ctx after).map (literalToken value name.position :: ·)
      | .error (.failed _) =>
        (expandTokens ctx after).map fun tokens => name :: opening :: (inner ++ closing :: tokens)
      | .error e => .error e := by
  rw [expandTokens]
  case heq => exact hf
  split
  · next h => rw [hc] at h; cases h
  · next h =>
    rw [hc] at h
    cases h
    split
    · next h' => rw [ha] at h'; cases h'
    · next h' =>
      rw [ha] at h'
      cases h'
      rfl

/-! ### Expanding a part -/

/-- Expanding the tokens in front of any others gives `result` for them, and then the others are expanded. -/
def Splits (ctx : Context) (tokens : List Token) (result : Outcome (List Token)) : Prop :=
  ∀ tail, expandTokens ctx (tokens ++ tail) = result.bind fun out => (expandTokens ctx tail).map (out ++ ·)

/-- A token that starts no call that is to be expanded, whatever follows. -/
def Inert (token : Token) : Prop := ∀ rest, callee? token rest = none

theorem inert_of_kind (h : token.kind ≠ .function) : Inert token := by
  intro rest
  rw [callee?, if_neg fun hcall => h hcall.1]

theorem inert_of_name (h : isExpandableName token.text = false) : Inert token := by
  intro rest
  unfold callee?
  split
  · rw [Option.filter_eq_none_iff]
    intro f hf
    simpa [isExpandableName, hf] using h
  · rfl

theorem Splits.eq {tokens : List Token} {result : Outcome (List Token)} (h : Splits ctx tokens result) :
    expandTokens ctx tokens = result := by
  have hnil := h []
  rw [List.append_nil, expandTokens_nil] at hnil
  rw [hnil]
  cases result with
  | error e => rfl
  | ok out => simp [Except.bind, Except.map]

theorem splits_nil : Splits ctx [] (.ok []) := by
  intro tail
  show expandTokens ctx tail = (expandTokens ctx tail).map ([] ++ ·)
  cases expandTokens ctx tail <;> rfl

theorem splits_single (h : Inert token) : Splits ctx [token] (.ok [token]) :=
  fun tail => expandTokens_cons (h tail)

theorem Splits.append {left right : List Token} {l r : Outcome (List Token)} (hl : Splits ctx left l)
    (hr : Splits ctx right r) : Splits ctx (left ++ right) (l.bind fun out => r.map (out ++ ·)) := by
  intro tail
  rw [List.append_assoc, hl, hr]
  cases l with
  | error e => rfl
  | ok out =>
    cases r with
    | error e => rfl
    | ok more =>
      show ((expandTokens ctx tail).map (more ++ ·)).map (out ++ ·) =
        (expandTokens ctx tail).map (out ++ more ++ ·)
      cases expandTokens ctx tail with
      | error e => rfl
      | ok end' => simp [Except.map]

/-- Tokens that are expanded to themselves. -/
abbrev Fixed (ctx : Context) (tokens : List Token) : Prop := Splits ctx tokens (.ok tokens)

theorem Fixed.append {left right : List Token} (hl : Fixed ctx left) (hr : Fixed ctx right) :
    Fixed ctx (left ++ right) := Splits.append hl hr

/-- Calls that cannot be made: an unknown function or a wrong number of arguments. -/
def Error.IsCall (e : Error) : Prop := e.isSyntax = false ∧ e.isFailure = false

/-- The tokens are expanded on their own, to such as `R` holds of and as are expanded to themselves, unless a
call cannot be made. -/
def Expands (ctx : Context) (tokens : List Token) (R : List Token → Prop) : Prop :=
  ∃ result, Splits ctx tokens result ∧ (∀ e, result = .error e → e.IsCall) ∧
    ∀ out, result = .ok out → R out ∧ Fixed ctx out

theorem expands_single {R : List Token → Prop} (h : Inert token) (hR : R [token]) : Expands ctx [token] R :=
  ⟨.ok [token], splits_single h, nofun, fun out hout => by cases hout; exact ⟨hR, splits_single h⟩⟩

theorem expands_self (ctx : Context) (h : Inert token) : Expands ctx [token] (· = [token]) := expands_single h rfl

theorem expands_nil {R : List Token → Prop} (hR : R []) : Expands ctx [] R :=
  ⟨.ok [], splits_nil, nofun, fun out hout => by cases hout; exact ⟨hR, splits_nil⟩⟩

theorem Expands.mono {tokens : List Token} {R R' : List Token → Prop} (h : Expands ctx tokens R)
    (hR : ∀ out, R out → R' out) : Expands ctx tokens R' := by
  obtain ⟨result, hsplits, herror, hok⟩ := h
  exact ⟨result, hsplits, herror, fun out hout => ⟨hR out (hok out hout).1, (hok out hout).2⟩⟩

theorem Expands.append {left right : List Token} {L R : List Token → Prop} (hl : Expands ctx left L)
    (hr : Expands ctx right R) :
    Expands ctx (left ++ right) fun out => ∃ l r, out = l ++ r ∧ L l ∧ R r := by
  obtain ⟨result, hsplits, herror, hok⟩ := hl
  obtain ⟨result', hsplits', herror', hok'⟩ := hr
  refine ⟨_, hsplits.append hsplits', ?_, ?_⟩
  · intro e he
    cases result with
    | error e' => exact herror e he
    | ok out =>
      cases result' with
      | error e' => exact herror' e he
      | ok more => cases he
  · intro out hout
    cases result with
    | error e' => cases hout
    | ok l =>
      cases result' with
      | error e' => cases hout
      | ok r =>
        cases hout
        obtain ⟨hL, hfixed⟩ := hok l rfl
        obtain ⟨hR, hfixed'⟩ := hok' r rfl
        exact ⟨⟨l, r, rfl, hL, hR⟩, hfixed.append hfixed'⟩

/-! ### Calls that are left -/

namespace Expr

mutual

/-- The expandable calls of an expression that lie in no other one. -/
def outerCalls : Expr → List Expr
  | literal _ => []
  | field _ => []
  | arithmetic _ left right => left.outerCalls ++ right.outerCalls
  | comparison _ left right => left.outerCalls ++ right.outerCalls
  | call name args => if isExpandableName name then [call name args] else outerCallsOfAll args

/-- The expandable calls of some expressions that lie in no other one. -/
def outerCallsOfAll : List Expr → List Expr
  | [] => []
  | arg :: args => arg.outerCalls ++ outerCallsOfAll args

end

theorem mem_outerCallsOfAll {c : Expr} {args : List Expr} :
    c ∈ outerCallsOfAll args ↔ ∃ arg ∈ args, c ∈ arg.outerCalls := by
  induction args with
  | nil => simp [outerCallsOfAll]
  | cons arg args ih => simp [outerCallsOfAll, ih]

end Expr

/-- A call whose evaluation fails for want of a value; where the number of arguments is wrong, which is checked
first, it is the evaluation of the arguments that fails so. -/
def LeftCall (ctx : Context) (e : Expr) : Prop :=
  ∃ name args f failure, e = .call name args ∧ Builtin.ofName? name = some f ∧
    (evaluate ctx e = .error (.failed failure) ∨ ∃ arityError, f.checkArity args.length = .error arityError ∧
      evaluate ctx e = .error arityError ∧ evaluateAll ctx args = .error (.failed failure))

/-- All expandable calls of an expression that lie in no other one fail. -/
def AllLeft (ctx : Context) (e : Expr) : Prop := ∀ c ∈ e.outerCalls, LeftCall ctx c

section

variable {f : Builtin} {function : String} {args : List Expr} (hf : Builtin.ofName? function = some f)
  (hexpandable : f.isExpandable = true)

include hf hexpandable

/-- The value that expansion computes is the result of the call. -/
theorem evaluate_of_applyCall {value : Value} (h : (evaluateAll ctx args).bind (applyCall ctx f) = .ok value) :
    evaluate ctx (.call function args) = .ok value ∧ ((∃ x, value = .number x) ∨ ∃ s, value = .text s) := by
  obtain ⟨values, hvalues, h⟩ := exists_of_bind_eq_ok h
  obtain ⟨_, harity, h⟩ := exists_of_bind_eq_ok h
  rw [length_of_evaluateAll hvalues] at harity
  rw [evaluate_call_expandable hf hexpandable, harity, hvalues]
  exact ⟨h, apply_expandable hexpandable h⟩

/-- A call that expansion leaves is one that fails. -/
theorem leftCall_of_applyCall {failure : Failure}
    (h : (evaluateAll ctx args).bind (applyCall ctx f) = .error (.failed failure)) :
    LeftCall ctx (.call function args) := by
  refine ⟨function, args, f, failure, rfl, hf, ?_⟩
  rw [evaluate_call_expandable hf hexpandable]
  cases hvalues : evaluateAll ctx args with
  | error e =>
    rw [hvalues] at h
    cases h
    rcases checkArity_cases f args.length with hok | ⟨bound, harity⟩
    · exact .inl (by rw [hok]; rfl)
    · exact .inr ⟨_, harity, by rw [harity]; rfl, rfl⟩
  | ok values =>
    rw [hvalues] at h
    change (f.checkArity values.length >>= fun _ => f.apply ctx.now values) = _ at h
    rw [length_of_evaluateAll hvalues] at h
    exact .inl h

end

theorem noSyntax_applyCall (f : Builtin) (values : List Value) : NoSyntax (applyCall ctx f values) :=
  (noSyntax_checkArity f values.length).bind fun _ => noSyntax_apply f ctx.now values

/-! ### Expanding phrases -/

/-- The tokens are a phrase that may stand for one with the tree `e`. -/
def Replaces (ctx : Context) (tier : Tier) (levels : Nat) (e : Expr) (out : List Token) : Prop :=
  ∃ e', Derives tier levels out e' ∧ evaluate ctx e' = evaluate ctx e ∧ AllLeft ctx e'

theorem evaluateTokens_of_derives {levels : Nat} {tokens : List Token} {e : Expr}
    (h : Derives .comparison levels tokens e) (hlevels : levels ≤ maxLevels - 1) :
    evaluateTokens ctx tokens = evaluate ctx e := by
  have hparse : parseTokens (tokens ++ [.eof (tokens.getLast?.elim 0 (·.position))]) = .ok e := by
    rw [parseTokens_eq_ok_iff, formulaBody_append_eof h.kind_ne_eof]
    exact h.mono hlevels
  rw [evaluateTokens, hparse]
  rfl

/-- The outcomes are the same, unless a call cannot be made in the first. -/
def Agrees {α : Type} (outcome other : Outcome α) : Prop := outcome = other ∨ ∃ e, outcome = .error e ∧ e.IsCall

theorem Agrees.bind {α β : Type} {outcome other : Outcome α} (h : Agrees outcome other) (next : α → Outcome β) :
    Agrees (outcome.bind next) (other.bind next) := by
  rcases h with rfl | ⟨e, rfl, he⟩
  · exact .inl rfl
  · exact .inr ⟨e, rfl, he⟩

/-- An argument as it is written, with its tree. -/
structure Part (ctx : Context) where
  tokens : List Token
  tree : Expr
  levels : Nat
  shallow : levels ≤ maxLevels - 1
  expands : Expands ctx tokens (Replaces ctx .comparison levels tree)

theorem Part.agrees (part : Part ctx) :
    Agrees ((expandTokens ctx part.tokens).bind (evaluateTokens ctx)) (evaluate ctx part.tree) := by
  obtain ⟨result, hsplits, herror, hok⟩ := part.expands
  rw [hsplits.eq]
  cases result with
  | error e => exact .inr ⟨e, rfl, herror e rfl⟩
  | ok out =>
    obtain ⟨⟨e', hd, heq, -⟩, -⟩ := hok out rfl
    left
    show evaluateTokens ctx out = evaluate ctx part.tree
    rw [evaluateTokens_of_derives hd part.shallow, heq]

theorem evaluateArguments_cons (arg : List Token) (args : List (List Token)) : evaluateArguments ctx (arg :: args) =
    ((expandTokens ctx arg).bind (evaluateTokens ctx)).bind fun value =>
      (evaluateArguments ctx args).map (value :: ·) := by
  rw [evaluateArguments]
  cases expandTokens ctx arg with
  | error e => rfl
  | ok out => rfl

theorem evaluateArguments_agrees (parts : List (Part ctx)) :
    Agrees (evaluateArguments ctx (parts.map Part.tokens)) (evaluateAll ctx (parts.map Part.tree)) := by
  induction parts with
  | nil => left; rw [List.map_nil, evaluateArguments]; rfl
  | cons part parts ih =>
    rw [List.map_cons, evaluateArguments_cons]
    rcases part.agrees with hpart | ⟨e, hpart, he⟩
    · rw [hpart]
      rcases ih with hparts | ⟨e, hparts, he⟩
      · left
        rw [hparts]
        rfl
      · rw [hparts]
        cases hv : evaluate ctx part.tree with
        | error e' =>
          left
          rw [List.map_cons, evaluateAll, hv]
          rfl
        | ok value => exact .inr ⟨e, rfl, he⟩
    · rw [hpart]
      exact .inr ⟨e, rfl, he⟩

/-- What the tokens of an expandable call are expanded to, by the outcome of computing its value. -/
def expandedCall (name : Token) (call : List Token) : Outcome Value → Outcome (List Token)
  | .ok value => .ok [literalToken value name.position]
  | .error (.failed _) => .ok call
  | .error e => .error e

theorem derives_literalToken {value : Value} (h : (∃ x, value = .number x) ∨ ∃ s, value = .text s)
    (levels position : Nat) : Derives .atom levels [literalToken value position] (.literal value) := by
  rcases h with ⟨x, rfl⟩ | ⟨s, rfl⟩
  · exact .number rfl (Binary64.read?_plain x)
  · exact .text rfl

section

variable {f : Builtin} (hname : name.kind = .function) (hopening : opening.kind = .openParen)
  (hclosing : closing.kind = .closeParen) (hf : Builtin.ofName? name.text = some f)
  (hexpandable : f.isExpandable = true) (hinner : Balanced true inner)

include hname hopening hclosing hf hexpandable hinner

theorem splits_expandable {args : List (List Token)} (hsplit : splitArguments closing.position inner = .ok args) :
    Splits ctx (name :: opening :: (inner ++ [closing]))
      (expandedCall name (name :: opening :: (inner ++ [closing]))
        ((evaluateArguments ctx args).bind (applyCall ctx f))) := by
  intro tail
  have hcallee : callee? name (opening :: (inner ++ closing :: tail)) = some f := by
    simp [callee?, hname, hopening, hf, hexpandable]
  have hassoc : name :: opening :: (inner ++ [closing]) ++ tail =
      name :: opening :: (inner ++ closing :: tail) := by simp
  rw [hassoc, expandTokens_call hcallee (untilClose?_call hinner hclosing tail) hsplit]
  cases (evaluateArguments ctx args).bind (applyCall ctx f) with
  | ok value => rfl
  | error e =>
    cases e with
    | failed failure =>
      show (expandTokens ctx tail).map _ = (expandTokens ctx tail).map _
      congr 1
      funext out
      simp
    | _ => rfl

/-- A call of an expandable function becomes a literal with its value, or fails and stays. -/
theorem expands_expandable {levels : Nat} {parts : List (Part ctx)}
    (hsplit : splitArguments closing.position inner = .ok (parts.map Part.tokens))
    (hd : Derives .atom levels (name :: opening :: (inner ++ [closing])) (.call name.text (parts.map Part.tree))) :
    Expands ctx (name :: opening :: (inner ++ [closing]))
      (Replaces ctx .atom levels (.call name.text (parts.map Part.tree))) := by
  have hsplits : Splits ctx _ _ := splits_expandable hname hopening hclosing hf hexpandable hinner hsplit
  refine ⟨_, hsplits, ?_⟩
  rcases (evaluateArguments_agrees parts).bind (applyCall ctx f) with heq | ⟨e, heq, he⟩
  · rw [heq] at hsplits ⊢
    cases houtcome : (evaluateAll ctx (parts.map Part.tree)).bind (applyCall ctx f) with
    | ok value =>
      obtain ⟨hvalue, hkind⟩ := evaluate_of_applyCall hf hexpandable houtcome
      have hd' := derives_literalToken hkind levels name.position
      refine ⟨nofun, fun out hout => ?_⟩
      cases hout
      refine ⟨⟨_, hd', hvalue.symm, by simp [AllLeft, Expr.outerCalls]⟩, splits_single (inert_of_kind ?_)⟩
      rcases hkind with ⟨x, rfl⟩ | ⟨s, rfl⟩ <;> simp [literalToken]
    | error e =>
      rw [houtcome] at hsplits
      have hsyn : e.isSyntax = false :=
        (noSyntax_evaluateAll _).bind (fun values => noSyntax_applyCall f values) e houtcome
      cases e with
      | failed failure =>
        refine ⟨nofun, fun out hout => ?_⟩
        cases hout
        have hleft := leftCall_of_applyCall hf hexpandable houtcome
        have hname : isExpandableName name.text = true := by simp [isExpandableName, hf, hexpandable]
        exact ⟨⟨_, hd, rfl, by simpa [AllLeft, Expr.outerCalls, hname] using hleft⟩, hsplits⟩
      | _ => exact ⟨fun e' he' => by cases he'; exact ⟨hsyn, rfl⟩, nofun⟩
  · rw [heq]
    cases e with
    | failed failure => cases he.2
    | _ => exact ⟨fun e' he' => by cases he'; exact he, nofun⟩

end

/-- The arguments behind the first one, with their commas. -/
theorem expands_written {levels : Nat} {rest : List Argument} (hcomma : ∀ a ∈ rest, a.comma.kind = .comma)
    (h : ∀ a ∈ rest, Expands ctx a.tokens (Replaces ctx .comparison levels a.tree)) :
    Expands ctx (rest.flatMap Argument.written) fun out => ∃ rest' : List Argument,
      out = rest'.flatMap Argument.written ∧
      (∀ a ∈ rest', a.comma.kind = .comma ∧ Derives .comparison levels a.tokens a.tree ∧ AllLeft ctx a.tree) ∧
      rest'.map (evaluate ctx ·.tree) = rest.map (evaluate ctx ·.tree) := by
  induction rest with
  | nil => exact expands_nil ⟨[], rfl, nofun, rfl⟩
  | cons a rest ih =>
    have ha := hcomma a List.mem_cons_self
    have hrest := ih (fun b hb => hcomma b (List.mem_cons_of_mem a hb)) fun b hb => h b (List.mem_cons_of_mem a hb)
    have hinert : Inert a.comma := inert_of_kind (by simp [ha])
    have hall := ((expands_self ctx hinert).append (h a List.mem_cons_self)).append hrest
    refine hall.mono ?_
    rintro _ ⟨_, _, rfl, ⟨_, tokens, rfl, rfl, e', hd, heq, hleft⟩, rest', rfl, hrest', hmap⟩
    refine ⟨⟨a.comma, tokens, e'⟩ :: rest', by simp [Argument.written], fun b hb => ?_, ?_⟩
    · rcases List.mem_cons.mp hb with rfl | hb
      · exact ⟨ha, hd, hleft⟩
      · exact hrest' b hb
    · rw [List.map_cons, List.map_cons, heq, hmap]

/-- A call of another function keeps its name, and its arguments are expanded. -/
theorem expands_other {levels : Nat} {first : List Token} {e : Expr} {rest : List Argument}
    (hname : name.kind = .function) (hopening : opening.kind = .openParen) (hclosing : closing.kind = .closeParen)
    (hother : isExpandableName name.text = false) (hcomma : ∀ a ∈ rest, a.comma.kind = .comma)
    (hfirst : Expands ctx first (Replaces ctx .comparison levels e))
    (hrest : ∀ a ∈ rest, Expands ctx a.tokens (Replaces ctx .comparison levels a.tree)) :
    Expands ctx (name :: opening :: (first ++ rest.flatMap Argument.written ++ [closing]))
      (Replaces ctx .atom (levels + 1) (.call name.text (e :: rest.map Argument.tree))) := by
  have hnameInert : Inert name := inert_of_name hother
  have hopeningInert : Inert opening := inert_of_kind (by simp [hopening])
  have hclosingInert : Inert closing := inert_of_kind (by simp [hclosing])
  have hall := (expands_self ctx hnameInert).append
    ((expands_self ctx hopeningInert).append
      ((hfirst.append (expands_written hcomma hrest)).append (expands_self ctx hclosingInert)))
  refine hall.mono ?_
  rintro _ ⟨_, _, rfl, rfl, _, _, rfl, rfl, _, _, rfl, ⟨tokens, _, rfl, hfirst', rest', rfl, hrest', hmap⟩, rfl⟩
  obtain ⟨e', hd, heq, hleft⟩ := hfirst'
  refine ⟨.call name.text (e' :: rest'.map Argument.tree), ?_, ?_, ?_⟩
  · exact .call hname hopening hclosing hd (fun a ha => (hrest' a ha).1) fun a ha => (hrest' a ha).2.1
  · refine evaluate_call_congr ?_ name.text
    rw [List.map_cons, List.map_cons, heq, List.map_map, List.map_map]
    exact congrArg _ hmap
  · intro c hc
    rw [Expr.outerCalls, if_neg (by simp [hother]), Expr.mem_outerCallsOfAll] at hc
    obtain ⟨arg, harg, hc⟩ := hc
    rcases List.mem_cons.mp harg with rfl | harg
    · exact hleft c hc
    · obtain ⟨a, ha, rfl⟩ := List.mem_map.mp harg
      exact (hrest' a ha).2.2 c hc

theorem AllLeft.parts {left right : Expr} (hl : AllLeft ctx left) (hr : AllLeft ctx right) :
    ∀ c ∈ left.outerCalls ++ right.outerCalls, LeftCall ctx c := by
  intro c hc
  rcases List.mem_append.mp hc with hc | hc
  · exact hl c hc
  · exact hr c hc

theorem exists_expandable {function : String} (h : isExpandableName function = true) :
    ∃ f, Builtin.ofName? function = some f ∧ f.isExpandable = true := by
  unfold isExpandableName at h
  cases hf : Builtin.ofName? function with
  | none => rw [hf] at h; cases h
  | some f =>
    rw [hf] at h
    exact ⟨f, rfl, h⟩

theorem expands_leaf {levels : Nat} {e : Expr} (hk : token.kind ≠ .function)
    (hd : Derives .atom levels [token] e) (hcalls : e.outerCalls = []) :
    Expands ctx [token] (Replaces ctx .atom levels e) :=
  expands_single (inert_of_kind hk) ⟨e, hd, rfl, by simp [AllLeft, hcalls]⟩

theorem expands_emptyCall {levels : Nat} (hname : name.kind = .function) (hopening : opening.kind = .openParen)
    (hclosing : closing.kind = .closeParen) :
    Expands ctx [name, opening, closing] (Replaces ctx .atom levels (.call name.text [])) := by
  have hd : Derives .atom levels [name, opening, closing] (.call name.text []) := .emptyCall hname hopening hclosing
  cases hx : isExpandableName name.text with
  | true =>
    obtain ⟨f, hf, hexpandable⟩ := exists_expandable hx
    have hsplit : splitArguments closing.position [] = .ok (([] : List (Part ctx)).map Part.tokens) := rfl
    exact expands_expandable hname hopening hclosing hf hexpandable .nil hsplit hd
  | false =>
    have hopeningInert : Inert opening := inert_of_kind (by simp [hopening])
    have hclosingInert : Inert closing := inert_of_kind (by simp [hclosing])
    have hall := (expands_self ctx (inert_of_name hx)).append
      ((expands_self ctx hopeningInert).append (expands_self ctx hclosingInert))
    refine hall.mono ?_
    rintro _ ⟨_, _, rfl, rfl, _, _, rfl, rfl, rfl⟩
    exact ⟨_, hd, rfl, by simp [AllLeft, Expr.outerCalls, Expr.outerCallsOfAll, hx]⟩

/-- A call of an expandable function with arguments that are expanded. -/
theorem expands_expandableCall {f : Builtin} {levels : Nat} {first : List Token} {e : Expr} {rest : List Argument}
    (hlevels : levels ≤ maxLevels - 1) (hname : name.kind = .function) (hopening : opening.kind = .openParen)
    (hclosing : closing.kind = .closeParen) (hf : Builtin.ofName? name.text = some f)
    (hexpandable : f.isExpandable = true) (hcomma : ∀ a ∈ rest, a.comma.kind = .comma)
    (hfirst : Derives .comparison levels first e)
    (hrest : ∀ a ∈ rest, Derives .comparison levels a.tokens a.tree)
    (hefirst : Expands ctx first (Replaces ctx .comparison levels e))
    (herest : ∀ a ∈ rest, Expands ctx a.tokens (Replaces ctx .comparison levels a.tree)) :
    Expands ctx (name :: opening :: (first ++ rest.flatMap Argument.written ++ [closing]))
      (Replaces ctx .atom (levels + 1) (.call name.text (e :: rest.map Argument.tree))) := by
  let parts : List (Part ctx) := ⟨first, e, levels, hlevels, hefirst⟩ ::
    rest.pmap (fun a h => ⟨a.tokens, a.tree, levels, hlevels, h⟩) herest
  have htokens : parts.map Part.tokens = first :: rest.map Argument.tokens := by
    simp only [parts, List.map_cons, List.map_pmap, List.pmap_eq_map]
  have htrees : parts.map Part.tree = e :: rest.map Argument.tree := by
    simp only [parts, List.map_cons, List.map_pmap, List.pmap_eq_map]
  obtain ⟨hinner, hsplit⟩ := hfirst.arguments_found hcomma hrest closing.position
  have hd : Derives .atom (levels + 1) _ (.call name.text (e :: rest.map Argument.tree)) :=
    .call hname hopening hclosing hfirst hcomma hrest
  rw [← htokens] at hsplit
  rw [← htrees] at hd ⊢
  exact expands_expandable hname hopening hclosing hf hexpandable hinner hsplit hd

/-- Every phrase is expanded to one with the same result, whose expandable calls fail. -/
theorem Derives.expands {tier : Tier} {levels : Nat} {tokens : List Token} {e : Expr}
    (h : Derives tier levels tokens e) (hlevels : levels ≤ maxLevels - 1) :
    Expands ctx tokens (Replaces ctx tier levels e) := by
  induction h with
  | field hk => exact expands_leaf (by simp [hk]) (.field hk) rfl
  | text hk => exact expands_leaf (by simp [hk]) (.text hk) rfl
  | number hk hx => exact expands_leaf (by simp [hk]) (.number hk hx) rfl
  | boolean hk => exact expands_leaf (by simp [hk]) (.boolean hk) rfl
  | emptyCall hn ho hc => exact expands_emptyCall hn ho hc
  | @call levels name _ _ _ _ _ hn ho hc hf hcomma hr ihf ihr =>
    have hl : levels ≤ maxLevels - 1 := by omega
    cases hx : isExpandableName name.text with
    | true =>
      obtain ⟨f, hf', hexpandable⟩ := exists_expandable hx
      exact expands_expandableCall hl hn ho hc hf' hexpandable hcomma hf hr (ihf hl) fun a ha => ihr a ha hl
    | false => exact expands_other hn ho hc hx hcomma (ihf hl) fun a ha => ihr a ha hl
  | @parens _ opening closing _ _ ho hc _ ih =>
    have hopening : Inert opening := inert_of_kind (by simp [ho])
    have hclosing : Inert closing := inert_of_kind (by simp [hc])
    have hall := (expands_self ctx hopening).append ((ih (by omega)).append (expands_self ctx hclosing))
    refine hall.mono ?_
    rintro _ ⟨_, _, rfl, rfl, _, _, rfl, ⟨e', hd, heq, hleft⟩, rfl⟩
    exact ⟨e', .parens ho hc hd, heq, hleft⟩
  | @minus _ token _ _ hk ht _ ih =>
    have hinert : Inert token := inert_of_kind (by simp [hk])
    have hall := (expands_self ctx hinert).append (ih (by omega))
    refine hall.mono ?_
    rintro _ ⟨_, _, rfl, rfl, e', hd, heq, hleft⟩
    exact ⟨_, .minus hk ht hd, by simp only [evaluate, heq], by simpa [AllLeft, Expr.outerCalls] using hleft⟩
  | single ht _ ih =>
    refine (ih hlevels).mono ?_
    rintro out ⟨e', hd, heq, hleft⟩
    exact ⟨e', .single ht hd, heq, hleft⟩
  | @joined _ _ _ _ op _ _ join hl hj hr ihl ihr =>
    obtain ⟨hk, hjoin⟩ := Tier.joint_cases hj
    have hinert : Inert op := inert_of_kind (by simp [hk])
    have hall := (ihl hlevels).append ((expands_self ctx hinert).append (ihr hlevels))
    refine hall.mono ?_
    rintro _ ⟨_, _, rfl, ⟨l', hdl, heql, hleftl⟩, _, _, rfl, rfl, r', hdr, heqr, hleftr⟩
    refine ⟨join l' r', .joined hdl hj hdr, ?_, ?_⟩
    · rcases hjoin with ⟨o, rfl⟩ | ⟨o, rfl⟩ <;> simp only [evaluate, heql, heqr]
    · rcases hjoin with ⟨o, rfl⟩ | ⟨o, rfl⟩ <;> exact hleftl.parts hleftr

/-! ### Whole formulas -/

/-- Expanding a formula that parses raises no syntax error. What it is expanded to parses, has the same result,
has no expandable call left but such as fail, and is expanded to itself. -/
theorem expandTokens_preserves (ctx : Context) {formula : String} {tokens : List Token} {e : Expr}
    (htokens : tokenize formula = .ok tokens) (hparse : parseTokens tokens = .ok e) :
    NoSyntax (expandTokens ctx tokens) ∧
      ∀ out, expandTokens ctx tokens = .ok out →
        ∃ e', parseTokens out = .ok e' ∧ evaluate ctx e' = evaluate ctx e ∧ AllLeft ctx e' ∧
          expandTokens ctx out = .ok out := by
  obtain ⟨body, last, rfl, hbody⟩ := tokenizeFrom_eq_ok htokens
  rw [parseTokens_eq_ok_iff, formulaBody_append_eof fun token htoken => (hbody token htoken).1] at hparse
  have heof : Inert (.eof last) := inert_of_kind (by simp [Token.eof])
  have hphrase : Expands ctx body (Replaces ctx .comparison (maxLevels - 1) e) := hparse.expands (Nat.le_refl _)
  obtain ⟨result, hsplits, herror, hok⟩ := hphrase.append (expands_self ctx heof)
  rw [hsplits.eq]
  refine ⟨fun err herr => (herror err herr).1, fun out hout => ?_⟩
  obtain ⟨⟨_, _, rfl, ⟨e', hd, heq, hleft⟩, rfl⟩, hfixed⟩ := hok out hout
  refine ⟨e', ?_, heq, hleft, hfixed.eq⟩
  rw [parseTokens_eq_ok_iff, formulaBody_append_eof hd.kind_ne_eof]
  exact hd

theorem expandFormula_eq_ok {formula text : String} (h : expandFormula ctx formula = .ok text) :
    ∃ tokens e out, tokenize formula = .ok tokens ∧ parseTokens tokens = .ok e ∧
      expandTokens ctx tokens = .ok out ∧ Token.render out = text := by
  obtain ⟨tokens, htokens, h⟩ := exists_of_bind_eq_ok h
  obtain ⟨_, hparse, h⟩ := exists_of_bind_eq_ok h
  obtain ⟨out, hout, h⟩ := exists_of_bind_eq_ok h
  cases he : parseTokens tokens with
  | error e =>
    rw [he] at hparse
    cases hparse
  | ok e =>
    cases h
    exact ⟨tokens, e, out, htokens, he, hout, rfl⟩

/-- A form without fields. -/
def emptyForm : Context := ⟨∅, ∅, .ofMillis 0⟩

/-- A call in a branch that is not taken fails and stays, the other one becomes its value. -/
theorem expandTokens_preserves_untaken :
    ∃ tokens e out, tokenize "IF(TRUE,SUM(1,2),AVG(1/0))" = .ok tokens ∧ parseTokens tokens = .ok e ∧
      expandTokens emptyForm tokens = .ok out ∧ Token.render out = "IF(TRUE,3,AVG(1/0))" ∧
      ∃ e', parseTokens out = .ok e' ∧ evaluate emptyForm e' = evaluate emptyForm e ∧ AllLeft emptyForm e' ∧
        expandTokens emptyForm out = .ok out := by
  have htext : expandFormula emptyForm "IF(TRUE,SUM(1,2),AVG(1/0))" = .ok "IF(TRUE,3,AVG(1/0))" := by
    decide +kernel
  obtain ⟨tokens, e, out, htokens, he, hout, hrender⟩ := expandFormula_eq_ok htext
  exact ⟨tokens, e, out, htokens, he, hout, hrender, (expandTokens_preserves emptyForm htokens he).2 out hout⟩

/-- A call that expansion leaves for its argument, and evaluation refuses for the number of its arguments. -/
theorem not_failed_surplus :
    ∃ tokens e c, tokenize "NOW(1/0)" = .ok tokens ∧ parseTokens tokens = .ok e ∧
      expandTokens emptyForm tokens = .ok tokens ∧ c ∈ e.outerCalls ∧
      ∀ failure, evaluate emptyForm c ≠ .error (.failed failure) := by
  let tokens : List Token := [⟨.function, "NOW", 0⟩, ⟨.openParen, "(", 3⟩, ⟨.number, "1", 4⟩, ⟨.operator, "/", 5⟩,
    ⟨.number, "0", 6⟩, ⟨.closeParen, ")", 7⟩, .eof 8]
  have htokens : tokenize "NOW(1/0)" = .ok tokens := by decide +kernel
  have hexpand : expandTokens emptyForm tokens = .ok tokens := by decide +kernel
  have hcalls : ((parseTokens tokens).map fun e => e.outerCalls.map (evaluate emptyForm)) =
      .ok [.error (.argumentCount "NOW" (.atMost 0) 1)] := by decide +kernel
  cases he : parseTokens tokens with
  | error err =>
    rw [he] at hcalls
    cases hcalls
  | ok e =>
    rw [he] at hcalls
    obtain ⟨c, hc, hevaluate⟩ := List.mem_map.mp (Except.ok.inj hcalls ▸ List.mem_singleton_self _)
    refine ⟨tokens, e, c, htokens, he, hexpand, hc, fun failure hfailed => ?_⟩
    rw [hevaluate] at hfailed
    cases hfailed

end FormRules.Formula

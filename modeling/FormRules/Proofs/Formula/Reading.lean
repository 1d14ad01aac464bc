import Mathlib.Tactic.Tauto
import FormRules.Formula.Engine
import FormRules.Proofs.Formula.Parsing

/-!
# What the value of a formula depends on

Two contexts agree on an expression if they give the same values to its fields, and have the same instant where
the expression has an expandable call. Evaluation then gives the same result in both; and where the values are the
same up to a change that no formula notices (`Unnoticed`), so are the results (`evaluate_map_congr`). As the
fields of a formula that parses are among its dependencies, these are all that a formula reads of the form data
(`resultOf_congr`), whatever an engine has compiled before (`tryEvaluate_noninterference`).
-/

namespace FormRules.Formula

/-- A change of values that no formula notices, as all that formulas read of a value stays the same. -/
structure Unnoticed (change : Value → Value) : Prop where
  toBool : ∀ v, (change v).toBool = v.toBool
  isBlank : ∀ v, (change v).isBlank = v.isBlank
  toNumber : ∀ v, (change v).toNumber = v.toNumber
  toText : ∀ v, (change v).toText = v.toText
  numeric : ∀ v, (change v).numeric? = v.numeric?
  compare : ∀ v w, compareValues (change v) (change w) = compareValues v w

theorem unnoticed_id : Unnoticed id where
  toBool _ := rfl
  isBlank _ := rfl
  toNumber _ := rfl
  toText _ := rfl
  numeric _ := rfl
  compare _ _ := rfl

/-- The contexts give the same values to some names, up to a change of values, and the same instant if the clock
is read. -/
structure Context.Agree (change : Value → Value) (ctx ctx' : Context) (names : List String) (clock : Bool) :
    Prop where
  value_eq : ∀ name ∈ names, change (ctx.value name) = change (ctx'.value name)
  now_eq : clock = true → ctx.now = ctx'.now

variable {change : Value → Value}

theorem Context.Agree.mono {ctx ctx' : Context} {names names' : List String} {clock clock' : Bool}
    (h : Context.Agree change ctx ctx' names clock) (hn : ∀ name ∈ names', name ∈ names)
    (hc : clock' = true → clock = true) : Context.Agree change ctx ctx' names' clock' :=
  ⟨fun name hname => h.value_eq name (hn name hname), fun hclock => h.now_eq (hc hclock)⟩

/-- Agreement on two parts of an expression. -/
theorem Context.Agree.parts {ctx ctx' : Context} {left right : List String} {l r : Bool}
    (h : Context.Agree change ctx ctx' (left ++ right) (l || r)) :
    Context.Agree change ctx ctx' left l ∧ Context.Agree change ctx ctx' right r :=
  ⟨h.mono (fun _ hname => List.mem_append_left right hname) (fun hl => by simp [hl]),
    h.mono (fun _ hname => List.mem_append_right left hname) (fun hr => by simp [hr])⟩

/-- Only expandable functions look at the clock. -/
theorem Builtin.apply_congr {f : Builtin} {now now' : Instant} (h : f.isExpandable = true → now = now')
    (args : List Value) : f.apply now args = f.apply now' args := by
  cases f with
  | now => rw [h rfl]
  | today => rw [h rfl]
  | _ => rcases args with _ | ⟨v, _ | ⟨w, _ | ⟨u, rest⟩⟩⟩ <;> simp only [Builtin.apply, Builtin.compute?]

theorem Unnoticed.timestamp_eq (h : Unnoticed change) (v : Value) : timestamp (change v) = timestamp v := by
  rw [timestamp, timestamp, h.numeric, h.toText]

theorem Unnoticed.dateDifference_eq (h : Unnoticed change) (v w : Value) (unit : Nat) :
    dateDifference (change v) (change w) unit = dateDifference v w unit := by
  rw [dateDifference, dateDifference, h.timestamp_eq, h.timestamp_eq]

/-- No function notices such a change of its arguments. -/
theorem Unnoticed.apply_map (h : Unnoticed change) (f : Builtin) (now : Instant) (args : List Value) :
    f.apply now (args.map change) = f.apply now args := by
  have htexts : Value.toText ∘ change = Value.toText := funext h.toText
  have hnumbers : Value.toNumber ∘ change = Value.toNumber := funext h.toNumber
  have hblanks : (fun v => !(change v).isBlank) = fun v => !v.isBlank := funext fun v => by rw [h.isBlank]
  unfold Builtin.apply
  rw [List.length_map]
  congr 1
  cases f with
  | count => simp only [Builtin.compute?, List.filter_map, List.length_map, Function.comp_def, hblanks]
  | concat | sum | min | max => simp only [Builtin.compute?, List.map_map, htexts, hnumbers]
  | _ =>
    rcases args with _ | ⟨v, _ | ⟨w, _ | ⟨u, rest⟩⟩⟩ <;>
      simp only [List.map_cons, List.map_nil, Builtin.compute?, List.map_map, hnumbers, List.length_cons,
        List.length_map, h.toBool, h.isBlank, h.toText, h.toNumber, h.dateDifference_eq]

theorem isExpandableName_eq {name : String} {f : Builtin} (h : Builtin.ofName? name = some f) :
    isExpandableName name = f.isExpandable := by
  simp [isExpandableName, h]

/-- Two computations in two steps have the same results up to a change, if the second steps have on results of the
first ones that are the same up to a change. -/
theorem map_bind_congr {α α' β γ : Type} {first second : Outcome α} {g : α → α'} {next next' : α → Outcome β}
    {k : β → γ} (h : first.map g = second.map g)
    (hnext : ∀ a b, g a = g b → (next a).map k = (next' b).map k) :
    (first >>= next).map k = (second >>= next').map k := by
  cases first with
  | error e =>
    cases second with
    | error e' => cases h; rfl
    | ok b => cases h
  | ok a =>
    cases second with
    | error e' => cases h
    | ok b => exact hnext a b (Except.ok.inj h)

section

variable {ctx ctx' : Context}

mutual

/-- The result of an expression depends only on its fields, and on the clock if it has an expandable call; a change
of fields that no formula notices may at most show as such in the result. -/
theorem evaluate_map_congr (hc : Unnoticed change) : (e : Expr) →
    Context.Agree change ctx ctx' e.fields e.hasExpandable →
    (evaluate ctx e).map change = (evaluate ctx' e).map change
  | .literal value, _ => rfl
  | .field name, h => congrArg Except.ok (h.value_eq name (by simp [Expr.fields]))
  | .arithmetic op left right, h =>
    map_bind_congr (evaluate_map_congr hc left h.parts.1) fun l l' hl =>
      map_bind_congr (evaluate_map_congr hc right h.parts.2) fun r r' hr => by
        rw [← hc.toNumber l, hl, hc.toNumber, ← hc.toNumber r, hr, hc.toNumber]
  | .comparison op left right, h =>
    map_bind_congr (evaluate_map_congr hc left h.parts.1) fun l l' hl =>
      map_bind_congr (evaluate_map_congr hc right h.parts.2) fun r r' hr => by
        rw [ComparisonOp.holds, ← hc.compare l r, hl, hr, hc.compare, ← ComparisonOp.holds]
  | .call name args, h => by
    have hargs : Context.Agree change ctx ctx' (Expr.fieldsOfAll args) (Expr.anyExpandable args) :=
      h.mono (by simp [Expr.fields]) (by simp_all [Expr.hasExpandable])
    unfold evaluate
    cases hf : Builtin.ofName? name with
    | none => rfl
    | some f =>
      have hnow : f.isExpandable = true → ctx.now = ctx'.now := fun hexp =>
        h.now_eq (by simp [Expr.hasExpandable, isExpandableName_eq hf, hexp])
      refine map_bind_congr (g := id) rfl fun _ _ _ => ?_
      cases f with
      | ifThenElse => exact evaluateBranch_map_congr hc args hargs
      | and => exact evaluateUntil_map_congr hc false args hargs
      | or => exact evaluateUntil_map_congr hc true args hargs
      | _ =>
        refine map_bind_congr (evaluateAll_map_congr hc args hargs) fun values values' hvalues => ?_
        rw [← hc.apply_map, hvalues, hc.apply_map, Builtin.apply_congr hnow]

theorem evaluateBranch_map_congr (hc : Unnoticed change) : (args : List Expr) →
    Context.Agree change ctx ctx' (Expr.fieldsOfAll args) (Expr.anyExpandable args) →
    (evaluateBranch ctx args).map change = (evaluateBranch ctx' args).map change
  | [], _ => rfl
  | [condition], h => map_bind_congr (evaluate_map_congr hc condition h.parts.1) fun _ _ _ => rfl
  | [condition, ifTrue], h =>
    map_bind_congr (evaluate_map_congr hc condition h.parts.1) fun c c' hcond => by
      dsimp only
      rw [← hc.toBool c, hcond, hc.toBool]
      split
      · exact evaluate_map_congr hc ifTrue h.parts.2.parts.1
      · rfl
  | condition :: ifTrue :: ifFalse :: _, h =>
    map_bind_congr (evaluate_map_congr hc condition h.parts.1) fun c c' hcond => by
      dsimp only
      rw [← hc.toBool c, hcond, hc.toBool]
      split
      · exact evaluate_map_congr hc ifTrue h.parts.2.parts.1
      · exact evaluate_map_congr hc ifFalse h.parts.2.parts.2.parts.1

theorem evaluateUntil_map_congr (hc : Unnoticed change) (decisive : Bool) : (args : List Expr) →
    Context.Agree change ctx ctx' (Expr.fieldsOfAll args) (Expr.anyExpandable args) →
    (evaluateUntil ctx decisive args).map change = (evaluateUntil ctx' decisive args).map change
  | [], _ => rfl
  | arg :: args, h =>
    map_bind_congr (evaluate_map_congr hc arg h.parts.1) fun v v' hv => by
      rw [← hc.toBool v, hv, hc.toBool]
      split
      · rfl
      · exact evaluateUntil_map_congr hc decisive args h.parts.2

theorem evaluateAll_map_congr (hc : Unnoticed change) : (args : List Expr) →
    Context.Agree change ctx ctx' (Expr.fieldsOfAll args) (Expr.anyExpandable args) →
    (evaluateAll ctx args).map (List.map change) = (evaluateAll ctx' args).map (List.map change)
  | [], _ => rfl
  | arg :: args, h =>
    map_bind_congr (evaluate_map_congr hc arg h.parts.1) fun _ _ hv =>
      map_bind_congr (evaluateAll_map_congr hc args h.parts.2) fun _ _ hvs =>
        congrArg Except.ok (List.cons_eq_cons.mpr ⟨hv, hvs⟩)

end

end

/-- The result of the text of a formula. -/
def resultOf (ctx : Context) (formula : String) : Outcome Value := (parseFormula formula).bind (evaluate ctx)

/-- Compiling gives the tree of the text. -/
theorem map_expr_compile (cache : Cache) (source : String) :
    (cache.compile source).1.map Compiled.expr = parseFormula source := by
  unfold Cache.compile
  split
  · next compiled hentry => exact (cache.sound source compiled hentry).2.1.symm
  · split
    · next e h => exact h.symm
    · next expr h => exact h.symm

/-- An engine gives the result of the text, whatever it has compiled before. -/
theorem tryEvaluate_fst (engine : Engine) (ctx : Context) (formula : String) :
    (engine.tryEvaluate ctx formula).1 = resultOf ctx formula := by
  unfold resultOf
  rw [← map_expr_compile engine.cache formula]
  unfold Engine.tryEvaluate
  generalize engine.cache.compile formula = compiled
  obtain ⟨_ | _, cache⟩ := compiled <;> rfl

/-- The value of a formula as a condition has it: `TRUE` if it is missing or blank, `FALSE` on an error. -/
def conditionValue (ctx : Context) (formula : Option String) : Value :=
  match formula with
  | some source =>
    if isBlankFormula formula then .boolean true else (resultOf ctx source).toOption.getD (.boolean false)
  | none => .boolean true

/-- An engine gives the value of the text as a condition, whatever it has compiled before. -/
theorem Engine.evaluate_fst (engine : Engine) (ctx : Context) (formula : Option String) :
    (engine.evaluate ctx formula).1 = conditionValue ctx formula := by
  cases formula with
  | none => rfl
  | some source =>
    unfold Engine.evaluate conditionValue
    dsimp only
    split
    · rfl
    · exact congrArg (fun result : Outcome Value => result.toOption.getD (.boolean false))
        (tryEvaluate_fst engine ctx source)

theorem Engine.holds_fst (engine : Engine) (ctx : Context) (formula : Option String) :
    (engine.holds ctx formula).1 = (conditionValue ctx formula).toBool :=
  congrArg Value.toBool (engine.evaluate_fst ctx formula)

/-- Compiling gives the entry of the text, with the flag of its tree. -/
theorem isOf_compile {cache : Cache} {source : String} {compiled : Compiled}
    (h : (cache.compile source).1 = .ok compiled) : compiled.IsOf source := by
  unfold Cache.compile at h
  split at h
  · next hentry =>
    cases h
    exact cache.sound source compiled hentry
  · split at h
    · cases h
    · next expr hparse =>
      cases h
      exact ⟨rfl, hparse, rfl⟩

theorem mem_distinct {name : String} {names : List String} : name ∈ distinct names ↔ name ∈ names := by
  induction names with
  | nil => simp [distinct]
  | cons first rest ih =>
    rw [distinct, List.mem_cons, List.mem_filter, ih, List.mem_cons, decide_eq_true_eq]
    tauto

/-- The fields of a formula that parses are among its dependencies. -/
theorem fields_subset_dependencies {formula : String} {e : Expr} (h : parseFormula formula = .ok e) :
    ∀ name ∈ e.fields, name ∈ dependencies formula := by
  intro name hname
  unfold parseFormula at h
  cases htokens : tokenize formula with
  | error err => rw [htokens] at h; cases h
  | ok tokens =>
    rw [htokens] at h
    have hd : Derives .comparison (maxLevels - 1) (formulaBody tokens) e := parseTokens_eq_ok_iff.mp h
    rw [hd.fields_eq] at hname
    have hsub : fieldTexts (formulaBody tokens) ⊆ fieldTexts tokens :=
      ((List.takeWhile_sublist _).filter _).map _ |>.subset
    have hrefs : dependencies formula = distinct (fieldTexts tokens) := by
      rw [dependencies, fieldReferences, htokens]
      rfl
    rw [hrefs, mem_distinct]
    exact hsub hname

/-- The result of a formula depends only on the values of its dependencies, and on the clock if it has an
expandable call. -/
theorem resultOf_map_congr (hc : Unnoticed change) {ctx ctx' : Context} {formula : String}
    (hvalue : ∀ name ∈ dependencies formula, change (ctx.value name) = change (ctx'.value name))
    (hclock : ctx.now = ctx'.now ∨ ∀ e, parseFormula formula = .ok e → e.hasExpandable = false) :
    (resultOf ctx formula).map change = (resultOf ctx' formula).map change := by
  unfold resultOf
  cases hparse : parseFormula formula with
  | error err => rfl
  | ok e =>
    have hfields := fields_subset_dependencies hparse
    refine evaluate_map_congr hc e ⟨fun name hname => hvalue name (hfields name hname), fun hexp => ?_⟩
    rcases hclock with hnow | hno
    · exact hnow
    · rw [hno e hparse] at hexp
      cases hexp

/-- The same without a change of values. -/
theorem resultOf_congr {ctx ctx' : Context} {formula : String}
    (hvalue : ∀ name ∈ dependencies formula, ctx.value name = ctx'.value name)
    (hclock : ctx.now = ctx'.now ∨ ∀ e, parseFormula formula = .ok e → e.hasExpandable = false) :
    resultOf ctx formula = resultOf ctx' formula := by
  simpa [Except.map_id] using resultOf_map_congr unnoticed_id hvalue hclock

/-- A formula has the same result, value or error, on two forms that give the same values to the names it
depends on, whatever else they hold and whatever two engines have compiled before. The instants must agree only
if the formula has an expandable call; the flag that is kept with the compiled formula tells as much as its tree. -/
theorem tryEvaluate_noninterference (engine engine' : Engine) {ctx ctx' : Context} {formula : String}
    (hvalue : ∀ name ∈ dependencies formula, ctx.value name = ctx'.value name)
    (hclock : ctx.now = ctx'.now ∨ (∀ e, parseFormula formula = .ok e → e.hasExpandable = false) ∨
      ∃ compiled, (engine.cache.compile formula).1 = .ok compiled ∧ compiled.hasExpandable = false) :
    (engine.tryEvaluate ctx formula).1 = (engine'.tryEvaluate ctx' formula).1 := by
  have htimeless : ctx.now = ctx'.now ∨ ∀ e, parseFormula formula = .ok e → e.hasExpandable = false := by
    rcases hclock with hnow | htree | ⟨compiled, hcompiled, hflag⟩
    · exact .inl hnow
    · exact .inr htree
    · obtain ⟨-, hparse, hkept⟩ := isOf_compile hcompiled
      refine .inr fun e he => ?_
      rw [hparse] at he
      cases he
      rw [← hkept, hflag]
  rw [tryEvaluate_fst, tryEvaluate_fst]
  exact resultOf_congr hvalue htimeless

/-- A form that has the price under the id of a field. -/
def titledOrder : Context where
  data := .ofList [("Qty", Value.number (.ofNat 3)), ("f1", Value.number (.ofNat 5))]
  fields := .ofList [("f1", FieldMeta.mk "f1" "Price" "" none false)]
  now := .ofMillis 0

/-- A form that has the price under its name, a day later. -/
def namedOrder : Context where
  data := .ofList [("Qty", Value.number (.ofNat 3)), ("Price", Value.number (.ofNat 5)), ("Note", Value.text "x")]
  fields := ∅
  now := .ofMillis 86400000

/-- Both orders give the same values to the names in a formula without expandable calls. -/
theorem tryEvaluate_noninterference_orders :
    let formula := "IF([Qty]>1,[Price]*[Qty],1/0)"
    (∀ name ∈ dependencies formula, titledOrder.value name = namedOrder.value name) ∧
      (∀ e, parseFormula formula = .ok e → e.hasExpandable = false) ∧ titledOrder.now ≠ namedOrder.now ∧
      (({} : Engine).tryEvaluate titledOrder formula).1 = (({} : Engine).tryEvaluate namedOrder formula).1 ∧
      (({} : Engine).tryEvaluate namedOrder formula).1 = .ok (.number (.ofNat 15)) := by
  intro formula
  have hvalue : ∀ name ∈ dependencies formula, titledOrder.value name = namedOrder.value name := by
    decide +kernel
  have hflag : (parseFormula formula).toOption.all (fun e => !e.hasExpandable) = true := by decide +kernel
  have htree : ∀ e, parseFormula formula = .ok e → e.hasExpandable = false := by
    intro e he
    rw [he] at hflag
    simpa [Except.toOption] using hflag
  have hsame := tryEvaluate_noninterference {} {} hvalue (.inr (.inl htree))
  exact ⟨hvalue, htree, by decide +kernel, hsame, by decide +kernel⟩

end FormRules.Formula

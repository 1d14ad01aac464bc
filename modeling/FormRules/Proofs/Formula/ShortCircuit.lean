import FormRules.Formula.Eval

/-!
# Calls that evaluate only what they need

`AND` and `OR` are one function, which a false or a true argument decides. The arguments with the other truth value
are passed (`evaluateUntil_passedAll`), and the first one that is not passed gives the result: its truth value
decides or its error is the error of the call (`passed_or_stops`). What stands behind it is not evaluated. As a
negated argument is passed by the one function where the argument itself is passed by the other one, both are dual
(`evaluateUntil_negated`). `IF` evaluates the branch that its condition selects and no other. Main statement:
`lazy_calls_exact`.
-/

namespace FormRules.Formula

variable {ctx : Context} {decisive : Bool} {arg : Expr} {args before : List Expr} {err : Error}

/-- The function that an argument with the given truth value decides: `OR` for a true one, `AND` for a false one. -/
def Builtin.decidedBy (decisive : Bool) : Builtin := if decisive then .or else .and

/-- The expression has a value with the given truth value. -/
def HasTruth (ctx : Context) (truth : Bool) (e : Expr) : Prop := ∃ v, evaluate ctx e = .ok v ∧ v.toBool = truth

/-- All arguments in front of `arg` are passed. -/
def Reached (ctx : Context) (decisive : Bool) (args : List Expr) (arg : Expr) : Prop :=
  ∃ before after, args = before ++ arg :: after ∧ ∀ a ∈ before, HasTruth ctx (!decisive) a

/-- The call of `NOT` on an expression. -/
def negated (e : Expr) : Expr := .call Builtin.not.name [e]

theorem truth_cases (ctx : Context) (decisive : Bool) (e : Expr) :
    HasTruth ctx (!decisive) e ∨ HasTruth ctx decisive e ∨ ∃ err, evaluate ctx e = .error err := by
  cases he : evaluate ctx e with
  | error err => exact .inr (.inr ⟨err, rfl⟩)
  | ok v =>
    by_cases hv : v.toBool = decisive
    · exact .inr (.inl ⟨v, he, hv⟩)
    · exact .inl ⟨v, he, Bool.eq_not_of_ne hv⟩

/-! ### One argument -/

theorem evaluateUntil_passed (h : HasTruth ctx (!decisive) arg) (args : List Expr) :
    evaluateUntil ctx decisive (arg :: args) = evaluateUntil ctx decisive args := by
  obtain ⟨v, hv, htruth⟩ := h
  have hne : v.toBool ≠ decisive := by simp [htruth]
  rw [evaluateUntil, hv]
  exact if_neg hne

theorem evaluateUntil_decided (h : HasTruth ctx decisive arg) (args : List Expr) :
    evaluateUntil ctx decisive (arg :: args) = .ok (.boolean decisive) := by
  obtain ⟨v, hv, htruth⟩ := h
  rw [evaluateUntil, hv]
  exact if_pos htruth

theorem evaluateUntil_failed (h : evaluate ctx arg = .error err) (args : List Expr) :
    evaluateUntil ctx decisive (arg :: args) = .error err := by
  rw [evaluateUntil, h]
  rfl

/-! ### All arguments -/

theorem evaluateUntil_passedAll (h : ∀ a ∈ before, HasTruth ctx (!decisive) a) (rest : List Expr) :
    evaluateUntil ctx decisive (before ++ rest) = evaluateUntil ctx decisive rest := by
  induction before with
  | nil => rfl
  | cons arg before ih =>
    obtain ⟨harg, hbefore⟩ := List.forall_mem_cons.mp h
    rw [List.cons_append, evaluateUntil_passed harg, ih hbefore]

/-- Either all arguments are passed, or the first one that is not passed decides or fails. -/
theorem passed_or_stops (ctx : Context) (decisive : Bool) (args : List Expr) :
    (∀ a ∈ args, HasTruth ctx (!decisive) a) ∨
      ∃ arg, Reached ctx decisive args arg ∧ (HasTruth ctx decisive arg ∨ ∃ err, evaluate ctx arg = .error err) := by
  induction args with
  | nil => exact .inl nofun
  | cons arg args ih =>
    rcases truth_cases ctx decisive arg with hpassed | hstops
    · rcases ih with hall | ⟨stop, ⟨before, after, rfl, hbefore⟩, hstop⟩
      · exact .inl (List.forall_mem_cons.mpr ⟨hpassed, hall⟩)
      · exact .inr ⟨stop, ⟨arg :: before, after, rfl, List.forall_mem_cons.mpr ⟨hpassed, hbefore⟩⟩, hstop⟩
    · exact .inr ⟨arg, ⟨[], args, rfl, nofun⟩, hstops⟩

theorem Reached.evaluateUntil_eq (h : Reached ctx decisive args arg) :
    ∃ after, evaluateUntil ctx decisive args = evaluateUntil ctx decisive (arg :: after) := by
  obtain ⟨before, after, rfl, hbefore⟩ := h
  exact ⟨after, evaluateUntil_passedAll hbefore (arg :: after)⟩

theorem Reached.decided (h : Reached ctx decisive args arg) (harg : HasTruth ctx decisive arg) :
    evaluateUntil ctx decisive args = .ok (.boolean decisive) := by
  obtain ⟨after, heq⟩ := h.evaluateUntil_eq
  rw [heq, evaluateUntil_decided harg]

theorem Reached.failed (h : Reached ctx decisive args arg) (harg : evaluate ctx arg = .error err) :
    evaluateUntil ctx decisive args = .error err := by
  obtain ⟨after, heq⟩ := h.evaluateUntil_eq
  rw [heq, evaluateUntil_failed harg]

theorem evaluateUntil_of_passed (h : ∀ a ∈ args, HasTruth ctx (!decisive) a) :
    evaluateUntil ctx decisive args = .ok (.boolean !decisive) := by
  have hall := evaluateUntil_passedAll h []
  rwa [List.append_nil, evaluateUntil] at hall

/-- The three outcomes: all arguments are passed, or the first one that is not passed decides or fails. -/
theorem evaluateUntil_cases (ctx : Context) (decisive : Bool) (args : List Expr) :
    (∀ a ∈ args, HasTruth ctx (!decisive) a) ∧ evaluateUntil ctx decisive args = .ok (.boolean !decisive) ∨
    (∃ arg, Reached ctx decisive args arg ∧ HasTruth ctx decisive arg) ∧
      evaluateUntil ctx decisive args = .ok (.boolean decisive) ∨
    ∃ err, (∃ arg, Reached ctx decisive args arg ∧ evaluate ctx arg = .error err) ∧
      evaluateUntil ctx decisive args = .error err := by
  rcases passed_or_stops ctx decisive args with hall | ⟨arg, hreached, htruth | ⟨err, herr⟩⟩
  · exact .inl ⟨hall, evaluateUntil_of_passed hall⟩
  · exact .inr (.inl ⟨⟨arg, hreached, htruth⟩, hreached.decided htruth⟩)
  · exact .inr (.inr ⟨err, ⟨arg, hreached, herr⟩, hreached.failed herr⟩)

theorem evaluateUntil_eq_decisive_iff : evaluateUntil ctx decisive args = .ok (.boolean decisive) ↔
    ∃ arg, Reached ctx decisive args arg ∧ HasTruth ctx decisive arg := by
  refine ⟨fun h => ?_, fun ⟨arg, hreached, htruth⟩ => hreached.decided htruth⟩
  rcases evaluateUntil_cases ctx decisive args with ⟨-, heq⟩ | ⟨hdecided, -⟩ | ⟨err, -, heq⟩
  · simp [heq] at h
  · exact hdecided
  · simp [heq] at h

theorem evaluateUntil_eq_not_decisive_iff : evaluateUntil ctx decisive args = .ok (.boolean !decisive) ↔
    ∀ a ∈ args, HasTruth ctx (!decisive) a := by
  refine ⟨fun h => ?_, evaluateUntil_of_passed⟩
  rcases evaluateUntil_cases ctx decisive args with ⟨hall, -⟩ | ⟨-, heq⟩ | ⟨err, -, heq⟩
  · exact hall
  · simp [heq] at h
  · simp [heq] at h

theorem evaluateUntil_eq_error_iff : evaluateUntil ctx decisive args = .error err ↔
    ∃ arg, Reached ctx decisive args arg ∧ evaluate ctx arg = .error err := by
  refine ⟨fun h => ?_, fun ⟨arg, hreached, herr⟩ => hreached.failed herr⟩
  rcases evaluateUntil_cases ctx decisive args with ⟨-, heq⟩ | ⟨-, heq⟩ | ⟨err', hfailed, heq⟩
  · simp [heq] at h
  · simp [heq] at h
  · obtain rfl : err' = err := Except.error.inj (heq.symm.trans h)
    exact hfailed

/-- Behind an argument that is not passed the result does not depend on anything. -/
theorem evaluateUntil_stopped (h : ¬ HasTruth ctx (!decisive) arg) (before after after' : List Expr) :
    evaluateUntil ctx decisive (before ++ arg :: after') = evaluateUntil ctx decisive (before ++ arg :: after) := by
  induction before with
  | nil =>
    rcases truth_cases ctx decisive arg with hpassed | hdecided | ⟨err, herr⟩
    · exact absurd hpassed h
    · rw [List.nil_append, List.nil_append, evaluateUntil_decided hdecided, evaluateUntil_decided hdecided]
    · rw [List.nil_append, List.nil_append, evaluateUntil_failed herr, evaluateUntil_failed herr]
  | cons first before ih => rw [List.cons_append, List.cons_append, evaluateUntil, evaluateUntil, ih]

/-! ### Negation -/

theorem evaluate_negated (e : Expr) : evaluate ctx (negated e) = (evaluate ctx e).map fun v => .boolean !v.toBool := by
  have hname : Builtin.ofName? Builtin.not.name = some .not := Builtin.ofName?_name .not
  rw [negated, evaluate, hname]
  show (evaluateAll ctx [e] >>= fun values => Builtin.apply .not ctx.now values) = _
  rw [evaluateAll, evaluateAll]
  cases evaluate ctx e <;> rfl

theorem hasTruth_negated {truth : Bool} {e : Expr} (h : HasTruth ctx truth e) : HasTruth ctx (!truth) (negated e) := by
  obtain ⟨v, hv, htruth⟩ := h
  refine ⟨.boolean !v.toBool, ?_, ?_⟩
  · rw [evaluate_negated, hv]
    rfl
  · rw [htruth]
    rfl

/-- Negated arguments are passed by the other function where they themselves are passed by the one. -/
theorem evaluateUntil_negated (ctx : Context) (decisive : Bool) (args : List Expr) :
    evaluateUntil ctx (!decisive) (args.map negated) =
      (evaluateUntil ctx decisive args).map fun v => .boolean !v.toBool := by
  induction args with
  | nil => rfl
  | cons arg args ih =>
    rw [List.map_cons]
    rcases truth_cases ctx decisive arg with hpassed | hdecided | ⟨err, herr⟩
    · rw [evaluateUntil_passed hpassed, evaluateUntil_passed (hasTruth_negated hpassed), ih]
    · rw [evaluateUntil_decided hdecided, evaluateUntil_decided (hasTruth_negated hdecided)]
      rfl
    · have hnegated : evaluate ctx (negated arg) = .error err := by rw [evaluate_negated, herr]; rfl
      rw [evaluateUntil_failed herr, evaluateUntil_failed hnegated]
      rfl

/-! ### Calls -/

theorem evaluate_decidedBy (ctx : Context) (decisive : Bool) (hne : args ≠ []) :
    evaluate ctx (.call (Builtin.decidedBy decisive).name args) = evaluateUntil ctx decisive args := by
  obtain ⟨arg, args, rfl⟩ := List.exists_cons_of_ne_nil hne
  have hname := Builtin.ofName?_name (Builtin.decidedBy decisive)
  have harity : (Builtin.decidedBy decisive).checkArity (arg :: args).length = .ok () := by
    cases decisive <;> simp [Builtin.decidedBy, Builtin.checkArity, Builtin.minArgs, Builtin.maxArgs?]
  rw [evaluate, hname]
  dsimp only
  rw [harity]
  cases decisive <;> rfl

/-- A call of `IF` with or without a second branch. -/
theorem evaluate_ifThenElse (ctx : Context) (condition ifTrue : Expr) (ifFalse? : Option Expr) :
    evaluate ctx (.call Builtin.ifThenElse.name (condition :: ifTrue :: ifFalse?.toList)) =
      evaluate ctx condition >>= fun c =>
        if c.toBool then evaluate ctx ifTrue else ifFalse?.elim (.ok (.boolean false)) (evaluate ctx) := by
  rw [evaluate, Builtin.ofName?_name]
  cases ifFalse? <;> rfl

/-- A call of `AND` (decided by a false argument) or of `OR` (decided by a true one) with at least one argument has the
decisive truth value exactly if an argument with this truth value is reached, the other truth value exactly if all
arguments have that one, and an error exactly if an argument with this error is reached; there is no other result.
Whatever stands behind an argument that is not passed, the result is the same, and the negation of one function is the
other function of the negated arguments. A call of `IF` has the result of the branch that its condition selects,
whatever the other branch is, or the error of the condition. -/
theorem lazy_calls_exact (ctx : Context) :
    (∀ (decisive : Bool) (args : List Expr), args ≠ [] →
      let call (args : List Expr) := Expr.call (Builtin.decidedBy decisive).name args
      (evaluate ctx (call args) = .ok (.boolean decisive) ↔
        ∃ arg, Reached ctx decisive args arg ∧ HasTruth ctx decisive arg) ∧
      (evaluate ctx (call args) = .ok (.boolean !decisive) ↔ ∀ arg ∈ args, HasTruth ctx (!decisive) arg) ∧
      (∀ err, evaluate ctx (call args) = .error err ↔
        ∃ arg, Reached ctx decisive args arg ∧ evaluate ctx arg = .error err) ∧
      (∀ v, evaluate ctx (call args) = .ok v → v = .boolean decisive ∨ v = .boolean !decisive) ∧
      (∀ before arg after after', args = before ++ arg :: after → ¬ HasTruth ctx (!decisive) arg →
        evaluate ctx (call (before ++ arg :: after')) = evaluate ctx (call args)) ∧
      evaluate ctx (negated (call args)) =
        evaluate ctx (.call (Builtin.decidedBy !decisive).name (args.map negated))) ∧
    ∀ (condition ifTrue : Expr) (ifFalse? : Option Expr),
      let result := evaluate ctx (.call Builtin.ifThenElse.name (condition :: ifTrue :: ifFalse?.toList))
      (HasTruth ctx true condition → result = evaluate ctx ifTrue) ∧
      (HasTruth ctx false condition → result = ifFalse?.elim (.ok (.boolean false)) (evaluate ctx)) ∧
      ∀ err, evaluate ctx condition = .error err → result = .error err := by
  constructor
  · intro decisive args hne call
    have hcall : evaluate ctx (call args) = evaluateUntil ctx decisive args := evaluate_decidedBy ctx decisive hne
    have hnegated : args.map negated ≠ [] := fun hnil => hne (List.map_eq_nil_iff.mp hnil)
    refine ⟨?_, ?_, fun err => ?_, fun v hv => ?_, fun before arg after after' hargs harg => ?_, ?_⟩
    · rw [hcall, evaluateUntil_eq_decisive_iff]
    · rw [hcall, evaluateUntil_eq_not_decisive_iff]
    · rw [hcall, evaluateUntil_eq_error_iff]
    · rw [hcall] at hv
      rcases evaluateUntil_cases ctx decisive args with ⟨-, heq⟩ | ⟨-, heq⟩ | ⟨err, -, heq⟩
      · exact .inr (Except.ok.inj (hv.symm.trans heq))
      · exact .inl (Except.ok.inj (hv.symm.trans heq))
      · simp [heq] at hv
    · rw [hcall, hargs, evaluate_decidedBy ctx decisive (by simp)]
      exact evaluateUntil_stopped harg before after after'
    · rw [evaluate_negated, hcall, evaluate_decidedBy ctx (!decisive) hnegated, evaluateUntil_negated]
  · intro condition ifTrue ifFalse? result
    have hresult := evaluate_ifThenElse ctx condition ifTrue ifFalse?
    refine ⟨?_, ?_, fun err herr => ?_⟩
    · rintro ⟨c, hc, htruth⟩
      rw [hc] at hresult
      exact hresult.trans (if_pos htruth)
    · rintro ⟨c, hc, htruth⟩
      rw [hc] at hresult
      exact hresult.trans (if_neg (by simp [htruth]))
    · rw [herr] at hresult
      exact hresult

/-- An unknown function and a call without arguments behind what decides, in front of it and in a branch that is not
taken. -/
theorem lazy_calls_exact_skipped :
    let ctx : Context := ⟨∅, ∅, .ofMillis 0⟩
    let yes := Expr.literal (.boolean true)
    let empty := Expr.literal (.text "")
    let unknown := Expr.call "NOPE" []
    let error := Error.unknownFunction "NOPE"
    HasTruth ctx true yes ∧ HasTruth ctx false empty ∧ ¬ HasTruth ctx true empty ∧
      evaluate ctx unknown = .error error ∧
      evaluate ctx (.call "AND" [yes, empty, unknown]) = .ok (.boolean false) ∧
      evaluate ctx (.call "AND" [yes, empty, .call "OR" []]) = evaluate ctx (.call "AND" [yes, empty, unknown]) ∧
      evaluate ctx (.call "AND" [yes, unknown, empty]) = .error error ∧
      evaluate ctx (negated (.call "AND" [yes, unknown, empty])) =
        evaluate ctx (.call "OR" [negated yes, negated unknown, negated empty]) ∧
      evaluate ctx (.call "IF" [yes, empty, unknown]) = .ok (.text "") ∧
      evaluate ctx (.call "IF" [empty, unknown]) = .ok (.boolean false) ∧
      evaluate ctx (.call "IF" [unknown, yes, empty]) = .error error := by
  intro ctx yes empty unknown error
  have hyes : HasTruth ctx true yes := ⟨.boolean true, rfl, rfl⟩
  have hempty : HasTruth ctx false empty := ⟨.text "", rfl, rfl⟩
  have hstops : ¬ HasTruth ctx true empty := by
    rintro ⟨v, hv, htruth⟩
    cases hv
    cases htruth
  have hunknown : evaluate ctx unknown = .error error := rfl
  obtain ⟨hcalls, hbranches⟩ := lazy_calls_exact ctx
  obtain ⟨hdecided, -, -, -, hstopped, -⟩ := hcalls false [yes, empty, unknown] (by simp)
  obtain ⟨-, -, hfailed, -, -, hdual⟩ := hcalls false [yes, unknown, empty] (by simp)
  have hbefore : ∀ a ∈ [yes], HasTruth ctx true a := List.forall_mem_singleton.mpr hyes
  refine ⟨hyes, hempty, hstops, hunknown, ?_, ?_, ?_, hdual, ?_, ?_, ?_⟩
  · exact hdecided.mpr ⟨empty, ⟨[yes], [unknown], rfl, hbefore⟩, hempty⟩
  · exact hstopped [yes] empty [unknown] [.call "OR" []] rfl hstops
  · exact (hfailed error).mpr ⟨unknown, ⟨[yes], [empty], rfl, hbefore⟩, hunknown⟩
  · exact (hbranches yes empty (some unknown)).1 hyes
  · exact (hbranches empty unknown none).2.1 hempty
  · exact (hbranches unknown yes (some empty)).2.2 error hunknown

end FormRules.Formula

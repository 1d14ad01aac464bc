import FormRules.Proofs.Flow.Advance
import FormRules.Wire.Flow
import FormRules.Wire.Rules

/-!
# Refused requests

A request to a flow may be refused: a section that is not registered or hidden cannot be gone to, an incomplete one
is not left, going back may be disabled, and a saved state may be unreadable. Which requests are refused is known in
advance (`refusal?`), and a refused one has no effect but that formulas were evaluated, and that listeners are told
of an incomplete section (`Anchored.atomic`). A poll is never refused, so the advance that it takes is not lost. A
registry that cannot read a saved configuration stays as it is.
-/

namespace FormRules

open Formula (Context)

namespace Flow

/-- What a flow is asked to do and may refuse. -/
inductive Request where
  | navigateTo (ctx : Context) (id : String)
  | navigateNext (ctx : Context) (skipValidation : Bool)
  | navigatePrevious (ctx : Context)
  | poll (ctx : Context) (now : Instant)
  | importState (text : String)

/-- Why a request is refused. -/
inductive Refusal where
  | failed (e : FlowError)
  | unreadable
  deriving DecidableEq

/-- What listeners are told of a refusal. -/
def Refusal.events : Refusal → List Event
  | failed (.incomplete id) => [.validationFailed id]
  | _ => []

/-- The refusal of a request that gave an answer, and the flow afterwards. -/
def answered {α : Type} : Except FlowError α × Flow → Option Refusal × Flow
  | (.ok _, flow) => (none, flow)
  | (.error e, flow) => (some (.failed e), flow)

/-- The refusal of a request, if it is refused, and the flow afterwards. -/
def attempt (flow : Flow) : Request → Option Refusal × Flow
  | .navigateTo ctx id => answered (flow.navigateTo ctx id)
  | .navigateNext ctx skipValidation => answered (flow.navigateNext ctx skipValidation)
  | .navigatePrevious ctx => answered (flow.navigatePrevious ctx)
  | .poll ctx now => answered (flow.poll ctx now)
  | .importState text =>
    match flow.importStateText? text with
    | some flow => (none, flow)
    | none => (some .unreadable, flow)

/-- The refusal that a request meets. -/
def refusal? (flow : Flow) : Request → Option Refusal
  | .navigateTo ctx id =>
    match flow.section? id with
    | some s => if s.visibleIn ctx then none else some (.failed (.notVisible id))
    | none => some (.failed (.notFound id))
  | .navigateNext ctx skipValidation =>
    flow.current?.bind fun s =>
      if skipValidation || s.completeIn ctx || s.allowSkip then none else some (.failed (.incomplete s.id))
  | .navigatePrevious _ => if flow.options.allowBack then none else some (.failed .backDisabled)
  | .poll _ _ => none
  | .importState text => if ((Json.read? text).bind Wire.flowState?).isSome then none else some .unreadable

/-- A result is the expected refusal, which leaves the flow as it is but for what was evaluated and told. -/
structure Atomic (flow : Flow) (refusal? : Option Refusal) (result : Option Refusal × Flow) : Prop where
  refusal_eq : result.1 = refusal?
  unchanged : ∀ refusal ∈ refusal?, ∃ engine,
    result.2 = { flow with engine, bus := refusal.events.foldl Bus.emit flow.bus }

variable {flow : Flow} {id : String}

/-- Nothing is asked of requests that are not refused. -/
theorem atomic_answered_ok {α : Type} {result : Except FlowError α × Flow} (h : ∃ a, result.1 = .ok a) :
    flow.Atomic none (answered result) := by
  obtain ⟨answer, flow'⟩ := result
  obtain ⟨a, rfl⟩ := h
  exact ⟨rfl, nofun⟩

theorem atomic_navigateTo (flow : Flow) (ctx : Context) (id : String) :
    flow.Atomic (flow.refusal? (.navigateTo ctx id)) (flow.attempt (.navigateTo ctx id)) := by
  obtain ⟨engine, hvisible⟩ := isVisible_eq flow ctx id
  rw [attempt, refusal?, navigateTo, ← section?_isSome, hvisible]
  cases flow.section? id with
  | none => exact ⟨rfl, fun refusal hrefusal => by cases hrefusal; exact ⟨flow.engine, rfl⟩⟩
  | some s =>
    dsimp only [Option.isSome_some, Option.any_some]
    rw [if_pos rfl]
    split
    · exact ⟨rfl, nofun⟩
    · exact ⟨rfl, fun refusal hrefusal => by cases hrefusal; exact ⟨engine, rfl⟩⟩

/-- Going on is refused only where an incomplete section is checked that must not be skipped. -/
theorem Anchored.atomic_navigateNext (h : flow.Anchored) (ctx : Context) (skipValidation : Bool) :
    flow.Atomic (flow.refusal? (.navigateNext ctx skipValidation))
      (flow.attempt (.navigateNext ctx skipValidation)) := by
  rw [attempt, refusal?]
  cases hcurrent : flow.state.current? with
  | none =>
    rw [current?, hcurrent]
    exact atomic_answered_ok (navigateNext_ok_of_none hcurrent ctx skipValidation)
  | some id =>
    obtain ⟨s, hs⟩ := h.exists_current hcurrent
    rw [current?, hcurrent, Option.bind_some, hs, Option.bind_some, id_of_section? hs]
    obtain ⟨engine, ⟨hcomplete, hnext⟩ | ⟨⟨hskip, hincomplete⟩, ⟨hallow, hnext⟩ | ⟨hallow, hnext⟩⟩⟩ :=
      navigateNext_cases hcurrent hs ctx skipValidation
    · have hnone : (skipValidation || s.completeIn ctx || s.allowSkip) = true := by
        rcases hcomplete with hskip | hcomplete <;> simp [*]
      rw [if_pos hnone, hnext]
      exact atomic_answered_ok ⟨_, rfl⟩
    · rw [hallow, Bool.or_true, if_pos rfl, hnext]
      exact atomic_answered_ok ⟨_, rfl⟩
    · rw [hskip, hincomplete, hallow, if_neg (by decide), ← hskip, hnext]
      exact ⟨rfl, fun refusal hrefusal => by cases hrefusal; exact ⟨engine, rfl⟩⟩

theorem atomic_navigatePrevious (flow : Flow) (ctx : Context) :
    flow.Atomic (flow.refusal? (.navigatePrevious ctx)) (flow.attempt (.navigatePrevious ctx)) := by
  rw [attempt, refusal?, navigatePrevious]
  split
  · exact ⟨rfl, nofun⟩
  · exact ⟨rfl, fun refusal hrefusal => by cases hrefusal; exact ⟨flow.engine, rfl⟩⟩

theorem atomic_importState (flow : Flow) (text : String) :
    flow.Atomic (flow.refusal? (.importState text)) (flow.attempt (.importState text)) := by
  rw [attempt, refusal?, importStateText?]
  cases (Json.read? text).bind Wire.flowState? with
  | none => exact ⟨rfl, fun refusal hrefusal => by cases hrefusal; exact ⟨flow.engine, rfl⟩⟩
  | some state => exact ⟨rfl, nofun⟩

theorem Anchored.atomic (h : flow.Anchored) (request : Request) :
    flow.Atomic (flow.refusal? request) (flow.attempt request) := by
  cases request with
  | navigateTo ctx id => exact atomic_navigateTo flow ctx id
  | navigateNext ctx skipValidation => exact h.atomic_navigateNext ctx skipValidation
  | navigatePrevious ctx => exact atomic_navigatePrevious flow ctx
  | poll ctx now => exact atomic_answered_ok (h.poll_ok ctx now)
  | importState text => exact atomic_importState flow text

/-- Only a checked section is refused to be incomplete, and it is the current one. -/
theorem current_of_refusal? {request : Request} (h : flow.refusal? request = some (.failed (.incomplete id))) :
    flow.state.current? = some id ∧ ∃ ctx, request = .navigateNext ctx false := by
  cases request with
  | navigateNext ctx skipValidation =>
    obtain ⟨s, hs, hrefusal⟩ := Option.bind_eq_some_iff.mp h
    split at hrefusal
    · cases hrefusal
    · next hchecked =>
      cases hrefusal
      have hskip : skipValidation = false := by
        cases skipValidation with
        | true => exact absurd rfl hchecked
        | false => rfl
      exact ⟨id_of_current? hs, ctx, by rw [hskip]⟩
  | navigateTo ctx other =>
    rw [refusal?] at h
    split at h
    · split at h <;> cases h
    · cases h
  | navigatePrevious ctx => rw [refusal?] at h; split at h <;> cases h
  | poll ctx now => cases h
  | importState text => rw [refusal?] at h; split at h <;> cases h

end Flow

/-- Takes over a saved configuration if it can be read, and tells whether it could. -/
def Registry.restore (r : Registry) (text : String) : Bool × Registry :=
  match r.importText? text with
  | some restored => (true, restored)
  | none => (false, r)

theorem Registry.restore_of_unreadable {r : Registry} {text : String} (h : (r.restore text).1 = false) :
    (r.restore text).2 = r := by
  unfold Registry.restore at h ⊢
  split at h
  · cases h
  · rfl

namespace Flow

/-- A refused request leaves a flow as it is, whatever was done with it before, but that formulas were evaluated and
that listeners are told of an incomplete section, which is the current one and was to be left with a check. A
configuration that a registry cannot read leaves it as it is. -/
theorem refused_unchanged (options : FlowOptions) (operations : List Operation) :
    (∀ request refusal, ((run options operations).attempt request).1 = some refusal →
      (∃ engine, ((run options operations).attempt request).2 = { run options operations with
        engine, bus := refusal.events.foldl Bus.emit (run options operations).bus }) ∧
      ∀ id, refusal = .failed (.incomplete id) →
        (run options operations).state.current? = some id ∧ ∃ ctx, request = .navigateNext ctx false) ∧
    ∀ (r : Registry) (text : String), (r.restore text).1 = false → (r.restore text).2 = r := by
  refine ⟨fun request refusal h => ?_, fun r text => Registry.restore_of_unreadable⟩
  have hatomic := (anchored_run options operations).atomic request
  rw [hatomic.refusal_eq] at h
  refine ⟨hatomic.unchanged refusal h, ?_⟩
  rintro id rfl
  exact current_of_refusal? h

/-- A form whose first section waits to be left by itself and whose second one is hidden, with a listener that fails. -/
def waiting : List Operation :=
  [.register { id := "intro", fields := ["name"], autoAdvance := true, advanceDelay := 30 },
    .register { id := "extra", order := 1, showCondition? := some "[name]=1" },
    .subscribe (fun _ => true), .navigateNext (nameForm .null) false,
    .recalculate (nameForm (.text "Ada")) (.ofMillis 0)]

/-- The name is taken back, so the section is not left; the advance is still pending. -/
theorem refused_unchanged_waiting :
    let flow := run { allowBack := false } waiting
    let r := ({} : Registry).registerRule ⟨"name", "[name]", "Missing", .error, 0⟩
    flow.timer.pending? = some ⟨"intro", .ofMillis 30⟩ ∧
      (∃ engine, flow.attempt (.navigateNext (nameForm .null) false) = (some (.failed (.incomplete "intro")),
        { flow with engine, bus := flow.bus.emit (.validationFailed "intro") })) ∧
      (∃ engine, flow.attempt (.navigateTo (nameForm .null) "extra") =
        (some (.failed (.notVisible "extra")), { flow with engine })) ∧
      (∃ engine, flow.attempt (.navigatePrevious (nameForm .null)) =
        (some (.failed .backDisabled), { flow with engine })) ∧
      (∃ engine, flow.attempt (.importState "[") = (some .unreadable, { flow with engine })) ∧
      r.restore "\x7b\"validations\":[\x7b\"fieldId\":\"name\"\x7d]\x7d" = (false, r) := by
  intro flow r
  obtain ⟨hflow, hregistry⟩ := refused_unchanged { allowBack := false } waiting
  have hrefused : ∀ request refusal, (flow.attempt request).1 = some refusal → ∃ engine, flow.attempt request =
      (some refusal, { flow with engine, bus := refusal.events.foldl Bus.emit flow.bus }) := by
    intro request refusal h
    obtain ⟨⟨engine, hafter⟩, -⟩ := hflow request refusal h
    exact ⟨engine, Prod.ext h hafter⟩
  have hconfiguration : (r.restore "\x7b\"validations\":[\x7b\"fieldId\":\"name\"\x7d]\x7d").1 = false := by
    decide +kernel
  refine ⟨by decide +kernel, hrefused _ _ ?_, hrefused _ _ ?_, hrefused _ _ ?_, hrefused _ _ ?_,
    Prod.ext hconfiguration (hregistry r _ hconfiguration)⟩ <;> decide +kernel

end Flow

end FormRules

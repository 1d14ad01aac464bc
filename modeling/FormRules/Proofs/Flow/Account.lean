import FormRules.Proofs.Flow.Advance
import FormRules.Proofs.Flow.Delivery

/-!
# What events tell of a flow

Each call of a flow tells, first, the change of the current section if another one became current (`Event.ofChange`),
and then what is peculiar to the call: the outcome of going on (`Event.ofAnswer`), or the end of a recalculation
(`Accounts`, one lemma for each call). So from the events of a run and the section that was current at its beginning
one can tell the current section at any time (`replay_toldDuring`).

A listener that stays subscribed during a run is told of just these events, whoever else listens
(`received_foldl_step`).
-/

namespace FormRules

namespace Event

/-- The current section after an event, if `current?` was the one before. -/
def currentAfter (current? : Option String) : Event → Option String
  | sectionChanged _ after => some after
  | flowRecalculated after? _ => after?
  | _ => current?

/-- The current section after some events. -/
def replay (current? : Option String) (events : List Event) : Option String := events.foldl currentAfter current?

/-- The event of a change from one current section to another. -/
def ofChange (before? after? : Option String) : List Event :=
  match after? with
  | some after => if before? = some after then [] else [sectionChanged before? after]
  | none => []

def isChange : Event → Bool
  | sectionChanged _ _ => true
  | _ => false

/-- The events of going on with an answer, beside the change of the current section. -/
def ofAnswer (current? : Option String) (completed : List String) : Except FlowError (Option String) → List Event
  | .ok none => if current?.isSome then [formCompleted completed] else []
  | .error (.incomplete id) => [validationFailed id]
  | _ => []

variable {before? after? : Option String}

theorem ofChange_self (current? : Option String) : ofChange current? current? = [] := by
  cases current? with
  | none => rfl
  | some id => exact if_pos rfl

theorem length_ofChange_le (before? after? : Option String) : (ofChange before? after?).length ≤ 1 := by
  unfold ofChange
  split
  · split <;> simp
  · simp

theorem mem_ofChange {event : Event} : event ∈ ofChange before? after? ↔
    ∃ after, event = sectionChanged before? after ∧ after? = some after ∧ before? ≠ some after := by
  unfold ofChange
  split
  · next after =>
    by_cases hsame : before? = some after
    · simp [hsame]
    · simp only [hsame, ↓reduceIte, List.mem_singleton, Option.some.injEq]
      constructor
      · rintro rfl
        exact ⟨after, rfl, rfl, hsame⟩
      · rintro ⟨_, rfl, rfl, -⟩
        rfl
  · simp

theorem replay_append (current? : Option String) (events events' : List Event) :
    replay current? (events ++ events') = replay (replay current? events) events' :=
  List.foldl_append

theorem mem_ofAnswer {current? : Option String} {completed completed' : List String}
    {answer : Except FlowError (Option String)} : formCompleted completed' ∈ ofAnswer current? completed answer ↔
      current?.isSome = true ∧ answer = .ok none ∧ completed' = completed := by
  unfold ofAnswer
  split
  · by_cases hsome : current?.isSome = true <;> simp [hsome]
  · simp
  · next hnone _ => exact iff_of_false List.not_mem_nil fun h => hnone h.2.1

theorem not_change_of_mem_ofAnswer {current? : Option String} {completed : List String}
    {answer : Except FlowError (Option String)} {after : String} :
    sectionChanged before? after ∉ ofAnswer current? completed answer := by
  unfold ofAnswer
  split
  · split <;> simp
  · simp
  · simp

end Event

namespace Flow

open Formula (Context)

/-- The operation is a call of the flow that goes somewhere, looks at changed data, or polls. -/
def Operation.isCall : Operation → Bool
  | .navigateTo _ _ | .navigateNext _ _ | .navigatePrevious _ | .recalculate _ _ | .poll _ _ => true
  | _ => false

/-- The flow goes on from a current section and finds no next one. A poll goes on when an advance is justified. -/
def Completes (flow : Flow) : Operation → Prop
  | .navigateNext ctx skipValidation =>
    flow.state.current?.isSome = true ∧ (flow.navigateNext ctx skipValidation).1 = .ok none
  | .poll ctx now => (∃ advance s, flow.Justifies ctx now advance s) ∧
    flow.state.current?.isSome = true ∧ (flow.cancelAdvance.navigateNext ctx true).1 = .ok none
  | _ => False

/-- The second flow is the first one after the change of the current section, if there is one, and then `rest` were
told; and these events tell the current section. -/
structure Accounts (flow flow' : Flow) (rest : List Event) : Prop where
  bus_eq : flow'.bus =
    (Event.ofChange flow.state.current? flow'.state.current? ++ rest).foldl Bus.emit flow.bus
  replay_eq : Event.replay flow.state.current?
    (Event.ofChange flow.state.current? flow'.state.current? ++ rest) = flow'.state.current?

variable {flow flow' : Flow} {ctx : Context} {now : Instant} {id : String} {rest : List Event}

/-! ### What each call tells -/

theorem accounts_of_same (hcurrent : flow'.state.current? = flow.state.current?)
    (hbus : flow'.bus = rest.foldl Bus.emit flow.bus)
    (hrest : Event.replay flow.state.current? rest = flow.state.current?) : Accounts flow flow' rest := by
  constructor
  · rw [hcurrent, Event.ofChange_self, List.nil_append, hbus]
  · rw [hcurrent, Event.ofChange_self, List.nil_append, hrest]

/-- Before a call, other things may change than the current section and the listeners. -/
theorem Accounts.from {flow₀ : Flow} (h : Accounts flow₀ flow' rest)
    (hcurrent : flow₀.state.current? = flow.state.current?) (hbus : flow₀.bus = flow.bus) :
    Accounts flow flow' rest := by
  constructor
  · rw [← hcurrent, ← hbus]
    exact h.bus_eq
  · rw [← hcurrent]
    exact h.replay_eq

theorem accounts_enter (flow : Flow) (id : String) (remember : Bool) :
    Accounts flow (flow.enter id remember) [] := by
  by_cases hcurrent : flow.state.current? = some id
  · rw [enter_of_current hcurrent]
    exact accounts_of_same rfl rfl rfl
  · have hchange : Event.ofChange flow.state.current? (some id) = [.sectionChanged flow.state.current? id] :=
      if_neg hcurrent
    rw [enter_of_ne hcurrent]
    constructor
    · show flow.bus.emit (.sectionChanged flow.state.current? id) =
        (Event.ofChange flow.state.current? (some id) ++ []).foldl Bus.emit flow.bus
      rw [hchange]
      rfl
    · show Event.replay flow.state.current? (Event.ofChange flow.state.current? (some id) ++ []) = some id
      rw [hchange]
      rfl

theorem accounts_navigateTo (flow : Flow) (ctx : Context) (id : String) :
    Accounts flow (flow.navigateTo ctx id).2 [] := by
  obtain ⟨engine, hvisible⟩ := isVisible_eq flow ctx id
  unfold navigateTo
  split
  · rw [hvisible]
    dsimp only
    split
    · exact (accounts_enter { flow with engine } id true).from rfl rfl
    · exact accounts_of_same rfl rfl rfl
  · exact accounts_of_same rfl rfl rfl

/-- Leaving a section for the next one tells the change alone, and behind the last one the completion. -/
theorem accounts_leave (h : flow.state.current?.isSome = true) (shown : List (Section × Bool)) (current : String) :
    Accounts flow (flow.leave shown current).2 (Event.ofAnswer flow.state.current?
      (flow.leave shown current).2.state.completed.toList (.ok (nextShown? shown current))) := by
  cases hnext : nextShown? shown current with
  | some next =>
    rw [leave_next hnext]
    exact accounts_enter flow next true
  | none =>
    rw [leave_last hnext, Event.ofAnswer, if_pos h]
    exact accounts_of_same rfl rfl rfl

theorem Anchored.accounts_navigateNext (h : flow.Anchored) (ctx : Context) (skipValidation : Bool) :
    Accounts flow (flow.navigateNext ctx skipValidation).2 (Event.ofAnswer flow.state.current?
      (flow.navigateNext ctx skipValidation).2.state.completed.toList
      (flow.navigateNext ctx skipValidation).1) := by
  cases hcurrent : flow.state.current? with
  | none =>
    cases hfirst : firstShown? (flow.shown ctx) with
    | some id =>
      obtain ⟨engine, hnext⟩ := navigateNext_of_none hcurrent hfirst skipValidation
      rw [hnext]
      exact (accounts_enter { flow with engine } id true).from rfl rfl
    | none =>
      obtain ⟨engine, hsurvey⟩ := survey_eq flow ctx
      have hnext : flow.navigateNext ctx skipValidation = (.ok none, { flow with engine }) := by
        simp only [navigateNext, hsurvey, hcurrent, hfirst]
      rw [hnext]
      exact accounts_of_same rfl rfl rfl
  | some id =>
    obtain ⟨s, hs⟩ := h.exists_current hcurrent
    have hsome : flow.state.current?.isSome = true := by rw [hcurrent]; rfl
    rw [← hcurrent]
    obtain ⟨engine, ⟨-, hnext⟩ | ⟨-, ⟨-, hnext⟩ | ⟨-, hnext⟩⟩⟩ :=
      navigateNext_cases hcurrent hs ctx skipValidation
    · have hleave := @accounts_leave ({ flow with engine }.markCompleted id) hsome (flow.shown ctx) id
      rw [hnext]
      exact hleave.from rfl rfl
    · rw [hnext]
      exact (@accounts_leave { flow with engine } hsome (flow.shown ctx) id).from rfl rfl
    · rw [hnext]
      exact accounts_of_same rfl rfl rfl

theorem accounts_goBack (flow : Flow) (ctx : Context) (history : List String) :
    Accounts flow (flow.goBack ctx history).2 [] := by
  induction history generalizing flow with
  | nil => exact accounts_of_same rfl rfl rfl
  | cons id rest ih =>
    obtain ⟨engine, hvisible⟩ := isVisible_eq flow ctx id
    unfold goBack
    split
    · exact ih flow
    · rw [hvisible]
      dsimp only
      split
      · exact (accounts_enter { flow with engine, state := { flow.state with history := rest } } id false).from rfl rfl
      · exact (ih { flow with engine }).from rfl rfl

theorem accounts_navigatePrevious (flow : Flow) (ctx : Context) : Accounts flow (flow.navigatePrevious ctx).2 [] := by
  unfold navigatePrevious
  split
  · exact accounts_goBack flow ctx flow.state.history
  · exact accounts_of_same rfl rfl rfl

/-- A flow that settles tells of the section that takes the place of a hidden one; that none does is not told. -/
theorem bus_settle (flow : Flow) (shown : List (Section × Bool)) : (flow.settle shown).bus =
    (Event.ofChange flow.state.current? (flow.settle shown).state.current?).foldl Bus.emit flow.bus := by
  have hsame : flow.bus = (Event.ofChange flow.state.current? flow.state.current?).foldl Bus.emit flow.bus := by
    rw [Event.ofChange_self]
    rfl
  unfold settle
  split
  · exact hsame
  · next current hcurrent =>
    split
    · exact hsame
    · split
      · next id _ =>
        have henter := (accounts_enter flow id false).bus_eq
        rwa [List.append_nil] at henter
      · rfl

/-- A recalculation ends by telling the current section, and which sections are visible. -/
theorem accounts_recalculate (flow : Flow) (ctx : Context) (now : Instant) :
    Accounts flow (flow.recalculate ctx now) [.flowRecalculated (flow.recalculate ctx now).state.current?
      ((flow.visibleSections ctx).1.map Section.id)] := by
  obtain ⟨engine, timer, hupdate, -⟩ := updateAdvance_eq (flow.settled ctx) ctx now
  obtain ⟨engine', hsurvey⟩ := survey_eq flow ctx
  have hvisible : (flow.visibleSections ctx).1.map Section.id = ((flow.shown ctx).filter (·.2)).map (·.1.id) :=
    (shownIds_shown flow ctx).symm
  have hbus := bus_settle (flow.survey ctx).2 (flow.survey ctx).1
  have hresult : flow.recalculate ctx now = { flow.settled ctx with engine, timer }.emit (.flowRecalculated
      (flow.settled ctx).state.current? ((flow.visibleSections ctx).1.map Section.id)) := by
    rw [recalculate_eq, hupdate, hsurvey, hvisible]
  rw [hresult]
  constructor
  · show (flow.settled ctx).bus.emit _ = _
    rw [settled, hbus, List.foldl_append, hsurvey]
    rfl
  · rw [Event.replay_append]
    rfl

/-- A poll that performs an advance goes on without a check. -/
theorem Justifies.poll_eq_navigateNext {advance : Advance} {s : Section} (h : flow.Justifies ctx now advance s) :
    ∃ engine, flow.poll ctx now = { flow.cancelAdvance with engine }.navigateNext ctx true := by
  obtain ⟨engine, hpoll⟩ := poll_of_due h.pending h.due ctx
  refine ⟨engine, ?_⟩
  rw [hpoll, if_pos]
  · rfl
  · rw [← h.left, h.asks.1, Option.any_some, h.advances, h.current]
    simp

/-- Going on from there leads to the next visible section, whatever was compiled before. -/
theorem Justifies.navigateNext_fst {advance : Advance} {s : Section} (h : flow.Justifies ctx now advance s)
    (engine : Formula.Engine) :
    ({ flow.cancelAdvance with engine }.navigateNext ctx true).1 = .ok (nextShown? (flow.shown ctx) s.id) := by
  obtain ⟨engine', hnext⟩ := @navigateNext_of_complete { flow.cancelAdvance with engine } ctx s.id s true
    h.current h.asks.1 (.inl rfl)
  rw [hnext]
  rfl

theorem Anchored.accounts_poll (h : flow.Anchored) {advance : Advance} {s : Section}
    (hjustifies : flow.Justifies ctx now advance s) : Accounts flow (flow.poll ctx now).2 (Event.ofAnswer
      flow.state.current? (flow.poll ctx now).2.state.completed.toList (.ok (nextShown? (flow.shown ctx) s.id))) := by
  obtain ⟨engine, hpoll⟩ := hjustifies.poll_eq_navigateNext
  have hready : ({ flow.cancelAdvance with engine } : Flow).Anchored := ⟨h.within, nofun⟩
  have haccounts := hready.accounts_navigateNext ctx true
  rw [hjustifies.navigateNext_fst] at haccounts
  rw [hpoll]
  exact haccounts.from rfl rfl

theorem accounts_poll_of_unjustified (h : ∀ advance s, ¬ flow.Justifies ctx now advance s) :
    Accounts flow (flow.poll ctx now).2 [] := by
  obtain ⟨engine, timer, hpoll⟩ := poll_of_unjustified h
  rw [hpoll]
  exact accounts_of_same rfl rfl rfl

/-! ### The events of a call -/

/-- What a call tells beside a change of the current section: no further change, a completed form exactly where the
flow completes it, and the end of a recalculation. -/
structure Concerns (flow : Flow) (call : Operation) (rest : List Event) : Prop where
  unchanged : ∀ before? after, .sectionChanged before? after ∉ rest
  completed : ∀ completed, .formCompleted completed ∈ rest ↔
    flow.Completes call ∧ completed = (flow.step call).state.completed.toList
  recalculated : ∀ ctx now, call = .recalculate ctx now → rest =
    [.flowRecalculated (flow.step call).state.current? ((flow.visibleSections ctx).1.map Section.id)]

/-- Who listens has no influence on the state. -/
theorem state_step_onBus {operation : Operation} (hkeeps : operation.keepsListeners = true) (bus : Bus) :
    ({ flow with bus }.step operation).state = (flow.step operation).state :=
  (Alongside.step (⟨[], rfl, rfl⟩ : Alongside flow.bus bus flow { flow with bus }) hkeeps).state_eq

theorem keepsListeners_of_isCall {operation : Operation} (h : operation.isCall = true) :
    operation.keepsListeners = true := by
  cases operation <;> first | rfl | cases h

theorem told_of_accounts {operation : Operation} (hkeeps : operation.keepsListeners = true)
    (h : Accounts { flow with bus := .single } ({ flow with bus := .single }.step operation) rest) :
    flow.told operation = Event.ofChange flow.state.current? (flow.step operation).state.current? ++ rest := by
  rw [told, h.bus_eq, state_step_onBus hkeeps]
  exact Bus.received_foldl_emit _

theorem concerns_nil {call : Operation} (hcompletes : ¬ flow.Completes call)
    (hcall : ∀ ctx now, call ≠ .recalculate ctx now) : flow.Concerns call [] where
  unchanged _ _ := List.not_mem_nil
  completed _ := iff_of_false List.not_mem_nil fun h => hcompletes h.1
  recalculated ctx now h := absurd h (hcall ctx now)

theorem concerns_ofAnswer {call : Operation} {answer : Except FlowError (Option String)}
    (hcompletes : flow.Completes call ↔ flow.state.current?.isSome = true ∧ answer = .ok none)
    (hcall : ∀ ctx now, call ≠ .recalculate ctx now) : flow.Concerns call
      (Event.ofAnswer flow.state.current? (flow.step call).state.completed.toList answer) where
  unchanged before? after := Event.not_change_of_mem_ofAnswer
  completed completed := by rw [Event.mem_ofAnswer, hcompletes, and_assoc]
  recalculated ctx now h := absurd h (hcall ctx now)

theorem Anchored.told_call (h : flow.Anchored) {call : Operation} (hcall : call.isCall = true) :
    ∃ rest, Accounts { flow with bus := .single } ({ flow with bus := .single }.step call) rest ∧
      flow.Concerns call rest := by
  have hstate : ({ flow with bus := .single }.step call).state = (flow.step call).state :=
    state_step_onBus (keepsListeners_of_isCall hcall) .single
  have hsingle : ({ flow with bus := .single } : Flow).Anchored := ⟨h.within, h.pending⟩
  cases call with
  | navigateTo ctx id => exact ⟨[], accounts_navigateTo _ ctx id, concerns_nil (fun h => h) nofun⟩
  | navigatePrevious ctx => exact ⟨[], accounts_navigatePrevious _ ctx, concerns_nil (fun h => h) nofun⟩
  | navigateNext ctx skipValidation =>
    have haccounts := hsingle.accounts_navigateNext ctx skipValidation
    have hanswer := (Alongside.navigateNext
      (⟨[], rfl, rfl⟩ : Alongside flow.bus .single flow { flow with bus := .single }) ctx skipValidation).1
    dsimp only [Flow.step] at hstate
    rw [hanswer, hstate] at haccounts
    exact ⟨_, haccounts, concerns_ofAnswer Iff.rfl nofun⟩
  | recalculate ctx now =>
    have haccounts := accounts_recalculate { flow with bus := .single } ctx now
    dsimp only [Flow.step] at hstate
    rw [hstate] at haccounts
    refine ⟨_, haccounts, by simp, fun completed => iff_of_false (by simp) And.left, ?_⟩
    rintro ctx' now' ⟨⟩
    rfl
  | poll ctx now =>
    by_cases hjustified : ∃ advance s, flow.Justifies ctx now advance s
    · obtain ⟨advance, s, hjustifies⟩ := hjustified
      have haccounts := hsingle.accounts_poll (hjustifies.onBus .single)
      dsimp only [Flow.step] at hstate
      rw [hstate] at haccounts
      refine ⟨_, haccounts, concerns_ofAnswer ?_ nofun⟩
      have hanswer : (flow.cancelAdvance.navigateNext ctx true).1 = .ok (nextShown? (flow.shown ctx) s.id) :=
        hjustifies.navigateNext_fst flow.engine
      rw [Completes, and_iff_right ⟨advance, s, hjustifies⟩, hanswer]
      rfl
    · simp only [not_exists] at hjustified
      have hsingle' : ∀ advance s, ¬ ({ flow with bus := .single } : Flow).Justifies ctx now advance s :=
        fun advance s hjustifies => hjustified advance s (hjustifies.onBus flow.bus)
      refine ⟨[], accounts_poll_of_unjustified hsingle', concerns_nil ?_ nofun⟩
      rintro ⟨⟨advance, s, hjustifies⟩, -⟩
      exact hjustified advance s hjustifies
  | _ => cases hcall

/-- The events of a call: the change of the current section, if there is one, and then what is peculiar to it. -/
theorem Anchored.told_eq (h : flow.Anchored) {call : Operation} (hcall : call.isCall = true) :
    ∃ rest, flow.told call = Event.ofChange flow.state.current? (flow.step call).state.current? ++ rest ∧
      flow.Concerns call rest := by
  obtain ⟨rest, haccounts, hconcerns⟩ := h.told_call hcall
  exact ⟨rest, told_of_accounts (keepsListeners_of_isCall hcall) haccounts, hconcerns⟩

theorem Anchored.replay_told (h : flow.Anchored) {call : Operation} (hcall : call.isCall = true) :
    Event.replay flow.state.current? (flow.told call) = (flow.step call).state.current? := by
  have hkeeps := keepsListeners_of_isCall hcall
  obtain ⟨rest, haccounts, -⟩ := h.told_call hcall
  have hreplay := haccounts.replay_eq
  rw [state_step_onBus hkeeps] at hreplay
  rw [told_of_accounts hkeeps haccounts]
  exact hreplay

/-! ### The events of a run -/

theorem told_of_not_keepsListeners {operation : Operation} (h : operation.keepsListeners = false) :
    flow.told operation = [] := by
  cases operation <;> first | rfl | cases h

/-- An operation on the listeners changes the bus alone. -/
theorem step_of_not_keepsListeners {operation : Operation} (h : operation.keepsListeners = false) :
    flow.step operation = { flow with bus := (flow.step operation).bus } := by
  cases operation <;> first | rfl | cases h

theorem toldDuring_onBus (flow : Flow) (bus : Bus) (operations : List Operation) :
    ({ flow with bus } : Flow).toldDuring operations = flow.toldDuring operations := by
  induction operations generalizing flow bus with
  | nil => rfl
  | cons operation rest ih =>
    have hstep : ∃ bus', ({ flow with bus } : Flow).step operation = { flow.step operation with bus := bus' } := by
      cases hkeeps : operation.keepsListeners with
      | true =>
        obtain ⟨events, -, heq⟩ := Alongside.step
          (⟨[], rfl, rfl⟩ : Alongside flow.bus bus flow { flow with bus }) hkeeps
        exact ⟨_, heq⟩
      | false =>
        rw [step_of_not_keepsListeners hkeeps, @step_of_not_keepsListeners flow operation hkeeps]
        exact ⟨_, rfl⟩
    obtain ⟨bus', hbus'⟩ := hstep
    show flow.told operation ++ (({ flow with bus } : Flow).step operation).toldDuring rest = _
    rw [hbus', ih]
    rfl

/-- Whoever begins or ceases to listen, the events of a run are those of its other operations. -/
theorem toldDuring_filter (flow : Flow) (operations : List Operation) :
    flow.toldDuring (operations.filter (·.keepsListeners)) = flow.toldDuring operations := by
  induction operations generalizing flow with
  | nil => rfl
  | cons operation rest ih =>
    cases hkeeps : operation.keepsListeners with
    | true =>
      rw [List.filter_cons_of_pos hkeeps, toldDuring, toldDuring, ih]
    | false =>
      have hrest : (flow.step operation).toldDuring rest = flow.toldDuring rest := by
        rw [step_of_not_keepsListeners hkeeps, toldDuring_onBus]
      rw [List.filter_cons_of_neg (by simp [hkeeps]), ih, toldDuring, told_of_not_keepsListeners hkeeps, hrest,
        List.nil_append]

theorem numbered_step (h : flow.bus.Numbered) (operation : Operation) : (flow.step operation).bus.Numbered := by
  cases hkeeps : operation.keepsListeners with
  | true =>
    rw [bus_step hkeeps]
    exact h.foldl_emit _
  | false =>
    cases operation with
    | subscribe failsOn => exact h.subscribe failsOn
    | unsubscribe id => exact h.unsubscribe id
    | _ => cases hkeeps

theorem numbered_run (options : FlowOptions) (operations : List Operation) : (run options operations).bus.Numbered :=
  List.foldlRecOn operations step (motive := fun flow : Flow => flow.bus.Numbered) Bus.numbered_empty
    fun _ h operation _ => numbered_step h operation

/-- A listener that is not unsubscribed is told of just the events of an operation, and stays subscribed. -/
theorem received_step {listener : Nat} (h : flow.bus.Numbered) (hid : flow.bus.isSubscribed listener = true)
    {operation : Operation} (hstays : operation ≠ .unsubscribe listener) :
    (flow.step operation).bus.received [listener] = flow.bus.received [listener] ++ flow.told operation ∧
      (flow.step operation).bus.isSubscribed listener = true := by
  cases hkeeps : operation.keepsListeners with
  | true =>
    rw [bus_step hkeeps, Bus.isSubscribed_foldl_emit]
    exact ⟨h.received_foldl_emit hid _, hid⟩
  | false =>
    rw [told_of_not_keepsListeners hkeeps, List.append_nil]
    cases operation with
    | subscribe failsOn => exact ⟨Bus.received_subscribe _ _ _, Bus.isSubscribed_subscribe hid failsOn⟩
    | unsubscribe other =>
      have hne : listener ≠ other := fun heq => hstays (heq ▸ rfl)
      exact ⟨Bus.received_unsubscribe _ _ _, Bus.isSubscribed_unsubscribe hid hne⟩
    | _ => cases hkeeps

/-- A listener that stays subscribed during a run is told of its events in their order. -/
theorem received_foldl_step {listener : Nat} {operations : List Operation} (h : flow.bus.Numbered)
    (hid : flow.bus.isSubscribed listener = true) (hstays : .unsubscribe listener ∉ operations) :
    (operations.foldl step flow).bus.received [listener] =
      flow.bus.received [listener] ++ flow.toldDuring operations := by
  induction operations generalizing flow with
  | nil => simp [toldDuring]
  | cons operation rest ih =>
    rw [List.mem_cons, not_or] at hstays
    have hother : operation ≠ .unsubscribe listener := fun heq => hstays.1 heq.symm
    obtain ⟨hreceived, hid'⟩ := received_step h hid hother
    rw [List.foldl_cons, ih (numbered_step h operation) hid' hstays.2, hreceived, toldDuring, List.append_assoc]

/-- The operation is a call, or it has to do with listeners alone. -/
def Operation.isCallOrSubscription (operation : Operation) : Bool := operation.isCall || !operation.keepsListeners

theorem Anchored.replay_toldDuring (h : flow.Anchored) {operations : List Operation}
    (hcalls : ∀ operation ∈ operations, operation.isCallOrSubscription = true) :
    Event.replay flow.state.current? (flow.toldDuring operations) =
      (operations.foldl Flow.step flow).state.current? := by
  induction operations generalizing flow with
  | nil => rfl
  | cons operation rest ih =>
    obtain ⟨hoperation, hrest⟩ := List.forall_mem_cons.mp hcalls
    have hstep : Event.replay flow.state.current? (flow.told operation) = (flow.step operation).state.current? := by
      cases hcall : operation.isCall with
      | true => exact h.replay_told hcall
      | false =>
        have hkeeps : operation.keepsListeners = false := by
          simpa [Operation.isCallOrSubscription, hcall] using hoperation
        rw [told_of_not_keepsListeners hkeeps, step_of_not_keepsListeners hkeeps]
        rfl
    rw [toldDuring, Event.replay_append, hstep, ih (h.step operation) hrest]
    rfl

/-- In every reachable flow each call tells of at most one change of the current section, exactly when it makes
another section current, and of which to which; it tells of a completed form exactly when going on from a current
section finds no next one; and a recalculation ends by telling the current section and the visible ones in the order
of the form, once. So during calls the events of a run tell the current section at its end, and a listener that stays
subscribed is told of these events, in order, whoever else begins or ceases to listen and whether any listener
fails. -/
theorem events_account_for_calls (options : FlowOptions) (operations : List Operation) :
    let flow := run options operations
    (∀ call : Operation, call.isCall = true →
      (∀ before? after, .sectionChanged before? after ∈ flow.told call ↔ before? = flow.state.current? ∧
        (flow.step call).state.current? = some after ∧ before? ≠ some after) ∧
      (flow.told call).countP Event.isChange ≤ 1 ∧
      (∀ completed, .formCompleted completed ∈ flow.told call ↔
        flow.Completes call ∧ completed = (flow.step call).state.completed.toList) ∧
      ∀ ctx now, call = .recalculate ctx now → ∃ front, flow.told call = front ++ [.flowRecalculated
          (flow.step call).state.current? ((flow.visibleSections ctx).1.map Section.id)] ∧
        ∀ current? visible, .flowRecalculated current? visible ∉ front) ∧
    ∀ calls : List Operation, (∀ call ∈ calls, call.isCallOrSubscription = true) →
      Event.replay flow.state.current? (flow.toldDuring calls) = (calls.foldl step flow).state.current? ∧
      ∀ listener, flow.bus.isSubscribed listener = true → .unsubscribe listener ∉ calls →
        (calls.foldl step flow).bus.received [listener] =
          flow.bus.received [listener] ++ flow.toldDuring (calls.filter (·.keepsListeners)) := by
  intro flow
  have hanchored : flow.Anchored := anchored_run options operations
  refine ⟨fun call hcall => ?_, fun calls hcalls => ⟨hanchored.replay_toldDuring hcalls, ?_⟩⟩
  · obtain ⟨rest, htold, hconcerns⟩ := hanchored.told_eq hcall
    have hnochange : rest.countP Event.isChange = 0 := by
      refine List.countP_eq_zero.mpr fun event hevent hchange => ?_
      cases event with
      | sectionChanged before? after => exact hconcerns.unchanged before? after hevent
      | _ => cases hchange
    refine ⟨fun before? after => ?_, ?_, fun completed => ?_, ?_⟩
    · rw [htold, List.mem_append, or_iff_left (hconcerns.unchanged before? after), Event.mem_ofChange]
      constructor
      · rintro ⟨after, ⟨⟩, hafter, hne⟩
        exact ⟨rfl, hafter, hne⟩
      · rintro ⟨rfl, hafter, hne⟩
        exact ⟨after, rfl, hafter, hne⟩
    · rw [htold, List.countP_append, hnochange, Nat.add_zero]
      exact List.countP_le_length.trans (Event.length_ofChange_le _ _)
    · rw [htold, List.mem_append, or_iff_right, hconcerns.completed]
      intro hmem
      obtain ⟨after, heq, -⟩ := Event.mem_ofChange.mp hmem
      cases heq
    · intro ctx now hrecalculate
      refine ⟨_, by rw [htold, hconcerns.recalculated ctx now hrecalculate], fun current? visible hmem => ?_⟩
      obtain ⟨after, heq, -⟩ := Event.mem_ofChange.mp hmem
      cases heq
  · intro listener hid hstays
    rw [toldDuring_filter]
    exact received_foldl_step (numbered_run options operations) hid hstays

/-- Two sections, the first one to be left by itself after ten milliseconds, and two listeners, the first of which
fails on all events. -/
def overheard : List Operation :=
  [.register { id := "first", fields := ["name"], autoAdvance := true, advanceDelay := 10 },
    .register { id := "second", order := 1 },
    .subscribe fun _ => true, .subscribe fun _ => false]

/-- While one listener comes and another one goes, the form is walked through and completed. -/
def walkthrough : List Operation :=
  [.subscribe fun _ => true, .navigateNext (nameForm .null) false, .navigateNext (nameForm .null) false,
    .recalculate (nameForm (.text "Ada")) (.ofMillis 0), .unsubscribe 1,
    .poll (nameForm (.text "Ada")) (.ofMillis 10), .navigateNext (nameForm (.text "Ada")) false]

/-- The second listener is told of each call, once, and these events lead to the section that is current at the end. -/
theorem events_account_for_calls_overheard :
    let flow := run {} overheard
    (∀ call ∈ walkthrough, call.isCallOrSubscription = true) ∧ flow.bus.isSubscribed 2 = true ∧
      Operation.unsubscribe 2 ∉ walkthrough ∧
      Event.replay none (flow.toldDuring walkthrough) = some "second" ∧
      (walkthrough.foldl step flow).bus.received [2] =
        [.sectionChanged none "first", .validationFailed "first", .flowRecalculated (some "first") ["first", "second"],
          .sectionChanged (some "first") "second", .formCompleted ["first", "second"]] ∧
      (.sectionChanged none "first" ∈ flow.told (.navigateNext (nameForm .null) false) ↔
        (flow.step (.navigateNext (nameForm .null) false)).state.current? = some "first") := by
  intro flow
  have hcalls : ∀ call ∈ walkthrough, call.isCallOrSubscription = true := by decide
  have hlistens : flow.bus.isSubscribed 2 = true := by decide +kernel
  have hstays : Operation.unsubscribe 2 ∉ walkthrough := by simp [walkthrough]
  obtain ⟨hcall, hrun⟩ := events_account_for_calls {} overheard
  obtain ⟨hreplay, hreceived⟩ := hrun walkthrough hcalls
  obtain ⟨hchange, -⟩ := hcall (.navigateNext (nameForm .null) false) rfl
  refine ⟨hcalls, hlistens, hstays, hreplay.trans (by decide +kernel), ?_, ?_⟩
  · rw [hreceived 2 hlistens hstays]
    decide +kernel
  · rw [hchange none "first"]
    decide +kernel

end Flow

end FormRules

import FormRules.Proofs.Flow.Run

/-!
# What listeners are told

Two flows that differ in their listeners alone do so after each operation, and both have told the same events
(`Alongside`). So a single listener, that never fails, shows what an operation tells (`Flow.told`), and all
listeners of a flow are told of just these events, one operation after the other (`bus_foldl_step`).
-/

namespace FormRules

namespace Bus

/-- A bus with a single listener, that never fails. -/
def single : Bus := ({} : Bus).subscribe fun _ => false

theorem received_foldl_emit (events : List Event) : (events.foldl emit single).received [1] = events := by
  have h : ∀ bus : Bus, bus.listeners = single.listeners →
      (events.foldl emit bus).received [1] = bus.received [1] ++ events := by
    induction events with
    | nil => simp
    | cons event rest ih =>
      intro bus hbus
      have hemit : (bus.emit event).received [1] = bus.received [1] ++ [event] := by
        simp [received, emit, hbus, single, subscribe]
      rw [List.foldl_cons, ih (bus.emit event) hbus, hemit, List.append_assoc]
      rfl
  exact h single rfl

end Bus

namespace Flow

open Formula (Context)

/-- The operation leaves the listeners as they are. -/
def Operation.keepsListeners : Operation → Bool
  | .subscribe _ => false
  | .unsubscribe _ => false
  | _ => true

/-- The events that an operation tells. -/
def told (flow : Flow) (operation : Operation) : List Event :=
  ({ flow with bus := .single }.step operation).bus.received [1]

theorem told_of_emit {flow : Flow} {operation : Operation} {event : Event}
    (h : ({ flow with bus := .single }.step operation).bus = Bus.single.emit event) :
    flow.told operation = [event] := by
  rw [told, h]
  exact Bus.received_foldl_emit [event]

/-- The events that some operations tell, one after the other. -/
def toldDuring (flow : Flow) : List Operation → List Event
  | [] => []
  | operation :: rest => flow.told operation ++ (flow.step operation).toldDuring rest

/-- Two flows differ in the bus alone, and the same was told on the buses that they began with. -/
def Alongside (bus bus' : Bus) (flow flow' : Flow) : Prop :=
  ∃ events : List Event, flow.bus = events.foldl Bus.emit bus ∧
    flow' = { flow with bus := events.foldl Bus.emit bus' }

variable {bus bus' : Bus} {flow flow' : Flow} {ctx : Context}

theorem Alongside.state_eq (h : Alongside bus bus' flow flow') : flow'.state = flow.state := by
  obtain ⟨events, -, rfl⟩ := h
  rfl

theorem Alongside.timer_eq (h : Alongside bus bus' flow flow') : flow'.timer = flow.timer := by
  obtain ⟨events, -, rfl⟩ := h
  rfl

theorem Alongside.section?_eq (h : Alongside bus bus' flow flow') (id : String) :
    flow'.section? id = flow.section? id := by
  obtain ⟨events, -, rfl⟩ := h
  rfl

theorem Alongside.emit (h : Alongside bus bus' flow flow') (event : Event) :
    Alongside bus bus' (flow.emit event) (flow'.emit event) := by
  obtain ⟨events, hbus, rfl⟩ := h
  refine ⟨events ++ [event], ?_, ?_⟩
  · rw [List.foldl_append, ← hbus]
    rfl
  · rw [List.foldl_append]
    rfl

/-- A step that leaves the bus as it is. -/
theorem Alongside.silent (h : Alongside bus bus' flow flow') (quiet : Flow → Flow)
    (hquiet : ∀ flow bus, quiet { flow with bus } = { quiet flow with bus }) :
    Alongside bus bus' (quiet flow) (quiet flow') := by
  obtain ⟨events, hbus, rfl⟩ := h
  refine ⟨events, ?_, hquiet flow _⟩
  have hown := congrArg Flow.bus (hquiet flow flow.bus)
  exact hown.trans hbus

theorem Alongside.survey (h : Alongside bus bus' flow flow') (ctx : Context) :
    (flow'.survey ctx).1 = (flow.survey ctx).1 ∧ Alongside bus bus' (flow.survey ctx).2 (flow'.survey ctx).2 := by
  refine ⟨?_, h.silent (fun f => (f.survey ctx).2) fun _ _ => rfl⟩
  obtain ⟨events, -, rfl⟩ := h
  rfl

theorem Alongside.ask (h : Alongside bus bus' flow flow') (id : String)
    (question : Section → Formula.Engine → Bool × Formula.Engine) :
    (flow'.ask id question).1 = (flow.ask id question).1 ∧
      Alongside bus bus' (flow.ask id question).2 (flow'.ask id question).2 := by
  obtain ⟨events, hbus, rfl⟩ := h
  unfold Flow.ask
  have hsame : ({ flow with bus := events.foldl Bus.emit bus' } : Flow).section? id = flow.section? id := rfl
  rw [hsame]
  cases flow.section? id with
  | none => exact ⟨rfl, events, hbus, rfl⟩
  | some s => exact ⟨rfl, events, hbus, rfl⟩

theorem Alongside.enter (h : Alongside bus bus' flow flow') (id : String) (remember : Bool) :
    Alongside bus bus' (flow.enter id remember) (flow'.enter id remember) := by
  have hstate := h.state_eq
  by_cases hcurrent : flow.state.current? = some id
  · rwa [enter_of_current hcurrent, enter_of_current (hstate ▸ hcurrent)]
  · rw [enter_of_ne hcurrent, enter_of_ne (hstate ▸ hcurrent), hstate]
    exact (h.emit _).silent (fun f =>
      { f with state := flow.state.entered id remember, timer := f.timer.keptFor id }) fun _ _ => rfl

theorem Alongside.leave (h : Alongside bus bus' flow flow') (shown : List (Section × Bool)) (current : String) :
    (flow'.leave shown current).1 = (flow.leave shown current).1 ∧
      Alongside bus bus' (flow.leave shown current).2 (flow'.leave shown current).2 := by
  have hcompleted : flow'.cancelAdvance.state = flow.cancelAdvance.state := h.state_eq
  unfold Flow.leave
  cases nextShown? shown current with
  | some id => exact ⟨rfl, h.enter id true⟩
  | none =>
    dsimp only
    rw [hcompleted]
    exact ⟨rfl, (h.silent cancelAdvance fun _ _ => rfl).emit _⟩

theorem Alongside.navigateTo (h : Alongside bus bus' flow flow') (ctx : Context) (id : String) :
    Alongside bus bus' (flow.navigateTo ctx id).2 (flow'.navigateTo ctx id).2 := by
  have hregistered : flow'.isRegistered id = flow.isRegistered id := by
    rw [← section?_isSome, ← section?_isSome, h.section?_eq]
  obtain ⟨hanswer, hasked⟩ := h.ask id (·.isVisible ctx)
  unfold Flow.navigateTo
  rw [hregistered]
  split
  · dsimp only [Flow.isVisible]
    rw [hanswer]
    split
    · exact hasked.enter id true
    · exact hasked
  · exact h

theorem Alongside.navigateNext (h : Alongside bus bus' flow flow') (ctx : Context) (skipValidation : Bool) :
    (flow'.navigateNext ctx skipValidation).1 = (flow.navigateNext ctx skipValidation).1 ∧
      Alongside bus bus' (flow.navigateNext ctx skipValidation).2 (flow'.navigateNext ctx skipValidation).2 := by
  obtain ⟨hshown, hsurveyed⟩ := h.survey ctx
  unfold Flow.navigateNext
  generalize flow.survey ctx = surveyed at hshown hsurveyed ⊢
  generalize flow'.survey ctx = surveyed' at hshown hsurveyed ⊢
  obtain ⟨shown, flow⟩ := surveyed
  obtain ⟨shown', flow'⟩ := surveyed'
  dsimp only at hshown hsurveyed ⊢
  subst hshown
  rw [hsurveyed.state_eq]
  cases flow.state.current? with
  | none =>
    dsimp only
    cases firstShown? shown' with
    | none => exact ⟨rfl, hsurveyed⟩
    | some id => exact ⟨rfl, hsurveyed.enter id true⟩
  | some current =>
    dsimp only
    rw [hsurveyed.section?_eq]
    cases flow.section? current with
    | none => exact ⟨rfl, hsurveyed⟩
    | some s =>
      -- both flows check the section, or neither does
      have hcheck : (if skipValidation then (true, flow') else flow'.isComplete ctx current).1 =
            (if skipValidation then (true, flow) else flow.isComplete ctx current).1 ∧
          Alongside bus bus' (if skipValidation then (true, flow) else flow.isComplete ctx current).2
            (if skipValidation then (true, flow') else flow'.isComplete ctx current).2 := by
        split
        · exact ⟨rfl, hsurveyed⟩
        · exact hsurveyed.ask current _
      generalize (if skipValidation then (true, flow) else flow.isComplete ctx current) = checked at hcheck ⊢
      generalize (if skipValidation then (true, flow') else flow'.isComplete ctx current) = checked' at hcheck ⊢
      obtain ⟨complete, flow⟩ := checked
      obtain ⟨complete', flow'⟩ := checked'
      obtain ⟨hcomplete, hchecked⟩ := hcheck
      dsimp only at hcomplete hchecked ⊢
      subst hcomplete
      split
      · obtain ⟨hnext, hleft⟩ := (hchecked.silent (·.markCompleted current) fun _ _ => rfl).leave shown' current
        exact ⟨congrArg Except.ok hnext, hleft⟩
      · split
        · obtain ⟨hnext, hleft⟩ := hchecked.leave shown' current
          exact ⟨congrArg Except.ok hnext, hleft⟩
        · exact ⟨rfl, hchecked.emit _⟩

theorem Alongside.goBack (h : Alongside bus bus' flow flow') (ctx : Context) (history : List String) :
    Alongside bus bus' (flow.goBack ctx history).2 (flow'.goBack ctx history).2 := by
  induction history generalizing flow flow' with
  | nil => exact h.silent (fun f => { f with state := { f.state with history := [] } }) fun _ _ => rfl
  | cons id rest ih =>
    obtain ⟨hanswer, hasked⟩ := h.ask id (·.isVisible ctx)
    unfold Flow.goBack
    rw [h.state_eq]
    split
    · exact ih h
    · dsimp only [Flow.isVisible]
      rw [hanswer]
      split
      · have hdropped := hasked.silent (fun f => { f with state := { f.state with history := rest } }) fun _ _ => rfl
        exact hdropped.enter id false
      · exact ih hasked

theorem Alongside.navigatePrevious (h : Alongside bus bus' flow flow') (ctx : Context) :
    Alongside bus bus' (flow.navigatePrevious ctx).2 (flow'.navigatePrevious ctx).2 := by
  have hoptions : flow'.options = flow.options := by obtain ⟨events, -, rfl⟩ := h; rfl
  unfold Flow.navigatePrevious
  rw [hoptions, h.state_eq]
  split
  · exact h.goBack ctx flow.state.history
  · exact h

theorem Alongside.settle (h : Alongside bus bus' flow flow') (shown : List (Section × Bool)) :
    Alongside bus bus' (flow.settle shown) (flow'.settle shown) := by
  unfold Flow.settle
  rw [h.state_eq]
  cases flow.state.current? with
  | none => exact h
  | some current =>
    dsimp only
    split
    · exact h
    · cases replacement? shown current with
      | some id => exact h.enter id false
      | none =>
        exact h.silent (fun f => { f with
          state := { flow.state with current? := none }, timer := .cancelled }) fun _ _ => rfl

theorem Alongside.updateAdvance (h : Alongside bus bus' flow flow') (ctx : Context) (now : Instant) :
    Alongside bus bus' (flow.updateAdvance ctx now) (flow'.updateAdvance ctx now) := by
  have hcurrent : flow'.current? = flow.current? := by obtain ⟨events, -, rfl⟩ := h; rfl
  unfold Flow.updateAdvance
  rw [hcurrent]
  cases flow.current? with
  | none => exact h.silent cancelAdvance fun _ _ => rfl
  | some s =>
    obtain ⟨hanswer, hasked⟩ := h.ask s.id (·.isComplete ctx)
    dsimp only [Flow.isComplete]
    rw [hanswer, hasked.timer_eq]
    split
    · split
      · split
        · exact hasked
        · exact hasked.silent (fun f => { f with timer := .schedule s.id now s.advanceDelay }) fun _ _ => rfl
      · exact hasked.silent cancelAdvance fun _ _ => rfl
    · exact h.silent cancelAdvance fun _ _ => rfl

theorem Alongside.recalculate (h : Alongside bus bus' flow flow') (ctx : Context) (now : Instant) :
    Alongside bus bus' (flow.recalculate ctx now) (flow'.recalculate ctx now) := by
  obtain ⟨hshown, hsurveyed⟩ := h.survey ctx
  have hupdated := (hsurveyed.settle (flow.survey ctx).1).updateAdvance ctx now
  unfold Flow.recalculate
  dsimp only
  rw [hshown, hupdated.state_eq]
  exact hupdated.emit _

theorem Alongside.advanceHolds (h : Alongside bus bus' flow flow') (ctx : Context) (id : String) :
    (flow'.advanceHolds ctx id).1 = (flow.advanceHolds ctx id).1 ∧
      Alongside bus bus' (flow.advanceHolds ctx id).2 (flow'.advanceHolds ctx id).2 := by
  obtain ⟨hvisible, hasked⟩ := h.ask id (·.isVisible ctx)
  unfold Flow.advanceHolds
  rw [h.state_eq, h.section?_eq]
  split
  · dsimp only [Flow.isVisible]
    rw [hvisible]
    split
    · exact hasked.ask id (·.isComplete ctx)
    · exact ⟨rfl, hasked⟩
  · exact ⟨rfl, h⟩

theorem Alongside.poll (h : Alongside bus bus' flow flow') (ctx : Context) (now : Instant) :
    Alongside bus bus' (flow.poll ctx now).2 (flow'.poll ctx now).2 := by
  unfold Flow.poll
  rw [h.timer_eq]
  split
  · exact h
  · next advance timer htake =>
    have htaken := h.silent (fun f => { f with timer }) fun _ _ => rfl
    obtain ⟨hanswer, hholds⟩ := htaken.advanceHolds ctx advance.sectionId
    dsimp only
    rw [hanswer]
    split
    · exact (hholds.navigateNext ctx true).2
    · exact hholds

/-- An operation that leaves the listeners as they are does the same for others. -/
theorem Alongside.step (h : Alongside bus bus' flow flow') {operation : Operation}
    (hkeeps : operation.keepsListeners = true) :
    Alongside bus bus' (flow.step operation) (flow'.step operation) := by
  have hregistered : ∀ id, flow'.isRegistered id = flow.isRegistered id := by
    obtain ⟨events, -, rfl⟩ := h
    exact fun _ => rfl
  cases operation with
  | register s => exact h.silent (·.register s) fun _ _ => rfl
  | remove id =>
    show Alongside bus bus' (flow.remove id) (flow'.remove id)
    unfold Flow.remove
    rw [hregistered]
    split
    · obtain ⟨events, hbus, rfl⟩ := h
      exact ⟨events, hbus, rfl⟩
    · exact h
  | navigateTo ctx id => exact h.navigateTo ctx id
  | navigateNext ctx skipValidation => exact (h.navigateNext ctx skipValidation).2
  | navigatePrevious ctx => exact h.navigatePrevious ctx
  | recalculate ctx now => exact h.recalculate ctx now
  | poll ctx now => exact h.poll ctx now
  | cancelAdvance => exact h.silent cancelAdvance fun _ _ => rfl
  | importState state => exact h.silent (·.importState state) fun _ _ => rfl
  | reset => exact h.silent Flow.reset fun _ _ => rfl
  | subscribe failsOn => cases hkeeps
  | unsubscribe id => cases hkeeps
  | evaluate engine => exact h.silent (fun f => { f with engine }) fun _ _ => rfl

/-- All listeners are told of the events that an operation tells. -/
theorem bus_step {operation : Operation} (hkeeps : operation.keepsListeners = true) :
    (flow.step operation).bus = (flow.told operation).foldl Bus.emit flow.bus := by
  have h : Alongside flow.bus .single flow { flow with bus := .single } := ⟨[], rfl, rfl⟩
  obtain ⟨events, hbus, hflow⟩ := h.step hkeeps
  have htold : flow.told operation = events := by
    rw [told, hflow]
    exact Bus.received_foldl_emit events
  rw [htold, hbus]

/-- All listeners are told of the events that some operations tell, one operation after the other. -/
theorem bus_foldl_step {operations : List Operation}
    (hkeep : ∀ operation ∈ operations, operation.keepsListeners = true) :
    (operations.foldl step flow).bus = (flow.toldDuring operations).foldl Bus.emit flow.bus := by
  induction operations generalizing flow with
  | nil => rfl
  | cons operation rest ih =>
    obtain ⟨hkeeps, hrest⟩ := List.forall_mem_cons.mp hkeep
    rw [List.foldl_cons, ih hrest, bus_step hkeeps, toldDuring, List.foldl_append]

end Flow

end FormRules

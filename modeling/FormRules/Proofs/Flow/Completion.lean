import FormRules.Proofs.Flow.Advance

/-!
# Completing a form more than once

A form that a poll has completed stays where it is: its last section is current, and still to be left by itself. So
the next recalculation sets an advance again, and a poll that finds it due completes the form anew
(`not_terminal`). As long as the forms that are looked at give the same answers, this is the only way in which it is
completed again, and the state stays the same (`completes_again_iff`).
-/

namespace FormRules.Flow

open Formula (Context)

/-- On both forms the same sections are visible, and the same are complete. -/
def Alike (sections : List Section) (ctx ctx' : Context) : Prop :=
  ∀ s ∈ sections, s.visibleIn ctx' = s.visibleIn ctx ∧ s.completeIn ctx' = s.completeIn ctx

/-- The operation is a recalculation or a poll, on a form that is alike. -/
def Watches (sections : List Section) (ctx : Context) : Operation → Prop
  | .recalculate ctx' _ | .poll ctx' _ => Alike sections ctx ctx'
  | _ => False

/-- A poll among the operations comes when an advance is due. -/
def Reaches (due : Instant) (operations : List Operation) : Prop :=
  ∃ ctx now, .poll ctx now ∈ operations ∧ due ≤ now

/-- The first recalculation is followed by a poll, and the wait that begins with it is then over. -/
def Recurs (delay : UInt64) : List Operation → Prop
  | [] => False
  | .recalculate _ now :: rest => Reaches (dueAfter now delay) rest
  | _ :: rest => Recurs delay rest

/-- The form is at its end: no visible section follows the current one, which is completed, to be left by itself, and
the only one with an advance pending, if any. -/
structure Finished (flow : Flow) (ctx : Context) (s : Section) : Prop where
  current : flow.state.current? = some s.id
  registered : flow.section? s.id = some s
  advances : s.advancesIn ctx = true
  last : nextShown? (flow.shown ctx) s.id = none
  marked : s.id ∈ flow.state.completed
  own : ∀ advance, flow.timer.pending? = some advance → advance.sectionId = s.id

variable {flow flow' : Flow} {ctx ctx' : Context} {now : Instant} {advance : Advance} {s : Section}
  {later : List Operation}

/-- Forms with the same data and fields are alike, if no section looks at the clock or it stands still. -/
theorem alike_of_timeless {sections : List Section} (hdata : ctx'.data = ctx.data)
    (hfields : ctx'.fields = ctx.fields) (hclock : ctx'.now = ctx.now ∨ ∀ s ∈ sections, ∀ formula,
      (s.showCondition? = some formula ∨ s.completionCondition? = some formula) →
        ∀ e, Formula.parseFormula formula = .ok e → e.hasExpandable = false) :
    Alike sections ctx ctx' := by
  intro s hs
  have hvalue : ctx'.value = ctx.value := by
    funext name
    rw [Context.value, Context.value, hdata, hfields]
  have hresult : ∀ formula, (s.showCondition? = some formula ∨ s.completionCondition? = some formula) →
      Formula.resultOf ctx' formula = Formula.resultOf ctx formula := fun formula hformula =>
    Formula.resultOf_congr (fun name _ => congrFun hvalue name) (hclock.imp_right fun h => h s hs formula hformula)
  refine ⟨Formula.Engine.holds_congr {} {} fun formula hformula => hresult formula (.inl hformula), ?_⟩
  unfold Section.completeIn Section.isComplete
  split
  · next formula hcondition =>
    refine Formula.Engine.holds_congr {} {} fun source hsource => ?_
    cases hsource
    exact hresult formula (.inr (Option.filter_eq_some_iff.mp hcondition).1)
  · have hneeds : Section.needs ctx' = Section.needs ctx := by
      funext name
      rw [Section.needs, Section.needs, hfields]
    have hfilled : Section.isFilled ctx' = Section.isFilled ctx := by
      funext name
      rw [Section.isFilled, Section.isFilled, hvalue]
    rw [hneeds, hfilled]

theorem Alike.shown_eq (h : Alike flow.sections ctx ctx') : flow.shown ctx' = flow.shown ctx :=
  List.map_congr_left fun s hs => by rw [(h s hs).1]

theorem Finished.alike (h : flow.Finished ctx s) (halike : Alike flow.sections ctx ctx') : flow.Finished ctx' s where
  current := h.current
  registered := h.registered
  advances := by
    obtain ⟨hvisible, hcomplete⟩ := halike s (mem_of_section? h.registered)
    rw [Section.advancesIn, hvisible, hcomplete]
    exact h.advances
  last := by
    rw [halike.shown_eq]
    exact h.last
  marked := h.marked
  own := h.own

/-- The end of the form has to do with the sections and the state, and with whose advance is pending. -/
theorem Finished.congr (h : flow.Finished ctx s) (hsections : flow'.sections = flow.sections)
    (hstate : flow'.state = flow.state)
    (hown : ∀ advance, flow'.timer.pending? = some advance → advance.sectionId = s.id) : flow'.Finished ctx s where
  current := hstate ▸ h.current
  registered := by
    rw [section?, hsections]
    exact h.registered
  advances := h.advances
  last := by
    rw [shown, hsections]
    exact h.last
  marked := hstate ▸ h.marked
  own := hown

theorem Finished.onBus (h : flow.Finished ctx s) (bus : Bus) : ({ flow with bus } : Flow).Finished ctx s :=
  h.congr rfl rfl h.own

/-- A justified poll completes the section and leaves it. -/
theorem Justifies.poll_eq (h : flow.Justifies ctx now advance s) : ∃ engine, (flow.poll ctx now).2 =
    (({ flow with engine, timer := .cancelled }.markCompleted s.id).leave (flow.shown ctx) s.id).2 := by
  obtain ⟨engine, hpoll⟩ := poll_of_due h.pending h.due ctx
  have hholds : (decide (flow.state.current? = some advance.sectionId) &&
      (flow.section? advance.sectionId).any (·.advancesIn ctx)) = true := by
    rw [← h.left, h.asks.1, Option.any_some, h.advances, h.current]
    simp
  rw [if_pos hholds] at hpoll
  obtain ⟨engine', hnext⟩ := @navigateNext_of_complete { flow with engine, timer := .cancelled } ctx s.id s true
    h.current h.asks.1 (.inl rfl)
  exact ⟨engine', by rw [hpoll, hnext]; rfl⟩

/-- Who leaves a section tells of a completed form only behind the last visible one. -/
theorem last_of_leave {flow : Flow} (hbus : flow.bus = .single) {shown : List (Section × Bool)} {id : String}
    {completed : List String} (h : .formCompleted completed ∈ (flow.leave shown id).2.bus.received [1]) :
    nextShown? shown id = none ∧ completed = flow.state.completed.toList := by
  cases hnext : nextShown? shown id with
  | some next =>
    rw [leave_next hnext] at h
    by_cases hcurrent : flow.state.current? = some next
    · rw [enter_of_current hcurrent, hbus] at h
      cases h
    · rw [enter_of_ne hcurrent, hbus] at h
      have htold : Event.formCompleted completed ∈ [Event.sectionChanged flow.state.current? next] := by
        rwa [← Bus.received_foldl_emit [_]]
      cases List.mem_singleton.mp htold
  | none =>
    rw [leave_last hnext, hbus] at h
    have htold : Event.formCompleted completed ∈ [Event.formCompleted flow.state.completed.toList] := by
      rwa [← Bus.received_foldl_emit [_]]
    exact ⟨rfl, Event.formCompleted.inj (List.mem_singleton.mp htold)⟩

theorem Justifies.last_of_completed (h : flow.Justifies ctx now advance s) {completed : List String}
    (hcompleted : .formCompleted completed ∈ flow.told (.poll ctx now)) :
    nextShown? (flow.shown ctx) s.id = none ∧ completed = (flow.state.completed.insert s.id).toList := by
  obtain ⟨engine, hpoll⟩ := (h.onBus .single).poll_eq
  rw [told, step, hpoll] at hcompleted
  exact last_of_leave rfl hcompleted

/-- A poll that completes the form leaves it at its end, with no advance pending. -/
theorem Justifies.finished (h : flow.Justifies ctx now advance s) (hlast : nextShown? (flow.shown ctx) s.id = none) :
    (flow.step (.poll ctx now)).Finished ctx s ∧ (flow.step (.poll ctx now)).timer.pending? = none ∧
      (flow.step (.poll ctx now)).sections = flow.sections ∧
      (flow.step (.poll ctx now)).state.completed = flow.state.completed.insert s.id := by
  obtain ⟨engine, hpoll⟩ := h.poll_eq
  rw [step, hpoll, leave_last hlast]
  have hmarked : s.id ∈ flow.state.completed.insert s.id := mem_insert_iff.mpr (.inl rfl)
  refine ⟨⟨h.current, h.asks.1, h.advances, hlast, hmarked, fun advance hpending => ?_⟩, rfl, rfl, rfl⟩
  cases hpending

theorem Finished.justifies (h : flow.Finished ctx s) (hpending : flow.timer.pending? = some advance)
    (hdue : advance.due ≤ now) : flow.Justifies ctx now advance s :=
  justifies_of_advances hpending hdue (h.own advance hpending).symm h.current h.registered h.advances

/-- At the end of the form, a poll that finds an advance due completes it. -/
theorem Finished.poll_eq (h : flow.Finished ctx s) (hpending : flow.timer.pending? = some advance)
    (hdue : advance.due ≤ now) : ∃ engine, (flow.poll ctx now).2 = { flow with
      engine, timer := .cancelled, bus := flow.bus.emit (.formCompleted flow.state.completed.toList) } := by
  obtain ⟨engine, hpoll⟩ := (h.justifies hpending hdue).poll_eq
  refine ⟨engine, ?_⟩
  rw [hpoll, leave_last h.last, markCompleted, insert_of_mem h.marked]

/-- At the end of the form the current section is visible, so it stays current. -/
theorem Finished.settled_eq (h : flow.Finished ctx s) : ∃ engine, flow.settled ctx = { flow with engine } := by
  refine settled_of_visible fun id hcurrent => ?_
  obtain rfl := Option.some.inj (h.current.symm.trans hcurrent)
  rw [isVisible_fst, h.registered, Option.any_some]
  exact (Section.advancesIn_iff.mp h.advances).2.1

/-- At the end of the form, a recalculation sets an advance if none is pending. -/
theorem Finished.recalculate_eq (h : flow.Finished ctx s) (now : Instant) : ∃ engine, flow.recalculate ctx now =
    { flow with
      engine
      timer := ⟨some (flow.timer.pending?.getD ⟨s.id, dueAfter now s.advanceDelay⟩)⟩
      bus := flow.bus.emit (.flowRecalculated (some s.id) (shownIds (flow.shown ctx))) } := by
  obtain ⟨hauto, -, hcomplete⟩ := Section.advancesIn_iff.mp h.advances
  obtain ⟨engine, hsettled⟩ := h.settled_eq
  obtain ⟨engine', hsurvey⟩ := survey_eq flow ctx
  obtain ⟨engine'', timer, hupdate, htimer⟩ := updateAdvance_eq { flow with engine } ctx now
  have hcurrent : ({ flow with engine } : Flow).current? = some s := by
    rw [Flow.current?, h.current]
    exact h.registered
  have hanswer : (({ flow with engine } : Flow).isComplete ctx s.id).1 = true := by
    rw [isComplete_fst, show ({ flow with engine } : Flow).section? s.id = some s from h.registered,
      Option.any_some, hcomplete]
  have hset : timer = if flow.timer.isPendingFor s.id then flow.timer else .schedule s.id now s.advanceDelay := by
    rcases htimer with ⟨-, hidle⟩ | ⟨s', hs', -, -, rfl⟩
    · rw [hidle s hcurrent hauto] at hanswer
      cases hanswer
    · rw [Option.some.inj (hs'.symm.trans hcurrent)]
  refine ⟨engine'', ?_⟩
  rw [Flow.recalculate_eq, hsettled, hsurvey, hupdate, hset, Flow.emit, h.current]
  cases hpending : flow.timer.pending? with
  | none => rw [if_neg (by simp [Timer.isPendingFor, hpending]), Timer.schedule]; rfl
  | some advance =>
    rw [if_pos (by simp [Timer.isPendingFor, hpending, h.own advance hpending]), Option.getD_some, ← hpending]
    rfl

/-- A recalculation at the end of the form, and what it tells. -/
theorem Finished.step_recalculate (h : flow.Finished ctx s) (now : Instant) :
    (∃ engine bus, flow.step (.recalculate ctx now) = { flow with
      engine, bus, timer := ⟨some (flow.timer.pending?.getD ⟨s.id, dueAfter now s.advanceDelay⟩)⟩ }) ∧
      flow.told (.recalculate ctx now) = [.flowRecalculated (some s.id) (shownIds (flow.shown ctx))] := by
  obtain ⟨engine, hstep⟩ := h.recalculate_eq now
  obtain ⟨engine', htold⟩ := (h.onBus .single).recalculate_eq now
  exact ⟨⟨engine, _, hstep⟩, told_of_emit (congrArg Flow.bus htold)⟩

/-- A poll at the end of the form, and what it tells: it takes an advance that is due, or does nothing. -/
theorem Finished.step_poll (h : flow.Finished ctx s) (now : Instant) :
    (∃ advance, flow.timer.pending? = some advance ∧ advance.due ≤ now ∧
      (∃ engine bus, flow.step (.poll ctx now) = { flow with engine, bus, timer := .cancelled }) ∧
      flow.told (.poll ctx now) = [.formCompleted flow.state.completed.toList]) ∨
    ((∀ advance, flow.timer.pending? = some advance → ¬ advance.due ≤ now) ∧
      flow.step (.poll ctx now) = flow ∧ flow.told (.poll ctx now) = []) := by
  by_cases hdue : ∃ advance, flow.timer.pending? = some advance ∧ advance.due ≤ now
  · left
    obtain ⟨advance, hpending, hdue⟩ := hdue
    obtain ⟨engine, hstep⟩ := h.poll_eq hpending hdue
    obtain ⟨engine', htold⟩ := @Finished.poll_eq _ _ now _ _ (h.onBus .single) hpending hdue
    exact ⟨advance, hpending, hdue, ⟨engine, _, hstep⟩, told_of_emit (congrArg Flow.bus htold)⟩
  · right
    have hearly : ∀ advance, flow.timer.pending? = some advance → ¬ advance.due ≤ now :=
      fun advance hpending hle => hdue ⟨advance, hpending, hle⟩
    have hsingle := @poll_of_not_due { flow with bus := .single } now hearly ctx
    rw [told, step, step, poll_of_not_due hearly, hsingle]
    exact ⟨hearly, rfl, rfl⟩

/-- What a step keeps: the end of the form, with the same state, and no other completion is told of. -/
theorem Finished.step (h : flow.Finished ctx s) {operation : Operation}
    (hwatches : Watches flow.sections ctx operation) :
    (flow.step operation).Finished ctx s ∧ (flow.step operation).sections = flow.sections ∧
      (flow.step operation).state = flow.state ∧
      ∀ again, .formCompleted again ∈ flow.told operation → again = flow.state.completed.toList := by
  cases operation with
  | recalculate ctx' now =>
    obtain ⟨⟨engine, bus, hstep⟩, htold⟩ := (h.alike hwatches).step_recalculate now
    rw [hstep, htold]
    refine ⟨h.congr rfl rfl fun advance hpending => ?_, rfl, rfl, fun again hagain => ?_⟩
    · cases hpending
      cases hset : flow.timer.pending? with
      | none => rfl
      | some before => exact h.own before hset
    · cases List.mem_singleton.mp hagain
  | poll ctx' now =>
    rcases (h.alike hwatches).step_poll now with ⟨-, -, -, ⟨engine, bus, hstep⟩, htold⟩ | ⟨-, hstep, htold⟩
    · rw [hstep, htold]
      exact ⟨h.congr rfl rfl nofun, rfl, rfl, fun again hagain =>
        Event.formCompleted.inj (List.mem_singleton.mp hagain)⟩
    · rw [hstep, htold]
      exact ⟨h, rfl, rfl, nofun⟩
  | _ => exact hwatches.elim

theorem mem_toldDuring_cons {event : Event} {operation : Operation} {rest : List Operation} :
    event ∈ flow.toldDuring (operation :: rest) ↔
      event ∈ flow.told operation ∨ event ∈ (flow.step operation).toldDuring rest :=
  List.mem_append

/-- The end of the form is where it stays. -/
theorem Finished.stays (h : flow.Finished ctx s)
    (hlater : ∀ operation ∈ later, Watches flow.sections ctx operation) :
    (later.foldl Flow.step flow).state = flow.state ∧
      ∀ again, .formCompleted again ∈ flow.toldDuring later → again = flow.state.completed.toList := by
  induction later generalizing flow with
  | nil => exact ⟨rfl, nofun⟩
  | cons operation rest ih =>
    obtain ⟨hwatches, hrest⟩ := List.forall_mem_cons.mp hlater
    obtain ⟨hfinished, hsections, hstate, htold⟩ := h.step hwatches
    obtain ⟨hsame, hagain⟩ := ih hfinished (hsections ▸ hrest)
    refine ⟨hsame.trans hstate, fun again hmem => ?_⟩
    rcases mem_toldDuring_cons.mp hmem with hnow | hlater
    · exact htold again hnow
    · rw [← hstate]
      exact hagain again hlater

theorem reaches_recalculate {due : Instant} {rest : List Operation} :
    Reaches due (.recalculate ctx now :: rest) ↔ Reaches due rest := by
  simp [Reaches]

theorem reaches_poll {due : Instant} {rest : List Operation} :
    Reaches due (.poll ctx now :: rest) ↔ due ≤ now ∨ Reaches due rest := by
  constructor
  · rintro ⟨ctx', now', hpoll, hdue⟩
    rcases List.mem_cons.mp hpoll with heq | hrest
    · cases heq
      exact .inl hdue
    · exact .inr ⟨ctx', now', hrest, hdue⟩
  · rintro (hdue | ⟨ctx', now', hpoll, hdue⟩)
    · exact ⟨ctx, now, List.mem_cons_self, hdue⟩
    · exact ⟨ctx', now', List.mem_cons_of_mem _ hpoll, hdue⟩

/-- At the end of the form, it is completed by the first poll that finds the pending advance due, or else the one
that the first recalculation sets. -/
theorem Finished.completes_iff (h : flow.Finished ctx s)
    (hlater : ∀ operation ∈ later, Watches flow.sections ctx operation) :
    (∃ again, .formCompleted again ∈ flow.toldDuring later) ↔
      match flow.timer.pending? with
      | some advance => Reaches advance.due later
      | none => Recurs s.advanceDelay later := by
  induction later generalizing flow with
  | nil => cases flow.timer.pending? <;> simp [toldDuring, Reaches, Recurs]
  | cons operation rest ih =>
    obtain ⟨hwatches, hrest⟩ := List.forall_mem_cons.mp hlater
    obtain ⟨hfinished, hsections, -, -⟩ := h.step hwatches
    have hih := ih hfinished (hsections ▸ hrest)
    simp only [mem_toldDuring_cons, exists_or]
    cases operation with
    | recalculate ctx' now =>
      obtain ⟨⟨engine, bus, hstep⟩, htold⟩ := (h.alike hwatches).step_recalculate now
      -- a pending advance is kept, else one is set now
      rw [hih, hstep, htold]
      cases flow.timer.pending? with
      | some advance => simp [reaches_recalculate]
      | none => simp [Recurs]
    | poll ctx' now =>
      rcases (h.alike hwatches).step_poll now with ⟨advance, hpending, hdue, -, htold⟩ | ⟨hearly, hstep, htold⟩
      · rw [hpending, htold]
        exact iff_of_true (.inl ⟨_, List.mem_singleton_self _⟩) (reaches_poll.mpr (.inl hdue))
      · rw [hih, hstep, htold]
        cases hpending : flow.timer.pending? with
        | some advance => simp [reaches_poll, hearly advance hpending]
        | none => simp [Recurs]
    | _ => exact hwatches.elim

/-- After a poll has completed a form, polls and recalculations on forms that are alike complete it again if and only
if the first recalculation is followed by a poll when the wait of the last section is over. The state stays the same,
and so do the completed sections that are told of. -/
theorem completes_again_iff {completed : List String}
    (hcompleted : .formCompleted completed ∈ flow.told (.poll ctx now))
    (hlater : ∀ operation ∈ later, Watches flow.sections ctx operation) :
    ∃ s, (flow.step (.poll ctx now)).current? = some s ∧
      ((∃ again, .formCompleted again ∈ (flow.step (.poll ctx now)).toldDuring later) ↔ Recurs s.advanceDelay later) ∧
      (∀ again, .formCompleted again ∈ (flow.step (.poll ctx now)).toldDuring later → again = completed) ∧
      (later.foldl step (flow.step (.poll ctx now))).state = (flow.step (.poll ctx now)).state := by
  obtain ⟨advance, s, hjustifies⟩ := justifies_of_fires (.inr ⟨completed, hcompleted⟩)
  obtain ⟨hlast, hall⟩ := hjustifies.last_of_completed hcompleted
  obtain ⟨hfinished, hpending, hsections, hmarked⟩ := hjustifies.finished hlast
  rw [← hsections] at hlater
  obtain ⟨hstate, hagain⟩ := hfinished.stays hlater
  have hcompletes := hfinished.completes_iff hlater
  rw [hpending] at hcompletes
  refine ⟨s, ?_, hcompletes, fun again hmem => ?_, hstate⟩
  · rw [current?, hfinished.current]
    exact hfinished.registered
  · rw [hagain again hmem, hmarked, hall]

/-- A form whose only field is filled, as it is looked at when the clock has counted some milliseconds. -/
def adaForm (millis : Int) : Context := { nameForm (.text "Ada") with now := .ofMillis millis }

/-- A form of one section, that is left by itself ten milliseconds after a recalculation at 0. -/
def lone : List Operation :=
  [.register { id := "only", fields := ["name"], autoAdvance := true, advanceDelay := 10 },
    .navigateNext (adaForm 0) false, .recalculate (adaForm 0) (.ofMillis 0)]

/-- A completed form is watched: the first poll finds nothing pending, the second one comes too early. -/
def watching : List Operation :=
  [.poll (adaForm 15) (.ofMillis 15), .recalculate (adaForm 20) (.ofMillis 20), .poll (adaForm 25) (.ofMillis 25),
    .poll (adaForm 30) (.ofMillis 30)]

/-- The form is completed again by the last poll, and by none before. -/
theorem completes_again_iff_lone :
    let flow := run {} lone
    let complete := Operation.poll (adaForm 10) (.ofMillis 10)
    .formCompleted ["only"] ∈ flow.told complete ∧
      (∀ operation ∈ watching, Watches flow.sections (adaForm 10) operation) ∧
      (∃ again, .formCompleted again ∈ (flow.step complete).toldDuring watching) ∧
      ¬ ∃ again, .formCompleted again ∈ (flow.step complete).toldDuring (watching.take 3) := by
  intro flow complete
  have hcompleted : .formCompleted ["only"] ∈ flow.told complete := by decide +kernel
  have halike : ∀ millis, Alike flow.sections (adaForm 10) (adaForm millis) := by
    refine fun millis => alike_of_timeless rfl rfl (.inr fun s hs formula hformula => ?_)
    cases List.mem_singleton.mp hs
    rcases hformula with hshow | hcomplete
    · cases hshow
    · cases hcomplete
  have hwatching : ∀ operation ∈ watching, Watches flow.sections (adaForm 10) operation := by
    intro operation hoperation
    simp only [watching, List.mem_cons, List.not_mem_nil, or_false] at hoperation
    rcases hoperation with rfl | rfl | rfl | rfl <;> exact halike _
  obtain ⟨s, hs, hcompletes, -, -⟩ := completes_again_iff hcompleted hwatching
  obtain ⟨s', hs', hcompletes', -, -⟩ := completes_again_iff hcompleted fun operation hoperation =>
    hwatching operation ((watching.take_subset 3) hoperation)
  have hdelay : ((flow.step complete).current?.map (·.advanceDelay)) = some 10 := by decide +kernel
  rw [hs, Option.map_some, Option.some.injEq] at hdelay
  have hsame : s' = s := Option.some.inj (hs'.symm.trans hs)
  rw [hsame] at hcompletes'
  rw [hdelay] at hcompletes hcompletes'
  refine ⟨hcompleted, hwatching, hcompletes.mpr ?_, fun hagain => ?_⟩
  · exact ⟨adaForm 30, .ofMillis 30, List.mem_cons_of_mem _ (List.mem_singleton_self _), by decide +kernel⟩
  · obtain ⟨ctx, now, hpoll, hdue⟩ := hcompletes'.mp hagain
    cases List.mem_singleton.mp hpoll
    revert hdue
    decide +kernel

/-- A form that a poll has completed may be completed once more, although only recalculations and polls follow, all
on the same form. -/
theorem not_terminal : ¬ ∀ options before ctx now completed later,
    .formCompleted completed ∈ (run options before).told (.poll ctx now) →
    (∀ operation ∈ later, ∃ now', operation = .recalculate ctx now' ∨ operation = .poll ctx now') →
      ∀ again, .formCompleted again ∉ ((run options before).step (.poll ctx now)).toldDuring later := by
  intro h
  refine h {} lone (adaForm 0) (.ofMillis 10) ["only"]
    [.recalculate (adaForm 0) (.ofMillis 20), .poll (adaForm 0) (.ofMillis 30)] (by decide +kernel) ?_ ["only"]
    (by decide +kernel)
  intro operation hoperation
  simp only [List.mem_cons, List.not_mem_nil, or_false] at hoperation
  rcases hoperation with rfl | rfl
  · exact ⟨_, .inl rfl⟩
  · exact ⟨_, .inr rfl⟩

end FormRules.Flow

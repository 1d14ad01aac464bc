import FormRules.Proofs.Flow.Answers
import FormRules.Proofs.Flow.Run

/-!
# The invariant of flows

In every run the state of a flow refers to registered sections only, and a pending advance is that of the
current section (`Anchored`). If the imported states are retraceable, which means that all that they refer to
has been visited, then so is the state of the flow. Each move keeps both, and each change of the sections or of
the whole state restores them. So the section to be left is never missing, and polling never fails.
-/

namespace FormRules

section

variable {ids : Std.ExtTreeSet String compare} {id other : String}

theorem mem_insert_iff : other ∈ ids.insert id ↔ other = id ∨ other ∈ ids := by
  rw [Std.ExtTreeSet.mem_insert, Std.LawfulEqCmp.compare_eq_iff_eq, @eq_comm _ id]

theorem insert_of_mem (h : id ∈ ids) : ids.insert id = ids :=
  Std.ExtTreeSet.ext_mem fun _ => mem_insert_iff.trans (or_iff_right_of_imp fun heq => heq ▸ h)

private theorem mem_erase_iff : other ∈ ids.erase id ↔ other ∈ ids ∧ other ≠ id := by
  rw [Std.ExtTreeSet.mem_erase, ne_eq, Std.LawfulEqCmp.compare_eq_iff_eq, and_comm, @eq_comm _ id]

theorem mem_filter_iff {known : String → Bool} : id ∈ ids.filter known ↔ id ∈ ids ∧ known id = true := by
  simp [Std.ExtTreeSet.mem_filter, Std.ExtTreeSet.get_eq]

end

namespace FlowState

/-- All sections that the state refers to are known. -/
structure Within (state : FlowState) (known : String → Bool) : Prop where
  current : ∀ id, state.current? = some id → known id = true
  completed : ∀ id ∈ state.completed, known id = true
  visited : ∀ id ∈ state.visited, known id = true
  history : ∀ id ∈ state.history, known id = true

/-- The current section, the completed ones and those of the history have been visited. -/
structure Retraceable (state : FlowState) : Prop where
  current : ∀ id, state.current? = some id → id ∈ state.visited
  completed : ∀ id ∈ state.completed, id ∈ state.visited
  history : ∀ id ∈ state.history, id ∈ state.visited

variable {state : FlowState} {known known' : String → Bool} {id : String}

theorem within_empty (known : String → Bool) : ({} : FlowState).Within known where
  current := by simp
  completed := by simp
  visited := by simp
  history := by simp

theorem Within.mono (h : state.Within known) (hknown : ∀ id, known id = true → known' id = true) :
    state.Within known' where
  current id hid := hknown id (h.current id hid)
  completed id hid := hknown id (h.completed id hid)
  visited id hid := hknown id (h.visited id hid)
  history id hid := hknown id (h.history id hid)

theorem within_restrict (state : FlowState) (known : String → Bool) : (state.restrict known).Within known where
  current _ h := (Option.filter_eq_some_iff.mp h).2
  completed _ h := (mem_filter_iff.mp h).2
  visited _ h := (mem_filter_iff.mp h).2
  history _ h := (List.mem_filter.mp h).2

theorem Within.forget (h : state.Within known) (id : String) :
    (state.forget id).Within fun other => known other && other ≠ id where
  current other hother := by
    obtain ⟨hcurrent, hne⟩ := Option.filter_eq_some_iff.mp hother
    rw [h.current other hcurrent, hne]
    rfl
  completed other hother := by
    obtain ⟨hcompleted, hne⟩ := mem_erase_iff.mp hother
    simp [h.completed other hcompleted, hne]
  visited other hother := by
    obtain ⟨hvisited, hne⟩ := mem_erase_iff.mp hother
    simp [h.visited other hvisited, hne]
  history other hother := by
    obtain ⟨hhistory, hne⟩ := List.mem_filter.mp hother
    rw [h.history other hhistory, hne]
    rfl

/-- Entering a section adds to the history at most the section that was current before. -/
theorem mem_history_entered {other : String} {remember : Bool} (h : other ∈ (state.entered id remember).history) :
    state.current? = some other ∨ other ∈ state.history := by
  unfold entered at h
  split at h
  · rcases List.mem_append.mp h with hcurrent | hhistory
    · exact .inl (Option.mem_toList.mp hcurrent)
    · exact .inr hhistory
  · exact .inr h

theorem Within.entered (h : state.Within known) (hid : known id = true) (remember : Bool) :
    (state.entered id remember).Within known where
  current other hother := by cases hother; exact hid
  completed := h.completed
  visited other hother := by
    rcases mem_insert_iff.mp hother with rfl | hvisited
    · exact hid
    · exact h.visited other hvisited
  history other hother := by
    rcases mem_history_entered hother with hcurrent | hhistory
    · exact h.current other hcurrent
    · exact h.history other hhistory

theorem retraceable_empty : ({} : FlowState).Retraceable where
  current := by simp
  completed := by simp
  history := by simp

theorem Retraceable.restrict (h : state.Retraceable) (known : String → Bool) :
    (state.restrict known).Retraceable where
  current id hid := by
    obtain ⟨hcurrent, hknown⟩ := Option.filter_eq_some_iff.mp hid
    exact mem_filter_iff.mpr ⟨h.current id hcurrent, hknown⟩
  completed id hid := by
    obtain ⟨hcompleted, hknown⟩ := mem_filter_iff.mp hid
    exact mem_filter_iff.mpr ⟨h.completed id hcompleted, hknown⟩
  history id hid := by
    obtain ⟨hhistory, hknown⟩ := List.mem_filter.mp hid
    exact mem_filter_iff.mpr ⟨h.history id hhistory, hknown⟩

theorem Retraceable.forget (h : state.Retraceable) (id : String) : (state.forget id).Retraceable where
  current other hother := by
    obtain ⟨hcurrent, hne⟩ := Option.filter_eq_some_iff.mp hother
    exact mem_erase_iff.mpr ⟨h.current other hcurrent, by simpa using hne⟩
  completed other hother := by
    obtain ⟨hcompleted, hne⟩ := mem_erase_iff.mp hother
    exact mem_erase_iff.mpr ⟨h.completed other hcompleted, hne⟩
  history other hother := by
    obtain ⟨hhistory, hne⟩ := List.mem_filter.mp hother
    exact mem_erase_iff.mpr ⟨h.history other hhistory, by simpa using hne⟩

theorem Retraceable.entered (h : state.Retraceable) (id : String) (remember : Bool) :
    (state.entered id remember).Retraceable where
  current other hother := by cases hother; exact mem_insert_iff.mpr (.inl rfl)
  completed other hother := mem_insert_iff.mpr (.inr (h.completed other hother))
  history other hother := by
    refine mem_insert_iff.mpr (.inr ?_)
    rcases mem_history_entered hother with hcurrent | hhistory
    · exact h.current other hcurrent
    · exact h.history other hhistory

end FlowState

namespace Flow

open Formula (Context)

/-- The state refers to registered sections only, and a pending advance is that of the current section. -/
structure Anchored (flow : Flow) : Prop where
  within : flow.state.Within flow.isRegistered
  pending : ∀ advance, flow.timer.pending? = some advance → flow.state.current? = some advance.sectionId

variable {flow flow' : Flow} {id : String}

theorem anchored_new (options : FlowOptions) : Anchored { options } where
  within := FlowState.within_empty _
  pending _ h := by cases h

theorem Anchored.cancel (h : flow.Anchored) : flow.cancelAdvance.Anchored := ⟨h.within, nofun⟩

theorem Anchored.enter (h : flow.Anchored) (hid : flow.isRegistered id = true) (remember : Bool) :
    (flow.enter id remember).Anchored := by
  by_cases hcurrent : flow.state.current? = some id
  · rwa [enter_of_current hcurrent]
  · rw [enter_of_ne hcurrent]
    refine ⟨h.within.entered hid remember, fun advance hpending => ?_⟩
    -- before, the advance was that of another section, so the timer is cancelled
    obtain ⟨hfor, hkept⟩ : flow.timer.isPendingFor id = true ∧ flow.timer.pending? = some advance := by
      dsimp only [Timer.keptFor] at hpending
      split at hpending
      · next hfor => exact ⟨hfor, hpending⟩
      · cases hpending
    rw [Timer.isPendingFor, hkept, Option.any_some, decide_eq_true_eq] at hfor
    exact congrArg some hfor.symm

theorem Anchored.complete (h : flow.Anchored) (hid : flow.state.current? = some id) :
    (flow.markCompleted id).Anchored where
  within := { h.within with
    completed := fun other hother => by
      rcases mem_insert_iff.mp hother with rfl | hcompleted
      · exact h.within.current _ hid
      · exact h.within.completed other hcompleted }
  pending := h.pending

theorem Move.anchored (hmove : Move flow flow') (h : flow.Anchored) : flow'.Anchored := by
  cases hmove with
  | evaluate _ => exact ⟨h.within, h.pending⟩
  | emit _ => exact ⟨h.within, h.pending⟩
  | enter hid remember => exact h.enter hid remember
  | complete hid => exact h.complete hid
  | giveUp => exact ⟨{ h.within with current := nofun }, nofun⟩
  | drop hsuffix =>
    exact ⟨{ h.within with history := fun id hid => h.within.history id (hsuffix.subset hid) }, h.pending⟩
  | cancel => exact h.cancel

theorem Anchored.register (h : flow.Anchored) (s : Section) : (flow.register s).Anchored where
  within := h.within.mono fun _ hid => isRegistered_register.mpr (.inr hid)
  pending := h.pending

/-- The state after a registered section is removed. -/
theorem remove_of_registered (h : flow.isRegistered id = true) : flow.remove id = { flow with
    sections := flow.sections.filter (·.id ≠ id)
    state := flow.state.forget id
    timer := if flow.timer.isPendingFor id then .cancelled else flow.timer } :=
  if_pos h

theorem Anchored.remove (h : flow.Anchored) (id : String) : (flow.remove id).Anchored := by
  by_cases hid : flow.isRegistered id = true
  · constructor
    · have hwithin : (flow.remove id).state.Within fun other => flow.isRegistered other && other ≠ id := by
        rw [remove_of_registered hid]
        exact h.within.forget id
      exact hwithin.mono fun other hother => isRegistered_remove.mpr (by simpa using hother)
    · rw [remove_of_registered hid]
      intro advance hpending
      dsimp only at hpending
      split at hpending
      · cases hpending
      · next hother =>
        have hne : advance.sectionId ≠ id := by simpa [Timer.isPendingFor, hpending] using hother
        exact Option.filter_eq_some_iff.mpr ⟨h.pending advance hpending, by simpa using hne⟩
  · have hsame : flow.remove id = flow := if_neg hid
    rwa [hsame]

theorem anchored_importState (flow : Flow) (state : FlowState) : (flow.importState state).Anchored :=
  ⟨FlowState.within_restrict state flow.isRegistered, nofun⟩

theorem anchored_reset (flow : Flow) : flow.reset.Anchored := ⟨FlowState.within_empty _, nofun⟩

theorem Anchored.moves (h : flow.Anchored) (hmoves : Moves flow flow') : flow'.Anchored :=
  hmoves.keep (fun hmove => hmove.anchored) h

theorem Anchored.updateAdvance (h : flow.Anchored) (ctx : Context) (now : Instant) :
    (flow.updateAdvance ctx now).Anchored := by
  obtain ⟨engine, timer, heq, htimer⟩ := updateAdvance_eq flow ctx now
  rw [heq]
  refine ⟨h.within, fun advance hpending => ?_⟩
  dsimp only at hpending ⊢
  rcases htimer with ⟨rfl, -⟩ | ⟨s, hs, -, -, rfl⟩
  · cases hpending
  · split at hpending
    · exact h.pending advance hpending
    · cases hpending
      exact id_of_current? hs

theorem Anchored.recalculate (h : flow.Anchored) (ctx : Context) (now : Instant) :
    (flow.recalculate ctx now).Anchored := by
  rw [recalculate_eq]
  have hupdated := (h.moves (settled_moves flow ctx)).updateAdvance ctx now
  exact ⟨hupdated.within, hupdated.pending⟩

theorem Anchored.step (h : flow.Anchored) (operation : Operation) : (flow.step operation).Anchored := by
  cases operation with
  | register s => exact h.register s
  | remove id => exact h.remove id
  | navigateTo ctx id => exact h.moves (navigateTo_moves flow ctx id)
  | navigateNext ctx skipValidation => exact h.moves (navigateNext_moves flow ctx skipValidation)
  | navigatePrevious ctx => exact h.moves (navigatePrevious_moves flow ctx)
  | recalculate ctx now => exact h.recalculate ctx now
  | poll ctx now => exact h.moves (poll_moves flow ctx now)
  | cancelAdvance => exact h.cancel
  | importState state => exact anchored_importState flow state
  | reset => exact anchored_reset flow
  | subscribe failsOn => exact ⟨h.within, h.pending⟩
  | unsubscribe id => exact ⟨h.within, h.pending⟩
  | evaluate engine => exact ⟨h.within, h.pending⟩

theorem anchored_run (options : FlowOptions) (operations : List Operation) : (run options operations).Anchored :=
  List.foldlRecOn operations step (motive := Anchored) (anchored_new options)
    fun _ h operation _ => h.step operation

theorem Move.retraceable (hmove : Move flow flow') (h : flow.state.Retraceable) : flow'.state.Retraceable := by
  cases hmove with
  | evaluate _ => exact h
  | emit _ => exact h
  | @enter id hid remember =>
    by_cases hcurrent : flow.state.current? = some id
    · rwa [enter_of_current hcurrent]
    · rw [enter_of_ne hcurrent]
      exact h.entered id remember
  | @complete id hid =>
    refine { h with completed := fun other hother => ?_ }
    rcases mem_insert_iff.mp hother with rfl | hcompleted
    · exact h.current _ hid
    · exact h.completed other hcompleted
  | giveUp => exact { h with current := nofun }
  | drop hsuffix => exact { h with history := fun id hid => h.history id (hsuffix.subset hid) }
  | cancel => exact h

theorem retraceable_moves (h : flow.state.Retraceable) (hmoves : Moves flow flow') : flow'.state.Retraceable :=
  hmoves.keep (P := fun f => f.state.Retraceable) (fun hmove => hmove.retraceable) h

theorem state_recalculate (flow : Flow) (ctx : Context) (now : Instant) :
    (flow.recalculate ctx now).state = (flow.settled ctx).state := by
  obtain ⟨engine, timer, heq, -⟩ := updateAdvance_eq (flow.settled ctx) ctx now
  rw [recalculate_eq, heq]
  rfl

theorem retraceable_step (h : flow.state.Retraceable) {operation : Operation}
    (himport : ∀ state, operation = .importState state → state.Retraceable) :
    (flow.step operation).state.Retraceable := by
  cases operation with
  | remove id =>
    by_cases hid : flow.isRegistered id = true
    · rw [Flow.step, remove_of_registered hid]
      exact h.forget id
    · rwa [Flow.step, show flow.remove id = flow from if_neg hid]
  | navigateTo ctx id => exact retraceable_moves h (navigateTo_moves flow ctx id)
  | navigateNext ctx skipValidation => exact retraceable_moves h (navigateNext_moves flow ctx skipValidation)
  | navigatePrevious ctx => exact retraceable_moves h (navigatePrevious_moves flow ctx)
  | recalculate ctx now =>
    rw [Flow.step, state_recalculate]
    exact retraceable_moves h (settled_moves flow ctx)
  | poll ctx now => exact retraceable_moves h (poll_moves flow ctx now)
  | importState state => exact (himport state rfl).restrict flow.isRegistered
  | reset => exact FlowState.retraceable_empty
  | _ => exact h

theorem retraceable_run (options : FlowOptions) {operations : List Operation}
    (himport : ∀ state, .importState state ∈ operations → state.Retraceable) :
    (run options operations).state.Retraceable := by
  refine List.foldlRecOn operations step (motive := fun flow : Flow => flow.state.Retraceable)
    FlowState.retraceable_empty fun flow h operation hoperation => retraceable_step h fun state hstate => ?_
  exact himport state (hstate ▸ hoperation)

/-- The current section is registered. -/
theorem Anchored.exists_current (h : flow.Anchored) (hcurrent : flow.state.current? = some id) :
    ∃ s, flow.section? id = some s := by
  rw [← Option.isSome_iff_exists, section?_isSome]
  exact h.within.current id hcurrent

/-- Going on succeeds, or the current section is checked and incomplete. -/
theorem Anchored.navigateNext_fst (h : flow.Anchored) (ctx : Context) (skipValidation : Bool) :
    (∃ next, (flow.navigateNext ctx skipValidation).1 = .ok next) ∨ skipValidation = false ∧
      ∃ current, (flow.navigateNext ctx skipValidation).1 = .error (.incomplete current) := by
  cases hcurrent : flow.state.current? with
  | none => exact .inl (navigateNext_ok_of_none hcurrent ctx skipValidation)
  | some current =>
    obtain ⟨s, hs⟩ := h.exists_current hcurrent
    obtain ⟨engine, ⟨-, hnext⟩ | ⟨⟨hskip, -⟩, ⟨-, hnext⟩ | ⟨-, hnext⟩⟩⟩ :=
      navigateNext_cases hcurrent hs ctx skipValidation
    · exact .inl ⟨_, by rw [hnext]⟩
    · exact .inl ⟨_, by rw [hnext]⟩
    · exact .inr ⟨hskip, current, by rw [hnext]⟩

theorem Anchored.navigateNext_ne_notFound (h : flow.Anchored) (ctx : Context) (skipValidation : Bool)
    (id : String) : (flow.navigateNext ctx skipValidation).1 ≠ .error (.notFound id) := by
  rcases h.navigateNext_fst ctx skipValidation with ⟨next, hok⟩ | ⟨-, current, hincomplete⟩
  · rw [hok]
    exact nofun
  · rw [hincomplete]
    exact nofun

theorem Anchored.poll_ok (h : flow.Anchored) (ctx : Context) (now : Instant) :
    ∃ next, (flow.poll ctx now).1 = .ok next := by
  unfold poll
  split
  · exact ⟨none, rfl⟩
  · next advance timer htake =>
    have hholds : ({ flow with timer }.advanceHolds ctx advance.sectionId).2.Anchored := by
      rw [(Timer.of_takeDue htake).1]
      exact h.cancel.moves (advanceHolds_moves flow.cancelAdvance ctx advance.sectionId)
    dsimp only
    split
    · rcases hholds.navigateNext_fst ctx true with hok | ⟨hskip, -⟩
      · exact hok
      · cases hskip
    · exact ⟨none, rfl⟩

/-- In every run the state refers to registered sections only, a pending advance is that of the current section,
and with retraceable imports all that the state refers to has been visited. So going on never misses a section,
and polling never fails. -/
theorem run_anchored_and_retraceable (options : FlowOptions) (operations : List Operation) :
    (run options operations).Anchored ∧
      ((∀ state, .importState state ∈ operations → state.Retraceable) →
        (run options operations).state.Retraceable) ∧
      (∀ ctx skipValidation id,
        ((run options operations).navigateNext ctx skipValidation).1 ≠ .error (.notFound id)) ∧
      ∀ ctx now, ∃ next, ((run options operations).poll ctx now).1 = .ok next := by
  have h := anchored_run options operations
  exact ⟨h, retraceable_run options, h.navigateNext_ne_notFound, h.poll_ok⟩

end Flow

end FormRules

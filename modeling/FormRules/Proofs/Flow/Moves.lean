import Mathlib.Logic.Relation
import FormRules.Flow.Recalculation

/-!
# The moves of a flow

Between two changes of its sections a flow does little: it enters a registered section, completes the current
one, gives it up, drops a part of the history, and cancels the pending advance; beside that it evaluates formulas
and tells its listeners (`Move`). Navigation and polling are made of such moves (`navigateNext_moves` and others),
so what every move keeps, they keep. A recalculation is made of them too, but for its last step, which is the only
one that may set an advance (`updateAdvance_eq`).
-/

namespace FormRules

/-- The state after another section is entered. -/
def FlowState.entered (state : FlowState) (id : String) (remember : Bool) : FlowState :=
  let history := if remember then state.current?.toList ++ state.history else state.history
  { state with current? := some id, visited := state.visited.insert id, history }

/-- An advance that is taken was pending and due, and is pending no longer. -/
theorem Timer.of_takeDue {timer timer' : Timer} {now : Instant} {advance : Advance}
    (h : timer.takeDue now = (some advance, timer')) :
    timer' = .cancelled ∧ timer.pending? = some advance ∧ advance.due ≤ now := by
  unfold takeDue at h
  split at h
  · next hpending =>
    split at h
    · next hdue => cases h; exact ⟨rfl, hpending, hdue⟩
    · cases h
  · cases h

namespace Flow

open Formula (Context)

inductive Move : Flow → Flow → Prop where
  | evaluate {flow : Flow} (engine : Formula.Engine) : Move flow { flow with engine }
  | emit {flow : Flow} (event : Event) : Move flow (flow.emit event)
  | enter {flow : Flow} {id : String} (h : flow.isRegistered id = true) (remember : Bool) :
      Move flow (flow.enter id remember)
  | complete {flow : Flow} {id : String} (h : flow.state.current? = some id) : Move flow (flow.markCompleted id)
  | giveUp {flow : Flow} :
      Move flow { flow with state := { flow.state with current? := none }, timer := .cancelled }
  | drop {flow : Flow} {history : List String} (h : history <:+ flow.state.history) :
      Move flow { flow with state := { flow.state with history } }
  | cancel {flow : Flow} : Move flow flow.cancelAdvance

abbrev Moves : Flow → Flow → Prop := Relation.ReflTransGen Move

variable {flow flow' : Flow} {ctx : Context} {id : String}

/-- What every move keeps, any number of them keeps. -/
theorem Moves.keep {P : Flow → Prop} (hmove : ∀ {a b}, Move a b → P a → P b) (h : Moves flow flow')
    (hflow : P flow) : P flow' := by
  induction h with
  | refl => exact hflow
  | tail _ hlast ih => exact hmove hlast ih

theorem isRegistered_iff : flow.isRegistered id = true ↔ ∃ s ∈ flow.sections, s.id = id := by
  simp [isRegistered]

theorem section?_isSome : (flow.section? id).isSome = flow.isRegistered id := by
  rw [section?, isRegistered, List.isSome_find?]

theorem id_of_section? {s : Section} (h : flow.section? id = some s) : s.id = id := by
  simpa using List.find?_some h

theorem mem_of_section? {s : Section} (h : flow.section? id = some s) : s ∈ flow.sections :=
  List.mem_of_find?_eq_some h

theorem enter_of_current (h : flow.state.current? = some id) (remember : Bool) : flow.enter id remember = flow :=
  if_pos h

theorem enter_of_ne (h : flow.state.current? ≠ some id) (remember : Bool) :
    flow.enter id remember = { flow with
      state := flow.state.entered id remember
      timer := flow.timer.keptFor id
      bus := flow.bus.emit (.sectionChanged flow.state.current? id) } :=
  if_neg h

theorem current_enter (flow : Flow) (id : String) (remember : Bool) :
    (flow.enter id remember).state.current? = some id := by
  by_cases hcurrent : flow.state.current? = some id
  · rw [enter_of_current hcurrent, hcurrent]
  · rw [enter_of_ne hcurrent]
    rfl

theorem completed_enter (flow : Flow) (id : String) (remember : Bool) :
    (flow.enter id remember).state.completed = flow.state.completed := by
  by_cases hcurrent : flow.state.current? = some id
  · rw [enter_of_current hcurrent]
  · rw [enter_of_ne hcurrent]
    rfl

/-- A section that is entered for another reason than moving forward leaves the history as it is. -/
theorem history_enter (flow : Flow) (id : String) : (flow.enter id false).state.history = flow.state.history := by
  by_cases hcurrent : flow.state.current? = some id
  · rw [enter_of_current hcurrent]
  · rw [enter_of_ne hcurrent]
    rfl

theorem Move.sections_eq (h : Move flow flow') : flow'.sections = flow.sections := by
  cases h with
  | @enter id _ remember =>
    by_cases hcurrent : flow.state.current? = some id
    · rw [enter_of_current hcurrent]
    · rw [enter_of_ne hcurrent]
  | _ => rfl

theorem Moves.sections_eq (h : Moves flow flow') : flow'.sections = flow.sections :=
  h.keep (P := fun f => f.sections = flow.sections) (fun hmove heq => hmove.sections_eq.trans heq) rfl

theorem Moves.isRegistered_eq (h : Moves flow flow') (id : String) :
    flow'.isRegistered id = flow.isRegistered id := by
  rw [isRegistered, isRegistered, h.sections_eq]

theorem Moves.section?_eq (h : Moves flow flow') (id : String) : flow'.section? id = flow.section? id := by
  rw [section?, section?, h.sections_eq]

/-- A question about a section changes the engine alone. -/
theorem ask_eq (flow : Flow) (id : String) (question : Section → Formula.Engine → Bool × Formula.Engine) :
    ∃ engine, (flow.ask id question).2 = { flow with engine } := by
  unfold ask
  cases flow.section? id with
  | none => exact ⟨flow.engine, rfl⟩
  | some s => exact ⟨(question s flow.engine).2, rfl⟩

theorem ask_move (flow : Flow) (id : String) (question : Section → Formula.Engine → Bool × Formula.Engine) :
    Move flow (flow.ask id question).2 := by
  obtain ⟨engine, hengine⟩ := ask_eq flow id question
  rw [hengine]
  exact .evaluate engine

theorem state_ask (flow : Flow) (id : String) (question : Section → Formula.Engine → Bool × Formula.Engine) :
    (flow.ask id question).2.state = flow.state := by
  obtain ⟨engine, hengine⟩ := ask_eq flow id question
  rw [hengine]

/-- A yes is only said of a registered section. -/
theorem isRegistered_of_ask {question : Section → Formula.Engine → Bool × Formula.Engine}
    (h : (flow.ask id question).1 = true) : flow.isRegistered id = true := by
  unfold ask at h
  rw [← section?_isSome]
  cases hs : flow.section? id with
  | none => rw [hs] at h; cases h
  | some s => rfl

theorem survey_move (flow : Flow) (ctx : Context) : Move flow (flow.survey ctx).2 :=
  .evaluate (Section.survey ctx flow.sections flow.engine).2

theorem map_fst_survey (sections : List Section) (engine : Formula.Engine) :
    (Section.survey ctx sections engine).1.map (·.1) = sections := by
  induction sections generalizing engine with
  | nil => rfl
  | cons s rest ih => exact congrArg (s :: ·) (ih _)

/-- All sections of a list of shown ones are registered. -/
def ShowsRegistered (flow : Flow) (shown : List (Section × Bool)) : Prop :=
  ∀ entry ∈ shown, flow.isRegistered entry.1.id = true

theorem showsRegistered_survey (flow : Flow) (ctx : Context) : flow.ShowsRegistered (flow.survey ctx).1 := by
  intro entry hentry
  rw [isRegistered_iff]
  refine ⟨entry.1, ?_, rfl⟩
  have hmem : entry.1 ∈ ((flow.survey ctx).1.map (·.1)) := List.mem_map_of_mem hentry
  exact (map_fst_survey flow.sections flow.engine) ▸ hmem

theorem ShowsRegistered.moves {shown : List (Section × Bool)} (h : flow.ShowsRegistered shown)
    (hmoves : Moves flow flow') : flow'.ShowsRegistered shown := by
  intro entry hentry
  rw [hmoves.isRegistered_eq]
  exact h entry hentry

theorem ShowsRegistered.first {shown : List (Section × Bool)} (h : flow.ShowsRegistered shown)
    (hfirst : firstShown? shown = some id) : flow.isRegistered id = true := by
  obtain ⟨entry, hfind, rfl⟩ := Option.map_eq_some_iff.mp hfirst
  exact h entry (List.mem_of_find?_eq_some hfind)

theorem ShowsRegistered.next {shown : List (Section × Bool)} (h : flow.ShowsRegistered shown) {current : String}
    (hnext : nextShown? shown current = some id) : flow.isRegistered id = true := by
  refine ShowsRegistered.first (fun entry hentry => h entry ?_) hnext
  exact (List.dropWhile_sublist _).subset ((List.drop_sublist 1 _).subset hentry)

theorem navigateTo_moves (flow : Flow) (ctx : Context) (id : String) :
    Moves flow (flow.navigateTo ctx id).2 := by
  unfold navigateTo
  split
  · next hreg =>
    have hask : Move flow (flow.isVisible ctx id).2 := ask_move flow id _
    have hmoves : Moves flow (flow.isVisible ctx id).2 := .single hask
    dsimp only
    split
    · exact hmoves.tail (.enter (by rw [hmoves.isRegistered_eq, hreg]) true)
    · exact hmoves
  · exact .refl

theorem leave_moves {shown : List (Section × Bool)} (h : flow.ShowsRegistered shown) (current : String) :
    Moves flow (flow.leave shown current).2 := by
  unfold leave
  split
  · next hnext => exact .single (.enter (h.next hnext) true)
  · exact .tail (.single .cancel) (.emit _)

theorem navigateNext_moves (flow : Flow) (ctx : Context) (skipValidation : Bool) :
    Moves flow (flow.navigateNext ctx skipValidation).2 := by
  have hshown := showsRegistered_survey flow ctx
  have hsurvey : Moves flow (flow.survey ctx).2 := .single (survey_move flow ctx)
  unfold navigateNext
  generalize flow.survey ctx = surveyed at hshown hsurvey ⊢
  obtain ⟨shown, flow'⟩ := surveyed
  have hshown' : flow'.ShowsRegistered shown := hshown.moves hsurvey
  dsimp only
  split
  · split
    · next hfirst => exact hsurvey.tail (.enter (hshown'.first hfirst) true)
    · exact hsurvey
  · next current hcurrent =>
    split
    · exact hsurvey
    · next s hs =>
      have hcheck : Move flow' (if skipValidation then (true, flow') else flow'.isComplete ctx current).2 := by
        split
        · exact .evaluate flow'.engine
        · exact ask_move flow' current _
      have hstate : (if skipValidation then (true, flow') else flow'.isComplete ctx current).2.state =
          flow'.state := by
        split
        · rfl
        · exact state_ask flow' current _
      generalize (if skipValidation then (true, flow') else flow'.isComplete ctx current) = checked
        at hcheck hstate ⊢
      obtain ⟨complete, flow''⟩ := checked
      have hmoves : Moves flow flow'' := hsurvey.tail hcheck
      have hshown'' : flow''.ShowsRegistered shown := hshown'.moves (.single hcheck)
      dsimp only
      split
      · have hcompleted := hmoves.tail (.complete (hstate ▸ hcurrent))
        exact hcompleted.trans (leave_moves (hshown.moves hcompleted) current)
      · split
        · exact hmoves.trans (leave_moves hshown'' current)
        · exact hmoves.tail (.emit _)

theorem goBack_moves {flow : Flow} {history : List String} (hhistory : history <:+ flow.state.history)
    (ctx : Context) : Moves flow (flow.goBack ctx history).2 := by
  induction history generalizing flow with
  | nil => exact .single (.drop List.nil_suffix)
  | cons id rest ih =>
    have hrest : rest <:+ flow.state.history := (List.suffix_cons id rest).trans hhistory
    unfold goBack
    split
    · exact ih hrest
    · have hask : Move flow (flow.isVisible ctx id).2 := ask_move flow id _
      have hstate : (flow.isVisible ctx id).2.state = flow.state := state_ask flow id _
      have hregistered : (flow.isVisible ctx id).1 = true → flow.isRegistered id = true := isRegistered_of_ask
      generalize flow.isVisible ctx id = asked at hask hstate hregistered ⊢
      obtain ⟨visible, flow'⟩ := asked
      have hrest' : rest <:+ flow'.state.history := by rwa [show flow'.state = flow.state from hstate]
      dsimp only
      split
      · next hvisible =>
        have hdrop : Moves flow { flow' with state := { flow'.state with history := rest } } :=
          .tail (.single hask) (.drop hrest')
        exact hdrop.tail (.enter (by rw [hdrop.isRegistered_eq, hregistered hvisible]) false)
      · exact .head hask (ih hrest')

theorem navigatePrevious_moves (flow : Flow) (ctx : Context) : Moves flow (flow.navigatePrevious ctx).2 := by
  unfold navigatePrevious
  split
  · exact goBack_moves List.suffix_rfl ctx
  · exact .refl

theorem settle_moves {shown : List (Section × Bool)} (h : flow.ShowsRegistered shown) :
    Moves flow (flow.settle shown) := by
  unfold settle
  split
  · exact .refl
  · next current hcurrent =>
    split
    · exact .refl
    · split
      · next id hid =>
        refine .single (.enter ?_ false)
        rcases Option.or_eq_some_iff.mp hid with hnext | ⟨-, hfirst⟩
        · exact h.next hnext
        · exact h.first hfirst
      · exact .single .giveUp

/-- The flow of a recalculation before its last step, which is about the advance. -/
def settled (flow : Flow) (ctx : Context) : Flow := (flow.survey ctx).2.settle (flow.survey ctx).1

theorem settled_moves (flow : Flow) (ctx : Context) : Moves flow (flow.settled ctx) :=
  have hsurvey := survey_move flow ctx
  .head hsurvey (settle_moves ((showsRegistered_survey flow ctx).moves (.single hsurvey)))

theorem id_of_current? {s : Section} (h : flow.current? = some s) : flow.state.current? = some s.id := by
  obtain ⟨id, hid, hfind⟩ := Option.bind_eq_some_iff.mp h
  rw [hid, id_of_section? hfind]

/-- After the last step of a recalculation an advance is pending just if the current section asks for it; one that was
pending for it before is kept, else it is set. -/
theorem updateAdvance_eq (flow : Flow) (ctx : Context) (now : Instant) : ∃ engine timer,
    flow.updateAdvance ctx now = { flow with engine, timer } ∧
      ((timer = .cancelled ∧
        ∀ s, flow.current? = some s → s.autoAdvance = true → (flow.isComplete ctx s.id).1 = false) ∨
      ∃ s, flow.current? = some s ∧ s.autoAdvance = true ∧ (flow.isComplete ctx s.id).1 = true ∧
        timer = if flow.timer.isPendingFor s.id then flow.timer else .schedule s.id now s.advanceDelay) := by
  unfold updateAdvance
  cases hs : flow.current? with
  | none => exact ⟨flow.engine, .cancelled, rfl, .inl ⟨rfl, nofun⟩⟩
  | some s =>
    obtain ⟨engine, hengine⟩ : ∃ engine, (flow.isComplete ctx s.id).2 = { flow with engine } := ask_eq flow s.id _
    dsimp only
    rw [hengine]
    by_cases hauto : s.autoAdvance = true
    · rw [if_pos hauto]
      by_cases hcomplete : (flow.isComplete ctx s.id).1 = true
      · rw [if_pos hcomplete]
        refine ⟨engine, _, ?_, .inr ⟨s, rfl, hauto, hcomplete, rfl⟩⟩
        split <;> rfl
      · rw [if_neg hcomplete]
        refine ⟨engine, .cancelled, rfl, .inl ⟨rfl, ?_⟩⟩
        rintro _ ⟨⟩ -
        exact Bool.not_eq_true _ ▸ hcomplete
    · rw [if_neg hauto]
      refine ⟨flow.engine, .cancelled, rfl, .inl ⟨rfl, ?_⟩⟩
      rintro _ ⟨⟩ hauto'
      exact absurd hauto' hauto

theorem recalculate_eq (flow : Flow) (ctx : Context) (now : Instant) : flow.recalculate ctx now =
    ((flow.settled ctx).updateAdvance ctx now).emit (.flowRecalculated
      ((flow.settled ctx).updateAdvance ctx now).state.current?
      (((flow.survey ctx).1.filter (·.2)).map (·.1.id))) :=
  rfl

theorem advanceHolds_moves (flow : Flow) (ctx : Context) (id : String) :
    Moves flow (flow.advanceHolds ctx id).2 := by
  unfold advanceHolds
  split
  · have hvisible : Move flow (flow.isVisible ctx id).2 := ask_move flow id _
    dsimp only
    split
    · exact .tail (.single hvisible) (ask_move _ id _)
    · exact .single hvisible
  · exact .refl

theorem poll_moves (flow : Flow) (ctx : Context) (now : Instant) : Moves flow (flow.poll ctx now).2 := by
  unfold poll
  split
  · exact .refl
  · next advance timer htake =>
    have hholds := (advanceHolds_moves flow.cancelAdvance ctx advance.sectionId).head .cancel
    rw [(Timer.of_takeDue htake).1]
    dsimp only
    split
    · exact hholds.trans (navigateNext_moves _ ctx true)
    · exact hholds

end Flow

end FormRules

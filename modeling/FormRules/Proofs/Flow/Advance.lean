import FormRules.Proofs.Calendar.Order
import FormRules.Proofs.Flow.Answers
import FormRules.Proofs.Flow.Invariant
import FormRules.Proofs.Flow.Listeners

/-!
# Why a form moves on by itself

A pending advance has a history: a recalculation set it (`Sets`), and since then its section was current all the
time, and no operation spoke against it (`Permits`). One step either keeps a pending advance or is a recalculation
that sets it (`pending_step`), so by induction over a run every pending advance has such a history
(`exists_pendingSince`). A poll does something only if the pending advance is due and still holds
(`justifies_of_fires`), and takes it; so a poll is justified by a recalculation, and by one that justifies no other
poll (`poll_justified`).
-/

namespace FormRules.Flow

open Formula (Context)

/-- The flow before the operation at a place of a run, counted from zero, or after the whole run. -/
def flowAt (options : FlowOptions) (operations : List Operation) (place : Nat) : Flow :=
  run options (operations.take place)

/-- The section, in its present form, is complete and to be left by itself. -/
def Asks (flow : Flow) (ctx : Context) (s : Section) : Prop :=
  flow.section? s.id = some s ∧ s.autoAdvance = true ∧ (flow.isComplete ctx s.id).1 = true

/-- The operation is a recalculation that sets the advance, and no advance of the section was pending before. -/
def Sets (flow : Flow) (advance : Advance) : Operation → Prop
  | .recalculate ctx now => flow.timer.isPendingFor advance.sectionId = false ∧
      ∃ s, s.id = advance.sectionId ∧ flow.Asks ctx s ∧ advance.due = dueAfter now s.advanceDelay
  | _ => False

/-- The operation does not speak against a pending advance of the section. -/
def Permits (flow : Flow) (id : String) : Operation → Prop
  | .recalculate ctx _ => ∃ s, s.id = id ∧ flow.Asks ctx s
  | .cancelAdvance | .reset | .importState _ => False
  | _ => True

/-- The operation at the place `i` of a run set the advance, and since then nothing spoke against it, until the
operation at the place `j`. -/
structure PendingSince (options : FlowOptions) (operations : List Operation) (i j : Nat) (advance : Advance) :
    Prop where
  earlier : i < j
  set : ∃ operation, operations[i]? = some operation ∧ (flowAt options operations i).Sets advance operation
  pending : ∀ k, i < k → k ≤ j → (flowAt options operations k).timer.pending? = some advance
  current : ∀ k, i < k → k ≤ j → (flowAt options operations k).state.current? = some advance.sectionId
  permitted : ∀ k operation, i < k → k < j → operations[k]? = some operation →
    (flowAt options operations k).Permits advance.sectionId operation

/-- The advance is due, and its section is current, visible, complete and to be left by itself. -/
structure Justifies (flow : Flow) (ctx : Context) (now : Instant) (advance : Advance) (s : Section) : Prop where
  pending : flow.timer.pending? = some advance
  due : advance.due ≤ now
  left : s.id = advance.sectionId
  current : flow.state.current? = some s.id
  visible : (flow.isVisible ctx s.id).1 = true
  asks : flow.Asks ctx s

/-- The poll at the place `j` of a run finds an advance due that was set at the place `i`. -/
def TakenAt (options : FlowOptions) (operations : List Operation) (i j : Nat) (advance : Advance) : Prop :=
  PendingSince options operations i j advance ∧
    ∃ ctx now, operations[j]? = some (.poll ctx now) ∧ advance.due ≤ now

/-- An advance that is pending in the second flow is so in the first one, and both have the same current section. -/
def Keeps (flow flow' : Flow) : Prop := ∀ advance, flow'.timer.pending? = some advance →
  flow.timer.pending? = some advance ∧ flow'.state.current? = flow.state.current?

variable {flow flow' : Flow} {ctx : Context} {now : Instant} {advance : Advance} {s : Section}

theorem Move.keeps (hmove : Move flow flow') (h : flow.Anchored) : Keeps flow flow' := by
  intro advance hpending
  cases hmove with
  | @enter id hid remember =>
    by_cases hcurrent : flow.state.current? = some id
    · rw [enter_of_current hcurrent] at hpending ⊢
      exact ⟨hpending, rfl⟩
    · -- an advance of the section entered would be one of the section that was current
      have hentered := (h.enter hid remember).pending advance hpending
      rw [enter_of_ne hcurrent] at hpending hentered
      dsimp only [Timer.keptFor] at hpending
      split at hpending
      · cases hentered
        exact absurd (h.pending advance hpending) hcurrent
      · cases hpending
  | giveUp => cases hpending
  | cancel => cases hpending
  | _ => exact ⟨hpending, rfl⟩

theorem Anchored.keeps (h : flow.Anchored) (hmoves : Moves flow flow') : Keeps flow flow' := by
  induction hmoves with
  | refl => exact fun _ hpending => ⟨hpending, rfl⟩
  | tail hmoves hlast ih =>
    intro advance hpending
    obtain ⟨hpending', hcurrent'⟩ := hlast.keeps (h.moves hmoves) advance hpending
    obtain ⟨hpending, hcurrent⟩ := ih advance hpending'
    exact ⟨hpending, hcurrent'.trans hcurrent⟩

theorem timer_enter {id : String} {remember : Bool}
    (h : (flow.enter id remember).state.current? = flow.state.current?) :
    (flow.enter id remember).timer = flow.timer := by
  by_cases hcurrent : flow.state.current? = some id
  · rw [enter_of_current hcurrent]
  · rw [enter_of_ne hcurrent] at h
    exact absurd h.symm hcurrent

/-- A flow that settles on the section that was current has the same timer. -/
theorem timer_settled (h : (flow.settled ctx).state.current? = flow.state.current?) :
    (flow.settled ctx).timer = flow.timer := by
  obtain ⟨engine, ⟨-, hsettled⟩ | ⟨current, hcurrent, -, hsettled⟩⟩ := settled_cases flow ctx
  · rw [hsettled]
  · rw [hsettled] at h ⊢
    cases hreplacement : replacement? (flow.shown ctx) current with
    | some id =>
      -- the replacement can only be the section that is current already
      rw [hreplacement] at h
      exact @timer_enter { flow with engine } id false h
    | none =>
      rw [hreplacement] at h
      cases h.trans hcurrent

/-- After a recalculation an advance is pending only if its section asks for it; it was pending before or is set. -/
theorem Anchored.pending_recalculate (h : flow.Anchored)
    (hpending : (flow.recalculate ctx now).timer.pending? = some advance) :
    (flow.timer.pending? = some advance ∧ flow.Permits advance.sectionId (.recalculate ctx now)) ∨
      flow.Sets advance (.recalculate ctx now) := by
  have hsettled := settled_moves flow ctx
  obtain ⟨engine, timer, heq, htimer⟩ := updateAdvance_eq (flow.settled ctx) ctx now
  rw [recalculate_eq, heq] at hpending
  rcases htimer with ⟨rfl, -⟩ | ⟨s, hs, hauto, hcomplete, rfl⟩
  · cases hpending
  have hcurrent := id_of_current? hs
  have hasks : flow.Asks ctx s := by
    rw [Flow.current?, hcurrent, Option.bind_some] at hs
    rw [isComplete_fst, hsettled.section?_eq, ← isComplete_fst] at hcomplete
    exact ⟨hsettled.section?_eq s.id ▸ hs, hauto, hcomplete⟩
  dsimp only [Flow.emit] at hpending
  split at hpending
  · left
    obtain ⟨hbefore, -⟩ := h.keeps hsettled advance hpending
    have hid := (h.moves hsettled).pending advance hpending
    exact ⟨hbefore, s, Option.some.inj (hcurrent.symm.trans hid), hasks⟩
  · next hnew =>
    right
    cases hpending
    refine ⟨?_, s, rfl, hasks, rfl⟩
    -- an advance of the section that was pending before would still be so
    by_contra hbefore
    rw [Bool.not_eq_false] at hbefore
    obtain ⟨before, hpending, hid⟩ := Option.any_eq_true _ _ |>.mp hbefore
    rw [decide_eq_true_eq] at hid
    have hsame : (flow.settled ctx).state.current? = flow.state.current? := by
      rw [hcurrent, h.pending before hpending, hid]
    exact hnew (timer_settled hsame ▸ hbefore)

/-- One step keeps a pending advance and does not speak against it, or it sets it. -/
theorem Anchored.pending_step (h : flow.Anchored) {operation : Operation}
    (hpending : (flow.step operation).timer.pending? = some advance) :
    (flow.timer.pending? = some advance ∧ flow.Permits advance.sectionId operation) ∨
      flow.Sets advance operation := by
  cases operation with
  | remove id =>
    refine .inl ⟨?_, trivial⟩
    by_cases hid : flow.isRegistered id = true
    · rw [Flow.step, remove_of_registered hid] at hpending
      dsimp only at hpending
      split at hpending
      · cases hpending
      · exact hpending
    · rwa [Flow.step, show flow.remove id = flow from if_neg hid] at hpending
  | navigateTo ctx id => exact .inl ⟨(h.keeps (navigateTo_moves flow ctx id) advance hpending).1, trivial⟩
  | navigateNext ctx skipValidation =>
    exact .inl ⟨(h.keeps (navigateNext_moves flow ctx skipValidation) advance hpending).1, trivial⟩
  | navigatePrevious ctx => exact .inl ⟨(h.keeps (navigatePrevious_moves flow ctx) advance hpending).1, trivial⟩
  | poll ctx now => exact .inl ⟨(h.keeps (poll_moves flow ctx now) advance hpending).1, trivial⟩
  | recalculate ctx now => exact h.pending_recalculate hpending
  | cancelAdvance => cases hpending
  | importState state => cases hpending
  | reset => cases hpending
  | _ => exact .inl ⟨hpending, trivial⟩

section

variable {options : FlowOptions} {operations : List Operation} {i j k : Nat}

theorem flowAt_succ {operation : Operation} (h : operations[j]? = some operation) :
    flowAt options operations (j + 1) = (flowAt options operations j).step operation := by
  rw [flowAt, List.take_add_one, h, run, List.foldl_append]
  rfl

theorem flowAt_succ_of_none (h : operations[j]? = none) :
    flowAt options operations (j + 1) = flowAt options operations j := by
  rw [flowAt, List.take_add_one, h, Option.toList_none, List.append_nil]
  rfl

theorem anchored_flowAt (options : FlowOptions) (operations : List Operation) (j : Nat) :
    (flowAt options operations j).Anchored :=
  anchored_run options (operations.take j)

/-- An advance that a step keeps is pending since the same place. -/
theorem PendingSince.succ (h : PendingSince options operations i j advance)
    (hpending : (flowAt options operations (j + 1)).timer.pending? = some advance)
    (hpermitted : ∀ operation, operations[j]? = some operation →
      (flowAt options operations j).Permits advance.sectionId operation) :
    PendingSince options operations i (j + 1) advance where
  earlier := h.earlier.trans (Nat.lt_succ_self j)
  set := h.set
  pending k hik hkj := by
    rcases Nat.le_succ_iff.mp hkj with hkj | rfl
    · exact h.pending k hik hkj
    · exact hpending
  current k hik hkj := by
    rcases Nat.le_succ_iff.mp hkj with hkj | rfl
    · exact h.current k hik hkj
    · exact (anchored_flowAt options operations (j + 1)).pending advance hpending
  permitted k operation hik hkj hoperation := by
    rcases Nat.lt_succ_iff_lt_or_eq.mp hkj with hkj | rfl
    · exact h.permitted k operation hik hkj hoperation
    · exact hpermitted operation hoperation

/-- An advance that a step sets is pending since then. -/
theorem pendingSince_of_sets {operation : Operation} (hoperation : operations[i]? = some operation)
    (hsets : (flowAt options operations i).Sets advance operation)
    (hpending : (flowAt options operations (i + 1)).timer.pending? = some advance) :
    PendingSince options operations i (i + 1) advance where
  earlier := Nat.lt_succ_self i
  set := ⟨operation, hoperation, hsets⟩
  pending k hik hki := by
    rw [Nat.le_antisymm hki hik]
    exact hpending
  current k hik hki := by
    rw [Nat.le_antisymm hki hik]
    exact (anchored_flowAt options operations (i + 1)).pending advance hpending
  permitted k operation hik hki := absurd hik (Nat.not_lt.mpr (Nat.lt_succ_iff.mp hki))

theorem exists_pendingSince (options : FlowOptions) (operations : List Operation) {j : Nat}
    (hpending : (flowAt options operations j).timer.pending? = some advance) :
    ∃ i, PendingSince options operations i j advance := by
  induction j with
  | zero => cases hpending
  | succ j ih =>
    cases hoperation : operations[j]? with
    | none =>
      -- behind the end of the run nothing changes any more
      obtain ⟨i, hi⟩ := ih (flowAt_succ_of_none hoperation ▸ hpending)
      refine ⟨i, hi.succ hpending fun operation hsome => ?_⟩
      rw [hoperation] at hsome
      cases hsome
    | some operation =>
      have hstep := hpending
      rw [flowAt_succ hoperation] at hstep
      rcases (anchored_flowAt options operations j).pending_step hstep with ⟨hbefore, hpermits⟩ | hsets
      · obtain ⟨i, hi⟩ := ih hbefore
        refine ⟨i, hi.succ hpending fun operation' hsome => ?_⟩
        cases hoperation.symm.trans hsome
        exact hpermits
      · exact ⟨j, pendingSince_of_sets hoperation hsets hpending⟩

end

/-- An advance is not due before it is set. -/
theorem le_dueAfter (now : Instant) (delay : UInt64) : now ≤ dueAfter now delay := by
  simp only [dueAfter]
  split
  · exact now.le_later _
  · exact Instant.le_of_nanos (Int.le_refl _) rfl

/-- An advance that is set in a leap second and due in it is due at the start of the next second. -/
example : dueAfter (.ofLeapSecond 24720479 300000000) 100 ≤ .ofMillis 1483228800000 := by decide

theorem poll_of_not_due (h : ∀ advance, flow.timer.pending? = some advance → ¬advance.due ≤ now)
    (ctx : Context) : flow.poll ctx now = (.ok none, flow) := by
  have htake : flow.timer.takeDue now = (none, flow.timer) := by
    unfold Timer.takeDue
    split
    · next advance hpending => rw [if_neg (h advance hpending)]
    · rfl
  rw [poll, htake]

/-- A poll takes an advance that is due, and goes on if its section is current and advances on the form. -/
theorem poll_of_due (hpending : flow.timer.pending? = some advance) (hdue : advance.due ≤ now)
    (ctx : Context) : ∃ engine, flow.poll ctx now =
      if decide (flow.state.current? = some advance.sectionId) &&
          (flow.section? advance.sectionId).any (·.advancesIn ctx) then
        { flow with engine, timer := .cancelled }.navigateNext ctx true
      else (.ok none, { flow with engine, timer := .cancelled }) := by
  have htake : flow.timer.takeDue now = (some advance, .cancelled) := by
    rw [Timer.takeDue, hpending]
    exact if_pos hdue
  obtain ⟨engine, hholds⟩ := advanceHolds_eq flow.cancelAdvance ctx advance.sectionId
  refine ⟨engine, ?_⟩
  unfold poll
  rw [htake]
  dsimp only
  rw [show ({ flow with timer := .cancelled } : Flow) = flow.cancelAdvance from rfl, hholds]
  rfl

/-- A poll leaves no advance pending that was due. -/
theorem Anchored.pending_poll_of_due (h : flow.Anchored) (hpending : flow.timer.pending? = some advance)
    (hdue : advance.due ≤ now) (ctx : Context) : (flow.poll ctx now).2.timer.pending? = none := by
  obtain ⟨engine, hpoll⟩ := poll_of_due hpending hdue ctx
  have htaken : ({ flow with engine, timer := .cancelled } : Flow).Anchored := ⟨h.within, nofun⟩
  rw [hpoll]
  split
  · refine Option.eq_none_iff_forall_ne_some.mpr fun advance' hpending' => ?_
    exact nomatch (htaken.keeps (navigateNext_moves _ ctx true) advance' hpending').1
  · rfl

theorem Justifies.advances (h : flow.Justifies ctx now advance s) : s.advancesIn ctx = true := by
  obtain ⟨hs, hauto, hcomplete⟩ := h.asks
  have hvisible := h.visible
  rw [isVisible_fst, hs, Option.any_some] at hvisible
  rw [isComplete_fst, hs, Option.any_some] at hcomplete
  exact Section.advancesIn_iff.mpr ⟨hauto, hvisible, hcomplete⟩

theorem justifies_of_advances (hpending : flow.timer.pending? = some advance)
    (hdue : advance.due ≤ now) (hleft : s.id = advance.sectionId)
    (hcurrent : flow.state.current? = some s.id) (hs : flow.section? s.id = some s)
    (hadvances : s.advancesIn ctx = true) : flow.Justifies ctx now advance s := by
  obtain ⟨hauto, hvisible, hcomplete⟩ := Section.advancesIn_iff.mp hadvances
  refine ⟨hpending, hdue, hleft, hcurrent, ?_, hs, hauto, ?_⟩
  · rw [isVisible_fst, hs, Option.any_some, hvisible]
  · rw [isComplete_fst, hs, Option.any_some, hcomplete]

/-- Who listens has no part in the justification. -/
theorem Justifies.onBus (h : flow.Justifies ctx now advance s) (bus : Bus) :
    ({ flow with bus } : Flow).Justifies ctx now advance s :=
  justifies_of_advances h.pending h.due h.left h.current h.asks.1 h.advances

/-- A poll without a justified advance changes at most the engine and the timer. -/
theorem poll_of_unjustified (h : ∀ advance s, ¬flow.Justifies ctx now advance s) :
    ∃ engine timer, (flow.poll ctx now).2 = { flow with engine, timer } := by
  by_cases hdue : ∃ advance, flow.timer.pending? = some advance ∧ advance.due ≤ now
  · obtain ⟨advance, hpending, hdue⟩ := hdue
    obtain ⟨engine, hpoll⟩ := poll_of_due hpending hdue ctx
    refine ⟨engine, .cancelled, ?_⟩
    rw [hpoll, if_neg]
    rw [Bool.and_eq_true, decide_eq_true_eq, Option.any_eq_true]
    rintro ⟨hcurrent, s, hs, hadvances⟩
    have hid := id_of_section? hs
    rw [← hid] at hs hcurrent
    exact h advance s (justifies_of_advances hpending hdue hid hcurrent hs hadvances)
  · refine ⟨flow.engine, flow.timer, ?_⟩
    rw [poll_of_not_due]
    exact fun advance hpending hle => hdue ⟨advance, hpending, hle⟩

/-- A poll that changes the current section or tells of a completed form takes a justified advance. -/
theorem justifies_of_fires (h : (flow.poll ctx now).2.state.current? ≠ flow.state.current? ∨
      ∃ completed, .formCompleted completed ∈ flow.told (.poll ctx now)) :
    ∃ advance s, flow.Justifies ctx now advance s := by
  by_contra hnone
  simp only [not_exists] at hnone
  rcases h with hchanged | ⟨completed, htold⟩
  · obtain ⟨engine, timer, hpoll⟩ := poll_of_unjustified hnone
    exact hchanged (by rw [hpoll])
  · have hnone' : ∀ advance s, ¬({ flow with bus := .single } : Flow).Justifies ctx now advance s :=
      fun advance s hjustifies => hnone advance s (hjustifies.onBus flow.bus)
    obtain ⟨engine, timer, hpoll⟩ := poll_of_unjustified hnone'
    rw [told, step, hpoll] at htold
    cases htold

/-- A poll that changes the current section or tells of a completed form leaves a section that is current, visible,
complete and to be left by itself, for an advance that is due, that a recalculation of the run has set, and against
which nothing has spoken since. No two polls of a run take an advance that the same recalculation has set. -/
theorem poll_justified (options : FlowOptions) (operations : List Operation) :
    (∀ j ctx now, operations[j]? = some (.poll ctx now) →
      ((flowAt options operations (j + 1)).state.current? ≠ (flowAt options operations j).state.current? ∨
        ∃ completed, .formCompleted completed ∈ (flowAt options operations j).told (.poll ctx now)) →
      ∃ i advance s, (flowAt options operations j).Justifies ctx now advance s ∧
        TakenAt options operations i j advance) ∧
      ∀ i j k advance advance', TakenAt options operations i j advance → TakenAt options operations i k advance' →
        j = k := by
  constructor
  · intro j ctx now hpoll hfires
    rw [flowAt_succ hpoll] at hfires
    obtain ⟨advance, s, hjustifies⟩ := justifies_of_fires hfires
    obtain ⟨i, hsince⟩ := exists_pendingSince options operations hjustifies.pending
    exact ⟨i, advance, s, hjustifies, hsince, ctx, now, hpoll, hjustifies.due⟩
  · have hearliest : ∀ i j k advance advance', TakenAt options operations i j advance →
        PendingSince options operations i k advance' → ¬j < k := by
      rintro i j k advance advance' ⟨hsince, ctx, now, hpoll, hdue⟩ hsince' hjk
      have hpending := hsince.pending j hsince.earlier le_rfl
      -- the poll leaves nothing pending, but later the other advance would still be so
      have htaken := (anchored_flowAt options operations j).pending_poll_of_due hpending hdue ctx
      have hlater := hsince'.pending (j + 1) (hsince.earlier.trans (Nat.lt_succ_self j)) hjk
      rw [flowAt_succ hpoll, step, htaken] at hlater
      cases hlater
    intro i j k advance advance' hj hk
    exact Nat.le_antisymm (Nat.not_lt.mp (hearliest i k j advance' advance hk hj.1))
      (Nat.not_lt.mp (hearliest i j k advance advance' hj hk.1))

/-- A form with the value of its only field, which is required. -/
def nameForm (name : Value) : Context where
  data := .ofList [("name", name)]
  fields := .ofList [("name", FieldMeta.mk "name" "Name" "" none true)]
  now := .ofMillis 0

/-- A section that is left by itself ten milliseconds after its field is filled, which is at 5, and two polls. -/
def hurried : List Operation :=
  [.register { id := "first", fields := ["name"], autoAdvance := true, advanceDelay := 10 },
    .register { id := "second", order := 1 },
    .navigateTo (nameForm .null) "first",
    .recalculate (nameForm .null) (.ofMillis 0),
    .recalculate (nameForm (.text "Ada")) (.ofMillis 5),
    .poll (nameForm (.text "Ada")) (.ofMillis 14),
    .poll (nameForm (.text "Ada")) (.ofMillis 15)]

/-- The second poll comes when the advance is due, and is the only one to take it. -/
theorem poll_justified_hurried :
    (flowAt {} hurried 6).state.current? = some "first" ∧ (flowAt {} hurried 7).state.current? = some "second" ∧
      (flowAt {} hurried 6).timer.pending? = some ⟨"first", .ofMillis 15⟩ ∧
      ∃ i advance s, (flowAt {} hurried 6).Justifies (nameForm (.text "Ada")) (.ofMillis 15) advance s ∧
        TakenAt {} hurried i 6 advance ∧ ∀ k advance', TakenAt {} hurried i k advance' → k = 6 := by
  have hbefore : (flowAt {} hurried 6).state.current? = some "first" := by decide +kernel
  have hafter : (flowAt {} hurried 7).state.current? = some "second" := by decide +kernel
  obtain ⟨hjustified, honce⟩ := poll_justified {} hurried
  obtain ⟨i, advance, s, hjustifies, htaken⟩ := hjustified 6 _ _ rfl (.inl (by rw [hbefore, hafter]; decide))
  exact ⟨hbefore, hafter, by decide +kernel, i, advance, s, hjustifies, htaken,
    fun k advance' hk => (honce i 6 k advance advance' htaken hk).symm⟩

end FormRules.Flow

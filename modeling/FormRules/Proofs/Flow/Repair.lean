import FormRules.Proofs.Flow.Succession

/-!
# Repairing the current section

A recalculation leaves a current section that is visible as it is, and puts the next visible section in the place of a
hidden one, else the first visible one, else none (`Anchored.current_settled`). Afterwards the flow is `Steady`: the
current section is visible, and an advance is pending just if this section is to be left by itself. A steady flow is
kept by every further recalculation on the form (`Steady.recalculate`), whenever it comes.
-/

namespace FormRules.Flow

open Formula (Context)

/-- What takes the place of a section: the first visible one of those after it, else the first visible one of all. -/
def IsReplacement (flow : Flow) (ctx : Context) (id : String) (new? : Option String) : Prop :=
  ∃ before s after next? first?, flow.sections = before ++ s :: after ∧ s.id = id ∧
    flow.IsFirstVisible ctx after next? ∧ flow.IsFirstVisible ctx flow.sections first? ∧
    new? = next?.or first?

/-- The section is current, complete, and to be left by itself. -/
def IsLeaving (flow : Flow) (ctx : Context) (s : Section) : Prop :=
  flow.current? = some s ∧ s.autoAdvance = true ∧ (flow.isComplete ctx s.id).1 = true

/-- The current section is visible, and an advance is pending for it just if it is to be left by itself. -/
structure Steady (flow : Flow) (ctx : Context) : Prop where
  visible : ∀ id, flow.state.current? = some id → (flow.isVisible ctx id).1 = true
  awaited : ∀ s, flow.IsLeaving ctx s → flow.timer.isPendingFor s.id = true
  idle : (∀ s, ¬ flow.IsLeaving ctx s) → flow.timer = .cancelled

variable {flow flow' : Flow} {ctx : Context} {now : Instant} {id : String} {s : Section} {new? : Option String}

theorem IsReplacement.visible (h : flow.IsReplacement ctx id new?) {next : String}
    (hnext : new? = some next) : (flow.isVisible ctx next).1 = true := by
  obtain ⟨before, s, after, next?, first?, -, -, hafter, hall, rfl⟩ := h
  rcases Option.or_eq_some_iff.mp hnext with rfl | ⟨-, rfl⟩
  · exact hafter.visible
  · exact hall.visible

/-- A visible current section stays, and so does none; a hidden one is replaced. -/
theorem Anchored.current_settled (h : flow.Anchored) (hdistinct : flow.Distinct) (ctx : Context) :
    ((∀ id, flow.state.current? = some id → (flow.isVisible ctx id).1 = true) ∧
      (flow.settled ctx).state.current? = flow.state.current?) ∨
    ∃ id, flow.state.current? = some id ∧ (flow.isVisible ctx id).1 = false ∧
      flow.IsReplacement ctx id (flow.settled ctx).state.current? := by
  obtain ⟨engine, ⟨hvisible, hsettled⟩ | ⟨id, hcurrent, hhidden, hsettled⟩⟩ := settled_cases flow ctx
  · refine .inl ⟨fun id hid => ?_, by rw [hsettled]⟩
    obtain ⟨s, hs, rfl, hshown⟩ := hvisible id hid
    rw [hdistinct.isVisible_fst hs, hshown]
  · obtain ⟨before, s, after, hsections, rfl, hs⟩ := h.exists_place hcurrent
    have hreplaced : (flow.settled ctx).state.current? = replacement? (flow.shown ctx) s.id := by
      rw [hsettled]
      cases replacement? (flow.shown ctx) s.id with
      | some next => exact current_enter _ next false
      | none => rfl
    refine .inr ⟨s.id, hcurrent, ?_, before, s, after, _, _, hsections, rfl,
      hdistinct.isFirstVisible_next hsections, hdistinct.isFirstVisible (List.Subset.refl _), hreplaced⟩
    rw [isVisible_fst, hs, Option.any_some, hhidden s (mem_of_section? hs) rfl]

theorem history_and_completed_settled (flow : Flow) (ctx : Context) :
    (flow.settled ctx).state.history = flow.state.history ∧
      (flow.settled ctx).state.completed = flow.state.completed := by
  obtain ⟨engine, ⟨-, hsettled⟩ | ⟨id, -, -, hsettled⟩⟩ := settled_cases flow ctx
  · rw [hsettled]
    exact ⟨rfl, rfl⟩
  · rw [hsettled]
    cases replacement? (flow.shown ctx) id with
    | some next => exact ⟨history_enter _ next, completed_enter _ next false⟩
    | none => exact ⟨rfl, rfl⟩

theorem isLeaving_congr (hsections : flow'.sections = flow.sections)
    (hcurrent : flow'.state.current? = flow.state.current?) : flow'.IsLeaving ctx s ↔ flow.IsLeaving ctx s := by
  have hsame : flow'.section? = flow.section? := funext fun id => by rw [section?, section?, hsections]
  rw [IsLeaving, IsLeaving, current?, current?, hcurrent, isComplete_fst, isComplete_fst, hsame]

theorem isLeaving_recalculate :
    (flow.recalculate ctx now).IsLeaving ctx s ↔ (flow.settled ctx).IsLeaving ctx s := by
  refine isLeaving_congr ?_ (by rw [state_recalculate])
  rw [sections_recalculate, (settled_moves flow ctx).sections_eq]

/-- After a recalculation an advance is pending for the current section if it is to be left by itself, else none is. -/
theorem timer_recalculate (flow : Flow) (ctx : Context) (now : Instant) :
    ((flow.recalculate ctx now).timer = .cancelled ∧ ∀ s, ¬ (flow.settled ctx).IsLeaving ctx s) ∨
    ∃ s, (flow.settled ctx).IsLeaving ctx s ∧ (flow.recalculate ctx now).timer =
      if (flow.settled ctx).timer.isPendingFor s.id then (flow.settled ctx).timer
      else .schedule s.id now s.advanceDelay := by
  obtain ⟨engine, timer, hupdate, htimer⟩ := updateAdvance_eq (flow.settled ctx) ctx now
  have hresult : (flow.recalculate ctx now).timer = timer := by
    rw [recalculate_eq, hupdate]
    rfl
  rw [hresult]
  refine htimer.imp (fun ⟨hcancelled, hidle⟩ => ⟨hcancelled, ?_⟩) fun ⟨s, hs, hauto, hcomplete, hset⟩ =>
    ⟨s, ⟨hs, hauto, hcomplete⟩, hset⟩
  rintro s ⟨hs, hauto, hcomplete⟩
  rw [hidle s hs hauto] at hcomplete
  cases hcomplete

theorem Anchored.steady_recalculate (h : flow.Anchored) (hdistinct : flow.Distinct) (ctx : Context) (now : Instant) :
    (flow.recalculate ctx now).Steady ctx where
  visible id hid := by
    rw [isVisible_congr (sections_recalculate flow ctx now)]
    rw [state_recalculate] at hid
    rcases h.current_settled hdistinct ctx with ⟨hvisible, hsame⟩ | ⟨hidden, -, -, hreplaced⟩
    · exact hvisible id (hsame ▸ hid)
    · exact hreplaced.visible hid
  awaited s hs := by
    rw [isLeaving_recalculate] at hs
    rcases timer_recalculate flow ctx now with ⟨-, hidle⟩ | ⟨s', hs', htimer⟩
    · exact absurd hs (hidle s)
    · obtain rfl := Option.some.inj (hs.1.symm.trans hs'.1)
      rw [htimer]
      split
      · assumption
      · exact decide_eq_true rfl
  idle hidle := by
    rcases timer_recalculate flow ctx now with ⟨hcancelled, -⟩ | ⟨s, hs, -⟩
    · exact hcancelled
    · exact absurd (isLeaving_recalculate.mpr hs) (hidle s)

/-- A recalculation keeps the state of a steady flow, and its pending advance with the due time. -/
theorem Steady.recalculate (h : flow.Steady ctx) (later : Instant) :
    (flow.recalculate ctx later).state = flow.state ∧ (flow.recalculate ctx later).timer = flow.timer := by
  obtain ⟨engine, hsettled⟩ := settled_of_visible h.visible
  have hleaving : ∀ s, (flow.settled ctx).IsLeaving ctx s ↔ flow.IsLeaving ctx s := fun s => by
    rw [hsettled]
    exact isLeaving_congr rfl rfl
  refine ⟨by rw [state_recalculate, hsettled], ?_⟩
  rcases timer_recalculate flow ctx later with ⟨hcancelled, hidle⟩ | ⟨s, hs, htimer⟩
  · rw [hcancelled, h.idle fun s hs => hidle s ((hleaving s).mpr hs)]
  · rw [htimer, hsettled]
    exact if_pos (h.awaited s ((hleaving s).mp hs))

theorem Steady.isSome_pending_iff (h : flow.Steady ctx) :
    flow.timer.pending?.isSome = true ↔ ∃ s, flow.IsLeaving ctx s := by
  constructor
  · intro hpending
    by_contra hnone
    rw [h.idle (not_exists.mp hnone)] at hpending
    cases hpending
  · rintro ⟨s, hs⟩
    obtain ⟨advance, hpending, -⟩ := (Option.any_eq_true _ _).mp (h.awaited s hs)
    rw [hpending]
    rfl

/-- After a recalculation the current section is visible, or there is none. It is the one that was current if that is
visible, and none if there was none; a hidden one is replaced by the first visible section of those after it, else by
the first visible one of all, else there is none. The history and the completed sections stay. An advance is pending
just if the current section is to be left by itself and complete; and any further recalculation on the same form keeps
the whole state, and the pending advance with its due time. -/
theorem recalculate_repairs (options : FlowOptions) (operations : List Operation) (ctx : Context) (now : Instant) :
    let flow := run options operations
    let repaired := flow.recalculate ctx now
    (∀ id, repaired.state.current? = some id → (repaired.isVisible ctx id).1 = true) ∧
      ((∀ id, flow.state.current? = some id → (flow.isVisible ctx id).1 = true) →
        repaired.state.current? = flow.state.current?) ∧
      (∀ id, flow.state.current? = some id → (flow.isVisible ctx id).1 = false →
        flow.IsReplacement ctx id repaired.state.current?) ∧
      repaired.state.history = flow.state.history ∧ repaired.state.completed = flow.state.completed ∧
      (repaired.timer.pending?.isSome = true ↔ ∃ s, repaired.IsLeaving ctx s) ∧
      ∀ later, (repaired.recalculate ctx later).state = repaired.state ∧
        (repaired.recalculate ctx later).timer = repaired.timer := by
  intro flow repaired
  have hanchored : flow.Anchored := anchored_run options operations
  have hdistinct : flow.Distinct := distinct_run options operations
  have hsteady : repaired.Steady ctx := hanchored.steady_recalculate hdistinct ctx now
  have hstate : repaired.state = (flow.settled ctx).state := state_recalculate flow ctx now
  obtain ⟨hhistory, hcompleted⟩ := history_and_completed_settled flow ctx
  refine ⟨hsteady.visible, fun hvisible => ?_, fun id hcurrent hhidden => ?_, ?_, ?_, hsteady.isSome_pending_iff,
    hsteady.recalculate⟩
  · rcases hanchored.current_settled hdistinct ctx with ⟨-, hsame⟩ | ⟨id, hcurrent, hhidden, -⟩
    · rw [hstate, hsame]
    · rw [hvisible id hcurrent] at hhidden
      cases hhidden
  · rcases hanchored.current_settled hdistinct ctx with ⟨hvisible, -⟩ | ⟨hidden, hcurrent', -, hreplaced⟩
    · rw [hvisible id hcurrent] at hhidden
      cases hhidden
    · obtain rfl := Option.some.inj (hcurrent.symm.trans hcurrent')
      rw [hstate]
      exact hreplaced
  · rw [hstate, hhistory]
  · rw [hstate, hcompleted]

/-- A gift, which is shown with a large discount alone, is current, and the review is left by itself. -/
def departing : List Operation :=
  [.register { id := "gift", showCondition? := some "[discount]>5" },
    .register { id := "card", order := 1, showCondition? := some "[discount]>5" },
    .register { id := "review", order := 2, autoAdvance := true, advanceDelay := 30 },
    .navigateTo (discountForm 9) "gift"]

/-- When the discount is gone, the review takes the place of the gift, and its advance keeps the due time. -/
theorem recalculate_repairs_departing :
    let flow := run {} departing
    let repaired := flow.recalculate (discountForm 0) (.ofMillis 5)
    flow.state.current? = some "gift" ∧ (flow.isVisible (discountForm 0) "gift").1 = false ∧
      flow.IsReplacement (discountForm 0) "gift" (some "review") ∧
      (∃ s, repaired.IsLeaving (discountForm 0) s) ∧ repaired.timer.pending? = some ⟨"review", .ofMillis 35⟩ ∧
      (repaired.recalculate (discountForm 0) (.ofMillis 20)).timer.pending? = some ⟨"review", .ofMillis 35⟩ := by
  intro flow repaired
  have hcurrent : flow.state.current? = some "gift" := by decide +kernel
  have hhidden : (flow.isVisible (discountForm 0) "gift").1 = false := by decide +kernel
  have hreview : repaired.state.current? = some "review" := by decide +kernel
  have hpending : repaired.timer.pending? = some ⟨"review", .ofMillis 35⟩ := by decide +kernel
  obtain ⟨-, -, hreplaced, -, -, hleaving, hkept⟩ :=
    recalculate_repairs {} departing (discountForm 0) (.ofMillis 5)
  refine ⟨hcurrent, hhidden, hreview ▸ hreplaced "gift" hcurrent hhidden, hleaving.mp ?_, hpending, ?_⟩
  · rw [hpending]
    rfl
  · rw [(hkept (.ofMillis 20)).2]
    exact hpending

end FormRules.Flow

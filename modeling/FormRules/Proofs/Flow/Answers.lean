import FormRules.Proofs.Flow.Moves
import FormRules.Proofs.Formula.Reading

/-!
# What a flow answers

A question to a flow may change its engine, but what the engine has compiled before has no influence on the
answer. So there is one answer to whether a section is visible and whether it is complete on some form
(`Section.visibleIn`, `Section.completeIn`), and one list of the sections with these answers (`Flow.shown`).

* `isVisible_fst`, `isComplete_fst`, `survey_eq`, `mem_visibleSections` and `advanceHolds_eq` tell the answers of a
  flow.
* `navigateNext_of_none`, `navigateNext_of_complete` and `navigateNext_of_incomplete` tell where going on leads, the
  engine apart; `navigateNext_cases` puts together what can come of it at a current section.
* `settled_cases` tells what a recalculation does with the current section.
* `firstShown?_eq` and `nextShown?_eq` read the first and the next section off the visible ones.
-/

namespace FormRules

open Formula (Context Engine)

theorem Formula.Engine.holds_congr (engine engine' : Engine) {ctx ctx' : Context} {formula : Option String}
    (h : ∀ source, formula = some source → Formula.resultOf ctx source = Formula.resultOf ctx' source) :
    (engine.holds ctx formula).1 = (engine'.holds ctx' formula).1 := by
  rw [Formula.Engine.holds_fst, Formula.Engine.holds_fst]
  cases formula with
  | none => rfl
  | some source => rw [Formula.conditionValue, Formula.conditionValue, h source rfl]

namespace Section

/-- Whether the section is visible on a form. -/
def visibleIn (s : Section) (ctx : Context) : Bool := (s.isVisible ctx {}).1

/-- Whether the section is complete on a form. -/
def completeIn (s : Section) (ctx : Context) : Bool := (s.isComplete ctx {}).1

/-- Whether the section is to be left by itself on a form. -/
def advancesIn (s : Section) (ctx : Context) : Bool := s.autoAdvance && s.visibleIn ctx && s.completeIn ctx

theorem isVisible_fst (s : Section) (ctx : Context) (engine : Engine) :
    (s.isVisible ctx engine).1 = s.visibleIn ctx :=
  Formula.Engine.holds_congr engine {} fun _ _ => rfl

theorem isComplete_fst (s : Section) (ctx : Context) (engine : Engine) :
    (s.isComplete ctx engine).1 = s.completeIn ctx := by
  unfold completeIn isComplete
  split
  · exact Formula.Engine.holds_congr engine {} fun _ _ => rfl
  · rfl

theorem advancesIn_iff {s : Section} {ctx : Context} : s.advancesIn ctx = true ↔
    s.autoAdvance = true ∧ s.visibleIn ctx = true ∧ s.completeIn ctx = true := by
  rw [advancesIn, Bool.and_eq_true, Bool.and_eq_true, and_assoc]

theorem survey_fst (ctx : Context) (sections : List Section) (engine : Engine) :
    (survey ctx sections engine).1 = sections.map fun s => (s, s.visibleIn ctx) := by
  induction sections generalizing engine with
  | nil => rfl
  | cons s rest ih =>
    rw [List.map_cons, ← ih (s.isVisible ctx engine).2, ← s.isVisible_fst ctx engine]
    rfl

end Section

namespace Flow

/-- Each section with whether it is visible. -/
def shown (flow : Flow) (ctx : Context) : List (Section × Bool) := flow.sections.map fun s => (s, s.visibleIn ctx)

/-- The sections that are visible, by their ids. -/
def shownIds (shown : List (Section × Bool)) : List String := (shown.filter (·.2)).map (·.1.id)

variable {flow : Flow} {ctx : Context} {id : String} {s : Section}

theorem survey_eq (flow : Flow) (ctx : Context) :
    ∃ engine, flow.survey ctx = (flow.shown ctx, { flow with engine }) := by
  refine ⟨(Section.survey ctx flow.sections flow.engine).2, ?_⟩
  rw [shown, ← Section.survey_fst ctx flow.sections flow.engine]
  rfl

theorem shownIds_shown (flow : Flow) (ctx : Context) :
    shownIds (flow.shown ctx) = (flow.visibleSections ctx).1.map (·.id) := by
  obtain ⟨engine, hsurvey⟩ := survey_eq flow ctx
  rw [visibleSections, hsurvey, List.map_map]
  rfl

theorem mem_visibleSections :
    s ∈ (flow.visibleSections ctx).1 ↔ s ∈ flow.sections ∧ s.visibleIn ctx = true := by
  obtain ⟨engine, hsurvey⟩ := survey_eq flow ctx
  rw [visibleSections, hsurvey]
  simp only [shown, List.mem_map, List.mem_filter]
  constructor
  · rintro ⟨_, ⟨⟨s, hs, rfl⟩, hvisible⟩, rfl⟩
    exact ⟨hs, hvisible⟩
  · rintro ⟨hs, hvisible⟩
    exact ⟨(s, s.visibleIn ctx), ⟨⟨s, hs, rfl⟩, hvisible⟩, rfl⟩

private theorem ask_eq_answer {question : Section → Engine → Bool × Engine} {answer : Section → Bool}
    (h : ∀ s engine, (question s engine).1 = answer s) (flow : Flow) (id : String) :
    ∃ engine, flow.ask id question = ((flow.section? id).any answer, { flow with engine }) := by
  unfold ask
  cases flow.section? id with
  | none => exact ⟨flow.engine, rfl⟩
  | some s => exact ⟨(question s flow.engine).2, Prod.ext (h s flow.engine) rfl⟩

theorem isVisible_eq (flow : Flow) (ctx : Context) (id : String) :
    ∃ engine, flow.isVisible ctx id = ((flow.section? id).any (·.visibleIn ctx), { flow with engine }) :=
  ask_eq_answer (fun s engine => s.isVisible_fst ctx engine) flow id

theorem isComplete_eq (flow : Flow) (ctx : Context) (id : String) :
    ∃ engine, flow.isComplete ctx id = ((flow.section? id).any (·.completeIn ctx), { flow with engine }) :=
  ask_eq_answer (fun s engine => s.isComplete_fst ctx engine) flow id

theorem isVisible_fst (flow : Flow) (ctx : Context) (id : String) :
    (flow.isVisible ctx id).1 = (flow.section? id).any (·.visibleIn ctx) := by
  obtain ⟨engine, hvisible⟩ := isVisible_eq flow ctx id
  rw [hvisible]

theorem isComplete_fst (flow : Flow) (ctx : Context) (id : String) :
    (flow.isComplete ctx id).1 = (flow.section? id).any (·.completeIn ctx) := by
  obtain ⟨engine, hcomplete⟩ := isComplete_eq flow ctx id
  rw [hcomplete]

/-- Visibility has to do with the sections alone. -/
theorem isVisible_congr {flow' : Flow} (h : flow'.sections = flow.sections) (ctx : Context) (id : String) :
    (flow'.isVisible ctx id).1 = (flow.isVisible ctx id).1 := by
  rw [isVisible_fst, isVisible_fst, section?, section?, h]

/-- An advance holds if its section is current and advances on the form. -/
theorem advanceHolds_eq (flow : Flow) (ctx : Context) (id : String) : ∃ engine, flow.advanceHolds ctx id =
    (decide (flow.state.current? = some id) && (flow.section? id).any (·.advancesIn ctx), { flow with engine }) := by
  obtain ⟨engine, hvisible⟩ := isVisible_eq flow ctx id
  obtain ⟨engine', hcomplete⟩ := isComplete_eq { flow with engine } ctx id
  have hsame : ({ flow with engine } : Flow).section? id = flow.section? id := rfl
  rw [hsame] at hcomplete
  unfold advanceHolds
  rw [hvisible]
  dsimp only
  rw [hcomplete]
  cases flow.section? id with
  | none => exact ⟨flow.engine, by simp⟩
  | some s =>
    by_cases hcurrent : flow.state.current? = some id
    · cases hauto : s.autoAdvance with
      | false => exact ⟨flow.engine, by simp [Section.advancesIn, hauto]⟩
      | true =>
        cases hshown : s.visibleIn ctx with
        | false => exact ⟨engine, by simp [Section.advancesIn, hcurrent, hauto, hshown]⟩
        | true => exact ⟨engine', by simp [Section.advancesIn, hcurrent, hauto, hshown]⟩
    · exact ⟨flow.engine, by simp [hcurrent]⟩

theorem leave_fst (flow : Flow) (shown : List (Section × Bool)) (current : String) :
    (flow.leave shown current).1 = nextShown? shown current := by
  unfold leave
  split <;> simp_all

theorem leave_next {shown : List (Section × Bool)} {current : String} (h : nextShown? shown current = some id) :
    (flow.leave shown current).2 = flow.enter id true := by
  rw [leave, h]

/-- Behind the last visible section the form is completed. -/
theorem leave_last {shown : List (Section × Bool)} {current : String} (h : nextShown? shown current = none) :
    (flow.leave shown current).2 = { flow with
      timer := .cancelled, bus := flow.bus.emit (.formCompleted flow.state.completed.toList) } := by
  rw [leave, h]
  rfl

/-- Without a current section, going on leads to the first visible one. -/
theorem navigateNext_of_none (hcurrent : flow.state.current? = none) (hid : firstShown? (flow.shown ctx) = some id)
    (skipValidation : Bool) : ∃ engine,
      flow.navigateNext ctx skipValidation = (.ok (some id), { flow with engine }.enter id true) := by
  obtain ⟨engine, hsurvey⟩ := survey_eq flow ctx
  refine ⟨engine, ?_⟩
  simp only [navigateNext, hsurvey, hcurrent, hid]

/-- It never fails there. -/
theorem navigateNext_ok_of_none (hcurrent : flow.state.current? = none) (ctx : Context) (skipValidation : Bool) :
    ∃ next, (flow.navigateNext ctx skipValidation).1 = .ok next := by
  obtain ⟨engine, hsurvey⟩ := survey_eq flow ctx
  simp only [navigateNext, hsurvey, hcurrent]
  cases firstShown? (flow.shown ctx) with
  | none => exact ⟨none, rfl⟩
  | some id => exact ⟨some id, rfl⟩

/-- Going on completes a current section that is complete or need not be, and leaves it. -/
theorem navigateNext_of_complete {skipValidation : Bool} (hcurrent : flow.state.current? = some id)
    (hs : flow.section? id = some s) (hcomplete : skipValidation = true ∨ s.completeIn ctx = true) : ∃ engine,
      flow.navigateNext ctx skipValidation = (.ok (nextShown? (flow.shown ctx) id),
        (({ flow with engine }.markCompleted id).leave (flow.shown ctx) id).2) := by
  obtain ⟨engine, hsurvey⟩ := survey_eq flow ctx
  have hs' : ({ flow with engine } : Flow).section? id = some s := hs
  cases hskip : skipValidation with
  | true => exact ⟨engine, by simp only [navigateNext, hsurvey, hcurrent, hs', ↓reduceIte, leave_fst]⟩
  | false =>
    rw [hskip, Bool.false_eq_true, false_or] at hcomplete
    obtain ⟨engine', hanswer⟩ := isComplete_eq { flow with engine } ctx id
    rw [hs', Option.any_some, hcomplete] at hanswer
    refine ⟨engine', ?_⟩
    simp only [navigateNext, hsurvey, hcurrent, hs', hanswer, Bool.false_eq_true, ↓reduceIte, leave_fst]

/-- An incomplete section is only left if it may be skipped. -/
theorem navigateNext_of_incomplete (hcurrent : flow.state.current? = some id) (hs : flow.section? id = some s)
    (hincomplete : s.completeIn ctx = false) : ∃ engine, flow.navigateNext ctx false =
      if s.allowSkip then (.ok (nextShown? (flow.shown ctx) id), ({ flow with engine }.leave (flow.shown ctx) id).2)
      else (.error (.incomplete id), { flow with engine }.emit (.validationFailed id)) := by
  obtain ⟨engine, hsurvey⟩ := survey_eq flow ctx
  have hs' : ({ flow with engine } : Flow).section? id = some s := hs
  obtain ⟨engine', hanswer⟩ := isComplete_eq { flow with engine } ctx id
  rw [hs', Option.any_some, hincomplete] at hanswer
  refine ⟨engine', ?_⟩
  simp only [navigateNext, hsurvey, hcurrent, hs', hanswer, Bool.false_eq_true, ↓reduceIte, leave_fst]

/-- From a current section, going on completes and leaves it; where the section is checked and incomplete, it leaves it
if it may be skipped, and is held up if not. -/
theorem navigateNext_cases (hcurrent : flow.state.current? = some id) (hs : flow.section? id = some s) (ctx : Context)
    (skipValidation : Bool) : ∃ engine,
      ((skipValidation = true ∨ s.completeIn ctx = true) ∧ flow.navigateNext ctx skipValidation =
        (.ok (nextShown? (flow.shown ctx) id), (({ flow with engine }.markCompleted id).leave (flow.shown ctx) id).2)) ∨
      (skipValidation = false ∧ s.completeIn ctx = false) ∧
        (s.allowSkip = true ∧ flow.navigateNext ctx skipValidation =
          (.ok (nextShown? (flow.shown ctx) id), ({ flow with engine }.leave (flow.shown ctx) id).2) ∨
        s.allowSkip = false ∧ flow.navigateNext ctx skipValidation =
          (.error (.incomplete id), { flow with engine }.emit (.validationFailed id))) := by
  by_cases hcomplete : skipValidation = true ∨ s.completeIn ctx = true
  · obtain ⟨engine, hnext⟩ := navigateNext_of_complete hcurrent hs hcomplete
    exact ⟨engine, .inl ⟨hcomplete, hnext⟩⟩
  · obtain ⟨hskip, hincomplete⟩ := not_or.mp hcomplete
    rw [Bool.not_eq_true] at hskip hincomplete
    obtain ⟨engine, hnext⟩ := navigateNext_of_incomplete hcurrent hs hincomplete
    refine ⟨engine, .inr ⟨⟨hskip, hincomplete⟩, ?_⟩⟩
    rw [hskip, hnext]
    cases s.allowSkip with
    | true => exact .inl ⟨rfl, if_pos rfl⟩
    | false => exact .inr ⟨rfl, if_neg Bool.false_ne_true⟩

/-- A recalculation first looks at the current section: one that is visible stays, and so does none; a hidden one gives
way to its replacement, if there is one. -/
theorem settled_cases (flow : Flow) (ctx : Context) : ∃ engine,
    ((∀ id, flow.state.current? = some id → ∃ s ∈ flow.sections, s.id = id ∧ s.visibleIn ctx = true) ∧
      flow.settled ctx = { flow with engine }) ∨
    ∃ id, flow.state.current? = some id ∧ (∀ s ∈ flow.sections, s.id = id → s.visibleIn ctx = false) ∧
      flow.settled ctx = match replacement? (flow.shown ctx) id with
        | some next => { flow with engine }.enter next false
        | none => { flow with engine, state := { flow.state with current? := none }, timer := .cancelled } := by
  obtain ⟨engine, hsurvey⟩ := survey_eq flow ctx
  refine ⟨engine, ?_⟩
  rw [settled, hsurvey]
  unfold settle
  dsimp only
  cases hcurrent : flow.state.current? with
  | none => exact .inl ⟨nofun, rfl⟩
  | some current =>
    dsimp only
    have hvisible : ((flow.shown ctx).any fun entry => entry.1.id = current && entry.2) = true ↔
        ∃ s ∈ flow.sections, s.id = current ∧ s.visibleIn ctx = true := by
      simp [shown]
    split
    · next hshown =>
      refine .inl ⟨?_, rfl⟩
      rintro _ ⟨⟩
      exact hvisible.mp hshown
    · next hhidden =>
      refine .inr ⟨current, rfl, fun s hs hid => ?_, ?_⟩
      · rw [← Bool.not_eq_true]
        exact fun hshown => hhidden (hvisible.mpr ⟨s, hs, hid, hshown⟩)
      · cases replacement? (flow.shown ctx) current <;> rfl

theorem settled_of_visible (h : ∀ id, flow.state.current? = some id → (flow.isVisible ctx id).1 = true) :
    ∃ engine, flow.settled ctx = { flow with engine } := by
  obtain ⟨engine, ⟨-, hsettled⟩ | ⟨id, hcurrent, hhidden, -⟩⟩ := settled_cases flow ctx
  · exact ⟨engine, hsettled⟩
  · have hvisible := h id hcurrent
    rw [isVisible_fst, Option.any_eq_true] at hvisible
    obtain ⟨s, hs, hshown⟩ := hvisible
    rw [hhidden s (mem_of_section? hs) (id_of_section? hs)] at hshown
    cases hshown

theorem firstShown?_eq (shown : List (Section × Bool)) : firstShown? shown = (shownIds shown).head? := by
  rw [firstShown?, shownIds, List.head?_map, List.head?_filter]

theorem nextShown?_cons (entry : Section × Bool) (rest : List (Section × Bool)) (id : String) :
    nextShown? (entry :: rest) id = if entry.1.id = id then firstShown? rest else nextShown? rest id := by
  unfold nextShown?
  by_cases hid : entry.1.id = id <;> simp [hid]

theorem shownIds_cons (entry : Section × Bool) (rest : List (Section × Bool)) :
    shownIds (entry :: rest) = if entry.2 then entry.1.id :: shownIds rest else shownIds rest := by
  rw [shownIds, List.filter_cons]
  split <;> rfl

theorem shownIds_sublist (shown : List (Section × Bool)) : (shownIds shown).Sublist (shown.map (·.1.id)) :=
  List.filter_sublist.map _

/-- Among sections with different ids, the next visible one follows in the list of the visible ones. -/
theorem nextShown?_eq {shown : List (Section × Bool)} (hnodup : (shown.map (·.1.id)).Nodup)
    {before after : List String} (h : shownIds shown = before ++ id :: after) : nextShown? shown id = after.head? := by
  induction shown generalizing before with
  | nil => simp [shownIds] at h
  | cons entry rest ih =>
    obtain ⟨hfresh, hrest⟩ := List.nodup_cons.mp hnodup
    rw [nextShown?_cons]
    rw [shownIds_cons] at h
    split
    · next hid =>
      -- no later section has the same id, so the first one of the rest follows
      have hnot : id ∉ shownIds rest := by
        rw [← hid]
        exact fun hmem => hfresh ((shownIds_sublist rest).subset hmem)
      rw [firstShown?_eq]
      split at h
      · cases before with
        | nil => rw [(List.cons.inj h).2]
        | cons first before => exact absurd (by rw [(List.cons.inj h).2]; simp) hnot
      · exact absurd (by rw [h]; simp) hnot
    · next hid =>
      split at h
      · cases before with
        | nil => exact absurd (List.cons.inj h).1 hid
        | cons first before => exact ih hrest (List.cons.inj h).2
      · exact ih hrest h

end Flow

end FormRules

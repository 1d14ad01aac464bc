import FormRules.Proofs.Flow.Answers
import FormRules.Proofs.Flow.Invariant

/-!
# The section that follows

Which section comes next is decided by the order of the form alone: it is the first visible one of those after the
current section (`Distinct.isFirstVisible_next`). Going on enters this section, or stays if there is none
(`leads_leave`). An incomplete section holds it up, unless it may be skipped or is not checked; it joins the completed
ones just where it is complete or is not checked (`navigateNext_leads`).
-/

namespace FormRules.Flow

open Formula (Context)

/-- The first of some sections that is visible on a form, if any is. -/
def IsFirstVisible (flow : Flow) (ctx : Context) (sections : List Section) : Option String → Prop
  | some id => ∃ hidden s rest, sections = hidden ++ s :: rest ∧ s.id = id ∧ (flow.isVisible ctx id).1 = true ∧
      ∀ other ∈ hidden, (flow.isVisible ctx other.id).1 = false
  | none => ∀ s ∈ sections, (flow.isVisible ctx s.id).1 = false

/-- The second flow is the first one after its current section was left for another one, or stayed where it is. -/
def Leads (flow flow' : Flow) : Option String → Prop
  | some id => flow'.state.current? = some id ∧
      flow'.state.history = flow.state.current?.toList ++ flow.state.history ∧
      flow'.state.visited = flow.state.visited.insert id
  | none => flow'.state.current? = flow.state.current? ∧ flow'.state.history = flow.state.history ∧
      flow'.state.visited = flow.state.visited

variable {flow : Flow} {ctx : Context} {id current : String} {s : Section} {before after sections : List Section}

theorem IsFirstVisible.visible (h : flow.IsFirstVisible ctx sections (some id)) : (flow.isVisible ctx id).1 = true := by
  obtain ⟨hidden, s, rest, -, -, hvisible, -⟩ := h
  exact hvisible

theorem Distinct.isVisible_fst (h : flow.Distinct) (hs : s ∈ flow.sections) :
    (flow.isVisible ctx s.id).1 = s.visibleIn ctx := by
  rw [Flow.isVisible_fst, h.section? hs, Option.any_some]

/-- Of registered sections, the first visible one is found by asking one after the other. -/
theorem Distinct.isFirstVisible (h : flow.Distinct) (hsections : sections ⊆ flow.sections) :
    flow.IsFirstVisible ctx sections (firstShown? (sections.map fun s => (s, s.visibleIn ctx))) := by
  rw [firstShown?, List.find?_map, Option.map_map]
  cases hfind : sections.find? ((·.2) ∘ fun s => (s, s.visibleIn ctx)) with
  | none =>
    intro s hs
    have hhidden := List.find?_eq_none.mp hfind s hs
    rw [h.isVisible_fst (hsections hs)]
    simpa using hhidden
  | some s =>
    obtain ⟨hvisible, hidden, rest, hsplit, hhidden⟩ := List.find?_eq_some_iff_append.mp hfind
    have hmem : ∀ other ∈ hidden ++ s :: rest, other ∈ flow.sections := fun other hother =>
      hsections (hsplit ▸ hother)
    refine ⟨hidden, s, rest, hsplit, rfl, ?_, fun other hother => ?_⟩
    · exact (h.isVisible_fst (hmem s (by simp))).trans hvisible
    · rw [h.isVisible_fst (hmem other (List.mem_append_left _ hother))]
      simpa using hhidden other hother

/-- The current section has its place among the registered ones. -/
theorem Anchored.exists_place (h : flow.Anchored) (hcurrent : flow.state.current? = some current) :
    ∃ before s after, flow.sections = before ++ s :: after ∧ s.id = current ∧ flow.section? current = some s := by
  obtain ⟨s, hs⟩ := h.exists_current hcurrent
  obtain ⟨before, after, hsections⟩ := List.append_of_mem (mem_of_section? hs)
  exact ⟨before, s, after, hsections, id_of_section? hs, hs⟩

/-- No section before or after another one has its id. -/
theorem Distinct.ne_of_mem_others (h : flow.Distinct) (hsections : flow.sections = before ++ s :: after) {other : Section}
    (hother : other ∈ before ++ after) : other.id ≠ s.id := by
  rw [Distinct, hsections, List.map_append, List.map_cons, List.nodup_middle, ← List.map_append] at h
  exact fun heq => (List.nodup_cons.mp h).1 (heq ▸ List.mem_map_of_mem hother)

/-- Among sections with different ids, the next visible one is the first visible one of those behind. -/
theorem Distinct.nextShown?_eq (h : flow.Distinct) (hsections : flow.sections = before ++ s :: after) :
    nextShown? (flow.shown ctx) s.id = firstShown? (after.map fun s => (s, s.visibleIn ctx)) := by
  have hbefore : ∀ entry ∈ before.map fun s => (s, s.visibleIn ctx), decide (entry.1.id ≠ s.id) = true := by
    intro entry hentry
    obtain ⟨other, hother, rfl⟩ := List.mem_map.mp hentry
    exact decide_eq_true (h.ne_of_mem_others hsections (List.mem_append_left _ hother))
  rw [nextShown?, shown, hsections, List.map_append, List.map_cons, List.dropWhile_append_of_pos hbefore]
  simp

theorem Distinct.isFirstVisible_next (h : flow.Distinct) (hsections : flow.sections = before ++ s :: after) :
    flow.IsFirstVisible ctx after (nextShown? (flow.shown ctx) s.id) := by
  rw [h.nextShown?_eq hsections]
  exact h.isFirstVisible fun other hother => by simp [hsections, hother]

/-- Leaving a section leads to the next visible one, which is another one. -/
theorem leads_leave {shown : List (Section × Bool)} (hcurrent : flow.state.current? = some current)
    (hne : nextShown? shown current ≠ some current) :
    Leads flow (flow.leave shown current).2 (nextShown? shown current) := by
  cases hnext : nextShown? shown current with
  | some next =>
    have hother : flow.state.current? ≠ some next := by
      rw [hcurrent, ← hnext]
      exact hne.symm
    rw [leave_next hnext, enter_of_ne hother]
    exact ⟨rfl, rfl, rfl⟩
  | none =>
    rw [leave_last hnext]
    exact ⟨rfl, rfl, rfl⟩

theorem completed_leave (flow : Flow) (shown : List (Section × Bool)) (current : String) :
    (flow.leave shown current).2.state.completed = flow.state.completed := by
  unfold leave
  split
  · exact completed_enter flow _ true
  · rfl

theorem Distinct.nextShown?_ne (h : flow.Distinct) (hsections : flow.sections = before ++ s :: after) :
    nextShown? (flow.shown ctx) s.id ≠ some s.id := by
  intro heq
  have hnext : flow.IsFirstVisible ctx after (some s.id) := heq ▸ h.isFirstVisible_next hsections
  obtain ⟨hidden, other, rest, hafter, hid, -⟩ := hnext
  exact h.ne_of_mem_others hsections (by simp [hafter]) hid

/-- Going on from a current section is held up just where the section is checked and incomplete, and must not be
skipped. -/
theorem navigateNext_eq_incomplete_iff (hcurrent : flow.state.current? = some id) (hs : flow.section? id = some s)
    (ctx : Context) (skipValidation : Bool) :
    (flow.navigateNext ctx skipValidation).1 = .error (.incomplete id) ↔
      skipValidation = false ∧ s.completeIn ctx = false ∧ s.allowSkip = false := by
  obtain ⟨engine, ⟨hcomplete, hnext⟩ | ⟨⟨hskip, hincomplete⟩, ⟨hallow, hnext⟩ | ⟨hallow, hnext⟩⟩⟩ :=
    navigateNext_cases hcurrent hs ctx skipValidation
  · rw [hnext]
    refine iff_of_false nofun ?_
    rintro ⟨hskip, hincomplete, -⟩
    simp [hskip, hincomplete] at hcomplete
  · rw [hnext, hallow]
    exact iff_of_false nofun nofun
  · rw [hnext]
    exact iff_of_true rfl ⟨hskip, hincomplete, hallow⟩

/-- Where it is not held up, going on leads to the next visible section. -/
theorem Distinct.leads_navigateNext (h : flow.Distinct) (hsections : flow.sections = before ++ s :: after)
    (hcurrent : flow.state.current? = some s.id) {skipValidation : Bool}
    (hpassed : (flow.navigateNext ctx skipValidation).1 ≠ .error (.incomplete s.id)) :
    (flow.navigateNext ctx skipValidation).1 = .ok (nextShown? (flow.shown ctx) s.id) ∧
      Leads flow (flow.navigateNext ctx skipValidation).2 (nextShown? (flow.shown ctx) s.id) := by
  have hs : flow.section? s.id = some s := h.section? (by simp [hsections])
  have hne : nextShown? (flow.shown ctx) s.id ≠ some s.id := h.nextShown?_ne hsections
  obtain ⟨engine, ⟨-, hnext⟩ | ⟨-, ⟨-, hnext⟩ | ⟨-, hnext⟩⟩⟩ := navigateNext_cases hcurrent hs ctx skipValidation
  · rw [hnext]
    exact ⟨rfl, @leads_leave ({ flow with engine }.markCompleted s.id) s.id _ hcurrent hne⟩
  · rw [hnext]
    exact ⟨rfl, @leads_leave { flow with engine } s.id _ hcurrent hne⟩
  · exact absurd (congrArg Prod.fst hnext) hpassed

/-- Going on completes the current section just where it is complete or is not checked, and no other. -/
theorem mem_completed_navigateNext (hcurrent : flow.state.current? = some current)
    (hs : flow.section? current = some s) (ctx : Context) (skipValidation : Bool) :
    id ∈ (flow.navigateNext ctx skipValidation).2.state.completed ↔
      id ∈ flow.state.completed ∨ id = current ∧ (s.completeIn ctx = true ∨ skipValidation = true) := by
  obtain ⟨engine, ⟨hcomplete, hnext⟩ | ⟨⟨hskip, hincomplete⟩, ⟨-, hnext⟩ | ⟨-, hnext⟩⟩⟩ :=
    navigateNext_cases hcurrent hs ctx skipValidation
  · rw [hnext, completed_leave, and_iff_left hcomplete.symm, or_comm]
    exact mem_insert_iff
  · rw [hnext, completed_leave]
    simp [hskip, hincomplete]
  · rw [hnext]
    simp [hskip, hincomplete, emit]

/-- Whoever goes on from a section to another one enters it. -/
theorem entered_of_navigateNext {skipValidation : Bool} (hcurrent : flow.state.current? = some current)
    (h : (flow.navigateNext ctx skipValidation).1 = .ok (some id)) : ∃ engine completed,
      (flow.navigateNext ctx skipValidation).2 =
        { flow with engine, state := { flow.state with completed } }.enter id true := by
  cases hs : flow.section? current with
  | none =>
    obtain ⟨engine, hsurvey⟩ := survey_eq flow ctx
    have hs' : ({ flow with engine } : Flow).section? current = none := hs
    simp only [navigateNext, hsurvey, hcurrent, hs'] at h
    cases h
  | some s =>
    obtain ⟨engine, ⟨-, hnext⟩ | ⟨-, ⟨-, hnext⟩ | ⟨-, hnext⟩⟩⟩ := navigateNext_cases hcurrent hs ctx skipValidation
    all_goals rw [hnext] at h ⊢
    · exact ⟨engine, _, leave_next (Except.ok.inj h)⟩
    · exact ⟨engine, _, leave_next (Except.ok.inj h)⟩
    · cases h

theorem entered_of_navigateTo (h : (flow.navigateTo ctx id).1 = .ok ()) : ∃ engine,
    (flow.navigateTo ctx id).2 = { flow with engine }.enter id true := by
  obtain ⟨engine, hvisible⟩ := isVisible_eq flow ctx id
  refine ⟨engine, ?_⟩
  unfold navigateTo at h ⊢
  rw [hvisible] at h ⊢
  split at h
  · next hregistered =>
    rw [if_pos hregistered]
    dsimp only at h ⊢
    split at h
    · next hshown => rw [if_pos hshown]
    · cases h
  · cases h

/-- From a section that is current, going on leads to the first visible section of those after it in the order of the
form, or ends where it is if there is none. It is held up just where the section is checked and incomplete, and must
not be skipped; and it completes this section just where it is complete or is not checked, and no other. -/
theorem navigateNext_leads (options : FlowOptions) (operations : List Operation) (ctx : Context) (skipValidation : Bool)
    {current : String} (hcurrent : (run options operations).state.current? = some current) :
    let flow := run options operations
    let answer := (flow.navigateNext ctx skipValidation).1
    let flow' := (flow.navigateNext ctx skipValidation).2
    ∃ before s after, flow.sections = before ++ s :: after ∧ s.id = current ∧
      (answer = .error (.incomplete current) ↔
        skipValidation = false ∧ (flow.isComplete ctx current).1 = false ∧ s.allowSkip = false) ∧
      (answer ≠ .error (.incomplete current) →
        ∃ next?, flow.IsFirstVisible ctx after next? ∧ answer = .ok next? ∧ Leads flow flow' next?) ∧
      ∀ id, id ∈ flow'.state.completed ↔ id ∈ flow.state.completed ∨
        id = current ∧ ((flow.isComplete ctx current).1 = true ∨ skipValidation = true) := by
  intro flow answer flow'
  have hdistinct : flow.Distinct := distinct_run options operations
  obtain ⟨before, s, after, hsections, rfl, hs⟩ := (anchored_run options operations).exists_place hcurrent
  have hcomplete : (flow.isComplete ctx s.id).1 = s.completeIn ctx := by
    rw [isComplete_fst, hs, Option.any_some]
  rw [hcomplete]
  refine ⟨before, s, after, hsections, rfl, navigateNext_eq_incomplete_iff hcurrent hs ctx skipValidation,
    fun hpassed => ?_, fun id => mem_completed_navigateNext hcurrent hs ctx skipValidation⟩
  exact ⟨_, hdistinct.isFirstVisible_next hsections, hdistinct.leads_navigateNext hsections hcurrent hpassed⟩

/-- A form with a discount. -/
def discountForm (discount : Nat) : Context where
  data := .ofList [("discount", Value.number (.ofNat discount))]
  fields := ∅
  now := .ofMillis 0

/-- A coupon, which may be skipped, is shown with a discount and current, and a gift is shown with a large one. -/
def discounted : List Operation :=
  [.register { id := "review", order := 2 },
    .register { id := "gift", order := 1, showCondition? := some "[discount]>5" },
    .register { id := "coupon", showCondition? := some "[discount]>0", completionCondition? := some "[discount]>1",
                allowSkip := true },
    .navigateNext (discountForm 1) false]

/-- When the discount is gone the current section is hidden and incomplete, and left past another hidden one. -/
theorem navigateNext_leads_discounted :
    let flow := run {} discounted
    let flow' := (flow.navigateNext (discountForm 0) false).2
    flow.state.current? = some "coupon" ∧ (flow.isVisible (discountForm 0) "coupon").1 = false ∧
      (∃ before s after, flow.sections = before ++ s :: after ∧ s.id = "coupon" ∧
        flow.IsFirstVisible (discountForm 0) after (some "review")) ∧
      Leads flow flow' (some "review") ∧ "coupon" ∉ flow'.state.completed := by
  intro flow flow'
  have hcurrent : flow.state.current? = some "coupon" := by decide +kernel
  have hanswer : (flow.navigateNext (discountForm 0) false).1 = .ok (some "review") := by decide +kernel
  obtain ⟨before, s, after, hsections, hid, -, hpassed, hcompleted⟩ :=
    navigateNext_leads {} discounted (discountForm 0) false hcurrent
  obtain ⟨next?, hfirst, hnext, hleads⟩ := hpassed (by rw [hanswer]; exact nofun)
  obtain rfl : next? = some "review" := Except.ok.inj (hnext.symm.trans hanswer)
  refine ⟨hcurrent, by decide +kernel, ⟨before, s, after, hsections, hid, hfirst⟩, hleads, ?_⟩
  rw [hcompleted "coupon"]
  decide +kernel

end FormRules.Flow

import FormRules.Proofs.Flow.Succession

/-!
# Going back

Going back drops the entries of the history, the latest first, up to one that is visible and not current, and enters
its section (`goBack_append`, `goBack_cons`); if there is none, the history is empty afterwards and all else stays
(`navigatePrevious_returns`).

A move to another section puts the one before on top of the history. So whoever moves forward leaves a trail
(`OnTrail`): the current section and those before it, the latest first. A move forward adds to it (`OnTrail.forth`),
and going back takes from it (`OnTrail.back`), so as many steps back lead to its beginning, and to the history that
was there (`goBackAll_of_leadThrough`).
-/

namespace FormRules.Flow

open Formula (Context)

/-- One may go back to a section that is visible and not current. -/
def CanReturn (flow : Flow) (ctx : Context) (id : String) : Prop :=
  flow.state.current? ≠ some id ∧ (flow.isVisible ctx id).1 = true

instance (flow : Flow) (ctx : Context) (id : String) : Decidable (flow.CanReturn ctx id) :=
  inferInstanceAs (Decidable (_ ∧ _))

variable {flow start : Flow} {ctx : Context} {id current : String} {earlier later ids trail : List String}
  {move : Operation} {moves : List Operation} {forms : List Context}

theorem canReturn_evaluated (engine : Formula.Engine) :
    ({ flow with engine } : Flow).CanReturn ctx id ↔ flow.CanReturn ctx id :=
  and_congr_right fun _ => Eq.congr_left (@isVisible_congr flow { flow with engine } rfl ctx id)

/-- A section that one goes back to is entered, and not added to the history. -/
theorem enter_returned (h : flow.state.current? ≠ some id) (engine : Formula.Engine) (rest : List String) :
    ({ flow with engine, state := { flow.state with history := rest } } : Flow).enter id false = { flow with
      engine
      state := { flow.state with current? := some id, visited := flow.state.visited.insert id, history := rest }
      timer := flow.timer.keptFor id
      bus := flow.bus.emit (.sectionChanged flow.state.current? id) } :=
  if_neg h

theorem goBack_cons (h : flow.CanReturn ctx id) (rest : List String) : ∃ engine, flow.goBack ctx (id :: rest) =
    (some id, { flow with engine, state := { flow.state with history := rest } }.enter id false) := by
  obtain ⟨engine, hvisible⟩ := isVisible_eq flow ctx id
  refine ⟨engine, ?_⟩
  have hyes : (flow.section? id).any (·.visibleIn ctx) = true := isVisible_fst flow ctx id ▸ h.2
  rw [goBack, if_neg h.1, hvisible, hyes]
  rfl

theorem goBack_cons_of_not (h : ¬ flow.CanReturn ctx id) (rest : List String) : ∃ engine,
    flow.goBack ctx (id :: rest) = { flow with engine }.goBack ctx rest := by
  by_cases hcurrent : flow.state.current? = some id
  · exact ⟨flow.engine, by rw [goBack, if_pos hcurrent]⟩
  · obtain ⟨engine, hvisible⟩ := isVisible_eq flow ctx id
    have hno : (flow.section? id).any (·.visibleIn ctx) = false := by
      rw [← isVisible_fst, ← Bool.not_eq_true]
      exact fun hyes => h ⟨hcurrent, hyes⟩
    exact ⟨engine, by rw [goBack, if_neg hcurrent, hvisible, hno]; rfl⟩

/-- Entries that one may not go back to are dropped. -/
theorem goBack_append (h : ∀ other ∈ later, ¬ flow.CanReturn ctx other) (earlier : List String) : ∃ engine,
    flow.goBack ctx (later ++ earlier) = { flow with engine }.goBack ctx earlier := by
  induction later generalizing flow with
  | nil => exact ⟨flow.engine, rfl⟩
  | cons id rest ih =>
    obtain ⟨hid, hrest⟩ := List.forall_mem_cons.mp h
    obtain ⟨engine, hdropped⟩ := goBack_cons_of_not hid (rest ++ earlier)
    obtain ⟨engine', hothers⟩ := @ih { flow with engine } fun other hother =>
      (canReturn_evaluated engine).not.mpr (hrest other hother)
    exact ⟨engine', by rw [List.cons_append, hdropped, hothers]⟩

/-- Going back enters the section of the latest entry that one may go back to. -/
theorem navigatePrevious_of_canReturn (hback : flow.options.allowBack = true)
    (hhistory : flow.state.history = later ++ id :: earlier) (hlater : ∀ other ∈ later, ¬ flow.CanReturn ctx other)
    (hid : flow.CanReturn ctx id) : ∃ engine, flow.navigatePrevious ctx =
      (.ok (some id), { flow with engine, state := { flow.state with history := earlier } }.enter id false) := by
  obtain ⟨engine, hdropped⟩ := goBack_append hlater (id :: earlier)
  obtain ⟨engine', hentered⟩ := goBack_cons ((canReturn_evaluated engine).mpr hid) earlier
  exact ⟨engine', by rw [navigatePrevious, if_pos hback, hhistory, hdropped, hentered]⟩

/-- Without such an entry it changes nothing but the history, which is empty afterwards. -/
theorem navigatePrevious_of_not (hback : flow.options.allowBack = true)
    (hnone : ∀ id ∈ flow.state.history, ¬ flow.CanReturn ctx id) : ∃ engine, flow.navigatePrevious ctx =
      (.ok none, { flow with engine, state := { flow.state with history := [] } }) := by
  obtain ⟨engine, hdropped⟩ := goBack_append hnone []
  rw [List.append_nil] at hdropped
  exact ⟨engine, by rw [navigatePrevious, if_pos hback, hdropped]; rfl⟩

theorem history_goBack_suffix (flow : Flow) (ctx : Context) (history : List String) :
    (flow.goBack ctx history).2.state.history <:+ history := by
  induction history generalizing flow with
  | nil => exact List.suffix_rfl
  | cons id rest ih =>
    by_cases hid : flow.CanReturn ctx id
    · obtain ⟨engine, hentered⟩ := goBack_cons hid rest
      rw [hentered, enter_returned hid.1]
      exact List.suffix_cons id rest
    · obtain ⟨engine, hdropped⟩ := goBack_cons_of_not hid rest
      rw [hdropped]
      exact (ih _).trans (List.suffix_cons id rest)

/-- Where one may go back, going back leads to the latest entry of the history that is visible and not current, and
the history is then what it was before that entry; if there is none, the history is empty, and nothing else has
changed but what the engine has compiled. Nothing is ever added to the history. -/
theorem navigatePrevious_returns {flow : Flow} (hback : flow.options.allowBack = true) (ctx : Context) :
    (∀ later id earlier, flow.state.history = later ++ id :: earlier →
      (∀ other ∈ later, ¬ flow.CanReturn ctx other) → flow.CanReturn ctx id →
        (flow.navigatePrevious ctx).1 = .ok (some id) ∧
        (flow.navigatePrevious ctx).2.state.current? = some id ∧
        (flow.navigatePrevious ctx).2.state.history = earlier) ∧
      ((∀ id ∈ flow.state.history, ¬ flow.CanReturn ctx id) →
        (flow.navigatePrevious ctx).1 = .ok none ∧ ∃ engine, (flow.navigatePrevious ctx).2 =
          { flow with engine, state := { flow.state with history := [] } }) ∧
      (flow.navigatePrevious ctx).2.state.history <:+ flow.state.history := by
  refine ⟨fun later id earlier hhistory hlater hid => ?_, fun hnone => ?_, ?_⟩
  · obtain ⟨engine, hreturned⟩ := navigatePrevious_of_canReturn hback hhistory hlater hid
    rw [hreturned, enter_returned hid.1]
    exact ⟨rfl, rfl, rfl⟩
  · obtain ⟨engine, hemptied⟩ := navigatePrevious_of_not hback hnone
    rw [hemptied]
    exact ⟨rfl, engine, rfl⟩
  · rw [navigatePrevious, if_pos hback]
    exact history_goBack_suffix flow ctx flow.state.history

/-- A gift, which is shown with a large discount, is visited twice, and then the discount is gone. -/
def detour : List Operation :=
  [.register { id := "order" }, .register { id := "gift", order := 1, showCondition? := some "[discount]>5" },
    .register { id := "review", order := 2 },
    .navigateTo (discountForm 9) "order", .navigateTo (discountForm 9) "gift", .navigateTo (discountForm 9) "review",
    .navigateTo (discountForm 9) "gift", .recalculate (discountForm 0) (.ofMillis 0)]

/-- Going back passes the section that has become current again, and the one that is hidden. -/
theorem navigatePrevious_returns_detour :
    let flow := run {} detour
    flow.options.allowBack = true ∧ flow.state.current? = some "review" ∧
      flow.state.history = ["review", "gift"] ++ "order" :: [] ∧
      (∀ other ∈ ["review", "gift"], ¬ flow.CanReturn (discountForm 0) other) ∧
      flow.CanReturn (discountForm 0) "order" ∧
      (flow.navigatePrevious (discountForm 0)).1 = .ok (some "order") ∧
      (flow.navigatePrevious (discountForm 0)).2.state.current? = some "order" ∧
      (flow.navigatePrevious (discountForm 0)).2.state.history = [] := by
  intro flow
  have hback : flow.options.allowBack = true := by decide +kernel
  have hhistory : flow.state.history = ["review", "gift"] ++ "order" :: [] := by decide +kernel
  have hlater : ∀ other ∈ ["review", "gift"], ¬ flow.CanReturn (discountForm 0) other := by decide +kernel
  have hid : flow.CanReturn (discountForm 0) "order" := by decide +kernel
  exact ⟨hback, by decide +kernel, hhistory, hlater, hid,
    (navigatePrevious_returns hback (discountForm 0)).1 _ _ _ hhistory hlater hid⟩

/-! ### There and back -/

/-- The operation succeeds as a move to the section `id`. -/
def GoesTo (flow : Flow) (id : String) : Operation → Prop
  | .navigateTo ctx target => target = id ∧ (flow.navigateTo ctx target).1 = .ok ()
  | .navigateNext ctx skipValidation => (flow.navigateNext ctx skipValidation).1 = .ok (some id)
  | _ => False

/-- Some moves lead through some sections, each another one than the one before. -/
inductive LeadThrough : Flow → List Operation → List String → Prop
  | stay {flow : Flow} : LeadThrough flow [] []
  | move {flow : Flow} {move : Operation} {id : String} {moves : List Operation} {ids : List String}
      (hmove : flow.GoesTo id move) (hother : flow.state.current? ≠ some id)
      (hrest : LeadThrough (flow.step move) moves ids) : LeadThrough flow (move :: moves) (id :: ids)

theorem LeadThrough.length_eq (h : LeadThrough flow moves ids) : moves.length = ids.length := by
  induction h with
  | stay => rfl
  | move _ _ _ ih => exact congrArg Nat.succ ih

/-- Goes back on some forms, one after the other: the answers, and the flow at the end. -/
def goBackAll (flow : Flow) : List Context → List (Except FlowError (Option String)) × Flow
  | [] => ([], flow)
  | ctx :: forms =>
    let (answer, flow) := flow.navigatePrevious ctx
    let (answers, flow) := flow.goBackAll forms
    (answer :: answers, flow)

/-- The current section and those before it, the latest first, since the flow was at `start`. -/
structure OnTrail (start flow : Flow) (trail : List String) : Prop where
  sections : flow.sections = start.sections
  options : flow.options = start.options
  current : flow.state.current? = trail.head?
  history : flow.state.history = trail.tail ++ start.state.history
  changing : trail.IsChain (· ≠ ·)

theorem onTrail_start (hcurrent : start.state.current? = some id) : OnTrail start start [id] where
  sections := rfl
  options := rfl
  current := hcurrent
  history := rfl
  changing := .singleton id

/-- A move to a section is made by entering it. -/
theorem GoesTo.step_eq (h : flow.GoesTo id move) (hcurrent : flow.state.current? = some current) :
    ∃ engine completed, flow.step move =
      { flow with engine, state := { flow.state with completed } }.enter id true := by
  cases move with
  | navigateTo ctx target =>
    obtain ⟨rfl, hok⟩ := h
    obtain ⟨engine, hentered⟩ := entered_of_navigateTo hok
    exact ⟨engine, flow.state.completed, hentered⟩
  | navigateNext ctx skipValidation => exact entered_of_navigateNext hcurrent h
  | _ => exact h.elim

/-- A move to another section adds it to the trail. -/
theorem OnTrail.forth (h : OnTrail start flow (current :: trail)) (hmove : flow.GoesTo id move)
    (hother : flow.state.current? ≠ some id) : OnTrail start (flow.step move) (id :: current :: trail) := by
  have hcurrent : flow.state.current? = some current := h.current
  obtain ⟨engine, completed, hstep⟩ := hmove.step_eq hcurrent
  have hentered := @enter_of_ne { flow with engine, state := { flow.state with completed } } id hother true
  rw [hstep, hentered]
  refine ⟨h.sections, h.options, rfl, ?_, h.changing.cons_cons ?_⟩
  · show flow.state.current?.toList ++ flow.state.history = _
    rw [hcurrent, h.history]
    rfl
  · rintro rfl
    exact hother hcurrent

theorem OnTrail.forthAll (h : OnTrail start flow (current :: trail)) (hmoves : LeadThrough flow moves ids) :
    OnTrail start (moves.foldl step flow) (ids.reverse ++ current :: trail) := by
  induction hmoves generalizing current trail with
  | stay => exact h
  | move hmove hother _ ih =>
    rw [List.reverse_cons, List.append_assoc]
    exact ih (h.forth hmove hother)

/-- Going back to the last section but one takes the last one from the trail. -/
theorem OnTrail.back (h : OnTrail start flow (current :: id :: trail)) (hback : start.options.allowBack = true)
    (hvisible : (start.isVisible ctx id).1 = true) :
    (flow.navigatePrevious ctx).1 = .ok (some id) ∧ OnTrail start (flow.navigatePrevious ctx).2 (id :: trail) := by
  obtain ⟨hne, hchanging⟩ := List.isChain_cons_cons.mp h.changing
  have hid : flow.CanReturn ctx id := by
    refine ⟨fun hcurrent => ?_, by rw [isVisible_congr h.sections, hvisible]⟩
    exact hne (Option.some.inj (h.current.symm.trans hcurrent))
  have hhistory : flow.state.history = [] ++ id :: (trail ++ start.state.history) := h.history
  obtain ⟨engine, hreturned⟩ := navigatePrevious_of_canReturn (h.options ▸ hback) hhistory nofun hid
  rw [hreturned, enter_returned hid.1]
  exact ⟨rfl, h.sections, h.options, rfl, rfl, hchanging⟩

/-- As many steps back as there were moves lead to the beginning of the trail, section by section. -/
theorem OnTrail.backAll (h : OnTrail start flow (current :: trail)) (hback : start.options.allowBack = true)
    (hfirst : (current :: trail).getLast? = some id) (hlength : forms.length = trail.length)
    (hvisible : ∀ ctx ∈ forms, ∀ other ∈ trail, (start.isVisible ctx other).1 = true) :
    (flow.goBackAll forms).1 = trail.map (fun other => .ok (some other)) ∧
      OnTrail start (flow.goBackAll forms).2 [id] := by
  induction trail generalizing flow current forms with
  | nil =>
    obtain rfl := List.length_eq_zero_iff.mp hlength
    obtain rfl := Option.some.inj hfirst
    exact ⟨rfl, h⟩
  | cons before trail ih =>
    obtain ⟨ctx, forms, rfl⟩ := List.exists_cons_of_length_eq_add_one hlength
    obtain ⟨hnow, hlater⟩ := List.forall_mem_cons.mp hvisible
    obtain ⟨hanswer, hreturned⟩ := h.back hback (hnow before List.mem_cons_self)
    rw [List.getLast?_cons_cons] at hfirst
    obtain ⟨hanswers, hend⟩ := ih hreturned hfirst (Nat.succ.inj hlength)
      fun form hform other hother => hlater form hform other (List.mem_cons_of_mem _ hother)
    refine ⟨?_, hend⟩
    show (flow.navigatePrevious ctx).1 :: _ = _
    rw [hanswer, List.map_cons]
    exact congrArg _ hanswers

/-- Going back undoes going forward. Moves that lead from a section `current` through some others, each another one than
the one before, followed by as many steps back, on any forms on which the sections that were left are visible, lead to
these sections in the opposite order; at the end the first one is current again, and the history is what it was. -/
theorem goBackAll_of_leadThrough {flow : Flow} (hback : flow.options.allowBack = true) {current : String}
    (hcurrent : flow.state.current? = some current) {moves : List Operation} {ids : List String}
    (hmoves : LeadThrough flow moves ids) {forms : List Context} (hlength : forms.length = moves.length)
    (hvisible : ∀ ctx ∈ forms, ∀ id ∈ (current :: ids).dropLast, (flow.isVisible ctx id).1 = true) :
    ((moves.foldl step flow).goBackAll forms).1 =
        (current :: ids).dropLast.reverse.map (fun id => .ok (some id)) ∧
      ((moves.foldl step flow).goBackAll forms).2.state.current? = some current ∧
      ((moves.foldl step flow).goBackAll forms).2.state.history = flow.state.history := by
  have htrail := (onTrail_start hcurrent).forthAll hmoves
  obtain ⟨last, behind, hbehind⟩ : ∃ last behind, ids.reverse ++ [current] = last :: behind :=
    List.exists_cons_of_ne_nil (by simp)
  have hleft : (current :: ids).dropLast.reverse = behind := by
    rw [← List.tail_reverse, List.reverse_cons, hbehind, List.tail_cons]
  have hfirst : (last :: behind).getLast? = some current := by
    rw [← hbehind, List.getLast?_concat]
  have hsteps : forms.length = behind.length := by
    rw [hlength, hmoves.length_eq, ← hleft, List.length_reverse, List.length_dropLast, List.length_cons]
    rfl
  rw [hbehind] at htrail
  rw [hleft]
  obtain ⟨hanswers, hend⟩ := htrail.backAll hback hfirst hsteps fun ctx hctx id hid =>
    hvisible ctx hctx id (List.mem_reverse.mp (hleft ▸ hid))
  exact ⟨hanswers, hend.current, hend.history⟩

/-- Two visits to the gift, and one to the order. -/
def excursion : List Operation :=
  [.navigateTo (discountForm 9) "gift", .navigateNext (discountForm 3) false, .navigateTo (discountForm 0) "order"]

/-- After the detour the history begins with the section that is current, and that is so again after the way back. -/
theorem goBackAll_of_leadThrough_excursion :
    let flow := run {} detour
    let forms := [discountForm 9, discountForm 8, discountForm 7]
    let back := (excursion.foldl step flow).goBackAll forms
    flow.options.allowBack = true ∧ flow.state.current? = some "review" ∧
      LeadThrough flow excursion ["gift", "review", "order"] ∧
      (∀ ctx ∈ forms, ∀ id ∈ ["review", "gift", "review"], (flow.isVisible ctx id).1 = true) ∧
      back.1 = [.ok (some "review"), .ok (some "gift"), .ok (some "review")] ∧
      back.2.state.current? = some "review" ∧ back.2.state.history = ["review", "gift", "order"] := by
  intro flow forms back
  have hback : flow.options.allowBack = true := by decide +kernel
  have hcurrent : flow.state.current? = some "review" := by decide +kernel
  have hreview : ((flow.step (.navigateTo (discountForm 9) "gift")).navigateNext (discountForm 3) false).1 =
      .ok (some "review") := by decide +kernel
  have hmoves : LeadThrough flow excursion ["gift", "review", "order"] :=
    .move ⟨rfl, by decide +kernel⟩ (by decide +kernel) (.move hreview (by decide +kernel)
      (.move ⟨rfl, by decide +kernel⟩ (by decide +kernel) .stay))
  have hvisible : ∀ ctx ∈ forms, ∀ id ∈ ["review", "gift", "review"], (flow.isVisible ctx id).1 = true := by
    decide +kernel
  obtain ⟨hanswers, hend, hhistory⟩ := goBackAll_of_leadThrough hback hcurrent hmoves rfl hvisible
  exact ⟨hback, hcurrent, hmoves, hvisible, hanswers, hend, hhistory.trans (by decide +kernel)⟩

end FormRules.Flow

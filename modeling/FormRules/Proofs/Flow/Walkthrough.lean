import FormRules.Proofs.Field
import FormRules.Proofs.Flow.Answers
import FormRules.Proofs.Flow.Invariant
import FormRules.Proofs.Flow.Listeners

/-!
# Walking through a form

Whoever starts without a current section and goes on as often as possible comes to each visible section once, in the
order of the form. In the middle of the way (`EnRoute`) the visible sections before the current one are completed and
make the history. Going on leads to the next one (`EnRoute.next`), or completes the form behind the last one
(`EnRoute.last`). The rest of the way follows by induction on the sections that are still to come (`EnRoute.walk`),
and with it the whole way (`walk_visits_all`).
-/

namespace FormRules.Flow

open Formula (Context)

/-- Goes on some times. -/
def walk (ctx : Context) (skipValidation : Bool) (n : Nat) : List Operation :=
  List.replicate n (.navigateNext ctx skipValidation)

/-- On the way through the visible sections, the section `id` is current, those before it are completed and on top of
an older history, and those after it are still to come. -/
structure EnRoute (flow : Flow) (ctx : Context) (skipValidation : Bool) (older before : List String) (id : String)
    (after : List String) : Prop where
  distinct : flow.Distinct
  passable : skipValidation = true ∨ ∀ s ∈ flow.sections, s.visibleIn ctx = true → s.completeIn ctx = true
  order : shownIds (flow.shown ctx) = before ++ id :: after
  current : flow.state.current? = some id
  history : flow.state.history = before.reverse ++ older
  completed : ∀ other, other ∈ flow.state.completed ↔ other ∈ before

variable {flow : Flow} {ctx : Context} {skipValidation : Bool} {older before after : List String} {id : String}

theorem Distinct.shown (h : flow.Distinct) (ctx : Context) : ((flow.shown ctx).map (·.1.id)).Nodup := by
  rw [Flow.shown, List.map_map]
  exact h

/-- Who listens has no part in the way. -/
theorem EnRoute.onBus (h : flow.EnRoute ctx skipValidation older before id after) (bus : Bus) :
    ({ flow with bus } : Flow).EnRoute ctx skipValidation older before id after :=
  ⟨h.distinct, h.passable, h.order, h.current, h.history, h.completed⟩

/-- The current section is left for the next one of the way. -/
theorem EnRoute.navigateNext_eq (h : flow.EnRoute ctx skipValidation older before id after) :
    nextShown? (flow.shown ctx) id = after.head? ∧ ∃ engine, flow.navigateNext ctx skipValidation =
      (.ok after.head?, (({ flow with engine }.markCompleted id).leave (flow.shown ctx) id).2) := by
  have hnext : nextShown? (flow.shown ctx) id = after.head? := nextShown?_eq (h.distinct.shown ctx) h.order
  have hid : id ∈ shownIds (flow.shown ctx) := by
    rw [h.order]
    simp
  rw [shownIds_shown] at hid
  obtain ⟨s, hs, rfl⟩ := List.mem_map.mp hid
  obtain ⟨hmem, hvisible⟩ := mem_visibleSections.mp hs
  obtain ⟨engine, hleft⟩ := navigateNext_of_complete h.current (h.distinct.section? hmem)
    (h.passable.imp_right fun hcomplete => hcomplete s hmem hvisible)
  exact ⟨hnext, engine, by rw [hleft, hnext]⟩

/-- Before the last section of the way, going on leads to the next one. -/
theorem EnRoute.next {next : String} (h : flow.EnRoute ctx skipValidation older before id (next :: after)) :
    (flow.navigateNext ctx skipValidation).1 = .ok (some next) ∧
      (flow.navigateNext ctx skipValidation).2.EnRoute ctx skipValidation older (before ++ [id]) next after ∧
      (flow.navigateNext ctx skipValidation).2.bus = flow.bus.emit (.sectionChanged (some id) next) := by
  obtain ⟨hnext, engine, hleft⟩ := h.navigateNext_eq
  have hnodup : (shownIds (flow.shown ctx)).Nodup := (h.distinct.shown ctx).sublist (shownIds_sublist _)
  have hne : ({ flow with engine }.markCompleted id).state.current? ≠ some next := by
    show flow.state.current? ≠ some next
    rw [h.current]
    rintro ⟨rfl⟩
    rw [h.order] at hnodup
    simp [List.nodup_append] at hnodup
  rw [hleft, leave_next hnext, enter_of_ne hne]
  refine ⟨rfl, ⟨h.distinct, h.passable, ?_, rfl, ?_, fun other => ?_⟩, ?_⟩
  · rw [List.append_assoc]
    exact h.order
  · show flow.state.current?.toList ++ flow.state.history = _
    rw [h.current, h.history]
    simp
  · show other ∈ flow.state.completed.insert id ↔ _
    rw [mem_insert_iff, h.completed, List.mem_append, List.mem_singleton, or_comm]
  · show flow.bus.emit (.sectionChanged flow.state.current? next) = _
    rw [h.current]

/-- Behind the last section of the way, going on completes the form. -/
theorem EnRoute.last (h : flow.EnRoute ctx skipValidation older before id []) :
    (flow.navigateNext ctx skipValidation).1 = .ok none ∧
      (flow.navigateNext ctx skipValidation).2.state.history = flow.state.history ∧
      (flow.navigateNext ctx skipValidation).2.state.completed = flow.state.completed.insert id ∧
      (flow.navigateNext ctx skipValidation).2.bus =
        flow.bus.emit (.formCompleted (flow.state.completed.insert id).toList) := by
  obtain ⟨hnext, engine, hleft⟩ := h.navigateNext_eq
  rw [hleft, leave_last hnext]
  exact ⟨rfl, rfl, rfl, rfl⟩

/-- The rest of the way: what going on returns, where it ends, and what listeners are told. -/
theorem EnRoute.walk (h : flow.EnRoute ctx skipValidation older before id after) :
    (∀ k ≤ after.length, (((walk ctx skipValidation k).foldl step flow).navigateNext ctx skipValidation).1 =
        .ok after[k]?) ∧
      ((walk ctx skipValidation (after.length + 1)).foldl step flow).state.history =
        (before ++ id :: after).dropLast.reverse ++ older ∧
      (∀ other, other ∈ ((walk ctx skipValidation (after.length + 1)).foldl step flow).state.completed ↔
        other ∈ before ++ id :: after) ∧
      flow.toldDuring (walk ctx skipValidation (after.length + 1)) =
        List.zipWith .sectionChanged ((id :: after).map some) after ++
          [.formCompleted ((walk ctx skipValidation (after.length + 1)).foldl step flow).state.completed.toList] := by
  -- the sections still to come get fewer, and each that is left joins those before
  induction after generalizing flow before id with
  | nil =>
    obtain ⟨hnone, hhistory, hcompleted, -⟩ := h.last
    have htold : flow.told (.navigateNext ctx skipValidation) =
        [.formCompleted (flow.state.completed.insert id).toList] := told_of_emit (h.onBus .single).last.2.2.2
    refine ⟨fun k hk => ?_, ?_, fun other => ?_, ?_⟩
    · rw [Nat.le_zero.mp hk]
      exact hnone
    · show (flow.navigateNext ctx skipValidation).2.state.history = _
      rw [hhistory, h.history, List.dropLast_concat]
    · show other ∈ (flow.navigateNext ctx skipValidation).2.state.completed ↔ _
      rw [hcompleted, mem_insert_iff, h.completed, List.mem_append, List.mem_singleton, or_comm]
    · show flow.told _ ++ [] = [.formCompleted (flow.navigateNext ctx skipValidation).2.state.completed.toList]
      rw [htold, hcompleted, List.append_nil]
  | cons next after ih =>
    obtain ⟨hsome, hroute, -⟩ := h.next
    have htold : flow.told (.navigateNext ctx skipValidation) = [.sectionChanged (some id) next] :=
      told_of_emit (h.onBus .single).next.2.2
    obtain ⟨hanswers, hhistory, hcompleted, hrest⟩ := ih hroute
    rw [List.append_assoc, List.singleton_append] at hhistory hcompleted
    refine ⟨fun k hk => ?_, hhistory, hcompleted, ?_⟩
    · cases k with
      | zero => exact hsome
      | succ k => exact hanswers k (Nat.le_of_succ_le_succ hk)
    · show flow.told _ ++ _ = _
      rw [htold]
      exact congrArg (_ :: ·) hrest

/-- Without a current section, going on enters the way. -/
theorem enRoute_of_none (hdistinct : flow.Distinct) (hcurrent : flow.state.current? = none)
    (hcompleted : flow.state.completed = ∅)
    (hpassable : skipValidation = true ∨ ∀ s ∈ flow.sections, s.visibleIn ctx = true → s.completeIn ctx = true)
    (horder : shownIds (flow.shown ctx) = id :: after) :
    (flow.navigateNext ctx skipValidation).1 = .ok (some id) ∧
      (flow.navigateNext ctx skipValidation).2.EnRoute ctx skipValidation flow.state.history [] id after ∧
      (flow.navigateNext ctx skipValidation).2.bus = flow.bus.emit (.sectionChanged none id) := by
  have hfirst : firstShown? (flow.shown ctx) = some id := by
    rw [firstShown?_eq, horder]
    rfl
  obtain ⟨engine, hentered⟩ := navigateNext_of_none hcurrent hfirst skipValidation
  have hne : ({ flow with engine } : Flow).state.current? ≠ some id := by
    show flow.state.current? ≠ some id
    rw [hcurrent]
    exact nofun
  rw [hentered, enter_of_ne hne]
  refine ⟨rfl, ⟨hdistinct, hpassable, horder, rfl, ?_, fun other => ?_⟩, ?_⟩
  · show flow.state.current?.toList ++ flow.state.history = _
    rw [hcurrent]
    rfl
  · show other ∈ flow.state.completed ↔ _
    rw [hcompleted]
    simp
  · show flow.bus.emit (.sectionChanged flow.state.current? id) = _
    rw [hcurrent]

/-- Whoever goes on without a current section, and may leave each visible section, comes to every visible section once
and in the order of the form. Then the form is completed: of this listeners are told once, with the ids of all these
sections in ascending order. -/
theorem walk_visits_all (options : FlowOptions) (operations : List Operation) (ctx : Context) (skipValidation : Bool)
    (hcurrent : (run options operations).state.current? = none)
    (hcompleted : (run options operations).state.completed = ∅)
    (hvisible : ((run options operations).visibleSections ctx).1 ≠ [])
    (hpassable : skipValidation = true ∨ ∀ s ∈ ((run options operations).visibleSections ctx).1,
      ((run options operations).isComplete ctx s.id).1 = true) :
    let flow := run options operations
    let ids := (flow.visibleSections ctx).1.map (·.id)
    let last := (walk ctx skipValidation (ids.length + 1)).foldl step flow
    ids.Nodup ∧
      (∀ k ≤ ids.length,
        (((walk ctx skipValidation k).foldl step flow).navigateNext ctx skipValidation).1 = .ok ids[k]?) ∧
      last.state.history = ids.dropLast.reverse ++ flow.state.history ∧
      (∀ id, id ∈ last.state.completed ↔ id ∈ ids) ∧
      ∃ completed, completed.Pairwise (· < ·) ∧ completed.Perm ids ∧
        flow.toldDuring (walk ctx skipValidation (ids.length + 1)) =
          List.zipWith .sectionChanged (none :: ids.map some) ids ++ [.formCompleted completed] := by
  intro flow ids last
  have hdistinct : flow.Distinct := distinct_run options operations
  have hids : shownIds (flow.shown ctx) = ids := shownIds_shown flow ctx
  have hnodup : ids.Nodup := hids ▸ (hdistinct.shown ctx).sublist (shownIds_sublist _)
  have hpassable' : skipValidation = true ∨
      ∀ s ∈ flow.sections, s.visibleIn ctx = true → s.completeIn ctx = true := by
    refine hpassable.imp_right fun hcomplete s hs hshown => ?_
    have hanswer := hcomplete s (mem_visibleSections.mpr ⟨hs, hshown⟩)
    rwa [isComplete_fst, hdistinct.section? hs, Option.any_some] at hanswer
  obtain ⟨id, after, horder⟩ : ∃ id after, ids = id :: after :=
    List.exists_cons_of_ne_nil fun hnil => hvisible (List.map_eq_nil_iff.mp hnil)
  obtain ⟨hfirst, hroute, -⟩ := enRoute_of_none hdistinct hcurrent hcompleted hpassable' (hids.trans horder)
  have htold : flow.told (.navigateNext ctx skipValidation) = [.sectionChanged none id] :=
    told_of_emit (@enRoute_of_none { flow with bus := .single } ctx skipValidation after id hdistinct hcurrent
      hcompleted hpassable' (hids.trans horder)).2.2
  obtain ⟨hanswers, hhistory, hmarked, hrest⟩ := hroute.walk
  have hlast : last = (walk ctx skipValidation (after.length + 1)).foldl step
      (flow.navigateNext ctx skipValidation).2 := by
    show (walk ctx skipValidation (ids.length + 1)).foldl step flow = _
    rw [horder]
    rfl
  rw [List.nil_append, ← hlast] at hhistory hmarked
  rw [← hlast] at hrest
  rw [horder] at hnodup ⊢
  refine ⟨hnodup, fun k hk => ?_, hhistory, hmarked, last.state.completed.toList, ?_, ?_, ?_⟩
  · cases k with
    | zero => exact hfirst
    | succ k => exact hanswers k (Nat.le_of_succ_le_succ hk)
  · exact Std.ExtTreeSet.ordered_toList.imp lt_of_compare
  · have hsorted : last.state.completed.toList.Nodup :=
      Std.ExtTreeSet.ordered_toList.imp fun hlt => by
        rintro rfl
        simp at hlt
    refine (List.perm_ext_iff_of_nodup hsorted hnodup).mpr fun other => ?_
    rw [Std.ExtTreeSet.mem_toList, hmarked]
  · show flow.told _ ++ _ = _
    rw [htold]
    exact congrArg (_ :: ·) hrest

/-- A form with an amount, and without a discount. -/
def amountForm : Context where
  data := .ofList [("amount", Value.number (.ofNat 3))]
  fields := ∅
  now := .ofMillis 0

/-- A form that has a hidden section between two others, after a first walk and a fresh start. -/
def gapped : List Operation :=
  [.register { id := "review", order := 2, completionCondition? := some "[amount]>2" },
    .register { id := "discount", order := 1, showCondition? := some "[discount]>0" },
    .register { id := "order", completionCondition? := some "[amount]>0" },
    .navigateNext amountForm false, .navigateNext amountForm false, .reset]

/-- The walk leads past the hidden section, in the order of the form. -/
theorem walk_visits_all_gapped :
    let flow := run {} gapped
    flow.state.current? = none ∧ flow.state.completed = ∅ ∧
      (flow.visibleSections amountForm).1.map (·.id) = ["order", "review"] ∧
      (∀ s ∈ (flow.visibleSections amountForm).1, (flow.isComplete amountForm s.id).1 = true) ∧
      ((walk amountForm false 3).foldl step flow).state.history = ["order"] ∧
      ∃ completed, completed.Pairwise (· < ·) ∧ completed.Perm ["order", "review"] ∧
        flow.toldDuring (walk amountForm false 3) = [.sectionChanged none "order",
          .sectionChanged (some "order") "review", .formCompleted completed] := by
  intro flow
  have hcurrent : flow.state.current? = none := rfl
  have hcompleted : flow.state.completed = ∅ := rfl
  have hids : (flow.visibleSections amountForm).1.map (·.id) = ["order", "review"] := by decide +kernel
  have hpassable : ∀ s ∈ (flow.visibleSections amountForm).1, (flow.isComplete amountForm s.id).1 = true := by
    decide +kernel
  have hvisible : (flow.visibleSections amountForm).1 ≠ [] := by
    intro hnil
    rw [hnil] at hids
    cases hids
  have hwalk := walk_visits_all {} gapped amountForm false hcurrent hcompleted hvisible (.inr hpassable)
  dsimp only at hwalk
  rw [hids] at hwalk
  obtain ⟨-, -, hhistory, -, hcompletion⟩ := hwalk
  exact ⟨hcurrent, hcompleted, hids, hpassable, hhistory, hcompletion⟩

end FormRules.Flow

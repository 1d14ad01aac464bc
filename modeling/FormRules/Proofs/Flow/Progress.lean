import FormRules.Flow.Progress
import FormRules.Proofs.Flow.Answers
import FormRules.Proofs.Flow.Run

/-!
# Reports on the progress

A report counts the fields of a section one by one, while a section is complete when no required field of it is left
unfilled. Both agree: the section is complete just if as many required fields are filled as there are
(`countP_and_eq_countP_iff`), however often a field is named and whether it is known or not. The report on the form
counts sections in the same way (`progress_agrees`).
-/

namespace FormRules

open Formula (Context Engine)

/-- Everything that is counted by one property has another one too just if both together are counted as often. -/
theorem countP_and_eq_countP_iff {α : Type} {p q : α → Bool} {l : List α} :
    l.countP (fun a => p a && q a) = l.countP q ↔ ∀ a ∈ l, q a = true → p a = true := by
  rw [← List.countP_filter, List.countP_eq_length_filter (p := q), List.countP_eq_length]
  simp only [List.mem_filter, and_imp]

/-- The counts of a report on a section fit each other. -/
structure SectionProgress.Fits (report : SectionProgress) : Prop where
  filledRequired_le_required : report.filledRequired ≤ report.required
  required_le_total : report.required ≤ report.total
  filledRequired_le_filled : report.filledRequired ≤ report.filled
  filled_le_total : report.filled ≤ report.total

namespace Section

/-- Whether the section is required on a form. -/
def requiredIn (s : Section) (ctx : Context) : Bool := (s.isRequired ctx {}).1

theorem isRequired_fst (s : Section) (ctx : Context) (engine : Engine) :
    (s.isRequired ctx engine).1 = s.requiredIn ctx := by
  unfold requiredIn isRequired
  split
  · exact Formula.Engine.holds_congr engine {} fun _ _ => rfl
  · rfl

/-- Without a completion condition a section is complete if all its required fields are filled. -/
theorem completeIn_iff {s : Section} {ctx : Context} (h : condition? s.completionCondition? = none) :
    s.completeIn ctx = true ↔ ∀ name ∈ s.fields, needs ctx name = true → isFilled ctx name = true := by
  rw [completeIn, isComplete, h, List.all_eq_true]
  simp only [List.mem_filter, and_imp]

end Section

namespace Flow

variable {flow : Flow} {ctx : Context} {id : String} {s : Section}

theorem countRequired_fst (ctx : Context) (sections : List Section) (engine : Engine) :
    (countRequired ctx sections engine).1 = sections.countP (·.requiredIn ctx) := by
  induction sections generalizing engine with
  | nil => rfl
  | cons s rest ih =>
    have hstep : (countRequired ctx (s :: rest) engine).1 =
        (s.isRequired ctx engine).1.toNat + (countRequired ctx rest (s.isRequired ctx engine).2).1 := rfl
    rw [hstep, ih, s.isRequired_fst, List.countP_cons, Nat.add_comm]
    cases s.requiredIn ctx <;> rfl

/-- The visible sections have to do with the registered ones alone. -/
theorem visibleSections_fst (flow : Flow) (ctx : Context) :
    (flow.visibleSections ctx).1 = flow.sections.filter (·.visibleIn ctx) := by
  obtain ⟨engine, hsurvey⟩ := survey_eq flow ctx
  rw [visibleSections, hsurvey]
  dsimp only
  rw [shown, List.filter_map, List.map_map]
  exact List.map_id _

/-- The report on a registered section leaves all but the engine as it is. -/
theorem sectionProgress_eq (hs : flow.section? id = some s) (ctx : Context) : ∃ report engine,
    flow.sectionProgress ctx id = (some report, { flow with engine }) ∧
      report.total = s.fields.length ∧
      report.filled = s.fields.countP (Section.isFilled ctx) ∧
      report.required = s.fields.countP (Section.needs ctx) ∧
      report.filledRequired = s.fields.countP (fun name => Section.isFilled ctx name && Section.needs ctx name) ∧
      report.isComplete = s.completeIn ctx := by
  obtain ⟨engine, hcomplete⟩ := isComplete_eq flow ctx id
  rw [hs, Option.any_some] at hcomplete
  rw [sectionProgress, hs]
  dsimp only
  rw [hcomplete]
  exact ⟨_, engine, rfl, rfl, rfl, rfl, rfl, rfl⟩

theorem formProgress_eq (flow : Flow) (ctx : Context) :
    let report := (flow.formProgress ctx).1
    let sections := flow.sections.filter (·.visibleIn ctx)
    report.visible = sections.length ∧
      report.completed = sections.countP (fun s => flow.state.completed.contains s.id) ∧
      report.required = sections.countP (·.requiredIn ctx) := by
  rw [← visibleSections_fst]
  exact ⟨rfl, rfl, countRequired_fst ctx _ _⟩

/-- The report on a registered section is given, its counts fit each other, and it calls the section complete just if
the flow does, whatever was evaluated in between. A section without a completion condition is complete just if as many
required fields are filled as there are. In the report on the form no count is above that of the visible sections,
which is the length of their list, and as many are completed as are visible just if each visible one is completed. -/
theorem progress_agrees (flow : Flow) (ctx : Context) :
    (∀ id s, flow.section? id = some s → ∃ report engine,
      flow.sectionProgress ctx id = (some report, { flow with engine }) ∧ report.Fits ∧
        (∀ engine, report.isComplete = ({ flow with engine }.isComplete ctx id).1) ∧
        (Section.condition? s.completionCondition? = none →
          (report.isComplete = true ↔ report.filledRequired = report.required))) ∧
    let report := (flow.formProgress ctx).1
    report.completed ≤ report.visible ∧ report.required ≤ report.visible ∧
      (∀ engine, report.visible = ({ flow with engine }.visibleSections ctx).1.length) ∧
      (report.completed = report.visible ↔
        ∀ s ∈ (flow.visibleSections ctx).1, s.id ∈ flow.state.completed) := by
  constructor
  · intro id s hs
    obtain ⟨report, engine, heq, htotal, hfilled, hrequired, hboth, hcomplete⟩ := sectionProgress_eq hs ctx
    refine ⟨report, engine, heq, ⟨?_, ?_, ?_, ?_⟩, fun engine => ?_, fun hcondition => ?_⟩
    · rw [hboth, hrequired]
      exact List.countP_mono_left fun name _ h => (Bool.and_eq_true_iff.mp h).2
    · rw [hrequired, htotal]
      exact List.countP_le_length
    · rw [hboth, hfilled]
      exact List.countP_mono_left fun name _ h => (Bool.and_eq_true_iff.mp h).1
    · rw [hfilled, htotal]
      exact List.countP_le_length
    · have hs' : ({ flow with engine } : Flow).section? id = some s := hs
      rw [hcomplete, isComplete_fst, hs', Option.any_some]
    · rw [hcomplete, hboth, hrequired, countP_and_eq_countP_iff, Section.completeIn_iff hcondition]
  · obtain ⟨hvisible, hcompleted, hrequired⟩ := formProgress_eq flow ctx
    refine ⟨?_, ?_, fun engine => ?_, ?_⟩
    · rw [hcompleted, hvisible]
      exact List.countP_le_length
    · rw [hrequired, hvisible]
      exact List.countP_le_length
    · rw [hvisible, visibleSections_fst]
    · rw [hcompleted, hvisible, List.countP_eq_length, visibleSections_fst]
      simp only [Std.ExtTreeSet.contains_iff_mem]

/-- A form whose only field is required, with the value stored under its title. -/
def namedForm : Context where
  data := .ofList [("Full name", Value.text "Ada")]
  fields := .ofList [("name", FieldMeta.mk "name" "Full name" "" none true)]
  now := .ofMillis 0

/-- A section that names the field three times, once by its title, and one that no form has. -/
def whoSection : Section := { id := "who", fields := ["name", "shoe size", "Full name", "name"] }

/-- The section is complete with all three required, and one of two visible sections is completed. -/
theorem progress_agrees_repeated :
    let flow := run {} [.register whoSection, .register { id := "end", requiredCondition? := some "TRUE" },
      .navigateNext namedForm false, .navigateNext namedForm false]
    flow.section? "who" = some whoSection ∧ Section.condition? whoSection.completionCondition? = none ∧
      (∃ report, (flow.sectionProgress namedForm "who").1 = some report ∧ report.Fits ∧
        report.filledRequired = 3 ∧ report.required = 3 ∧ report.total = 4) ∧
      (flow.formProgress namedForm).1.completed = 1 ∧ (flow.formProgress namedForm).1.visible = 2 ∧
      ¬ ∀ s ∈ (flow.visibleSections namedForm).1, s.id ∈ flow.state.completed := by
  intro flow
  have hs : flow.section? "who" = some whoSection := rfl
  have hcondition : Section.condition? whoSection.completionCondition? = none := rfl
  have hcounts : (flow.sectionProgress namedForm "who").1.map (fun report => (report.required, report.total)) =
      some (3, 4) := by decide +kernel
  have hdone : (flow.isComplete namedForm "who").1 = true := by decide +kernel
  have hcompleted : (flow.formProgress namedForm).1.completed = 1 := by decide +kernel
  have hvisible : (flow.formProgress namedForm).1.visible = 2 := by decide +kernel
  obtain ⟨hsections, -, -, -, hform⟩ := progress_agrees flow namedForm
  obtain ⟨report, engine, heq, hfits, hcomplete, hfilled⟩ := hsections "who" whoSection hs
  rw [heq, Option.map_some, Option.some.injEq, Prod.mk.injEq] at hcounts
  have hall := (hfilled hcondition).mp ((hcomplete flow.engine).trans hdone)
  rw [hcompleted, hvisible] at hform
  exact ⟨hs, hcondition, ⟨report, by rw [heq], hfits, hall.trans hcounts.1, hcounts⟩, hcompleted, hvisible,
    fun h => absurd (hform.mpr h) (by decide)⟩

end Flow

end FormRules

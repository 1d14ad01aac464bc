import Mathlib.Data.List.Induction
import FormRules.Proofs.StableSort
import FormRules.Proofs.Flow.Run

/-!
# The order of the sections

The registrations that a run has left, the earliest first, follow from the operations alone (`registrations`). A
section that is registered again with the same order takes the place of its earlier registration; with another order
it counts as registered anew. At any time the sections of a flow are a stable sort of these by their order
(`stableSort_run`): registering keeps the relation because a section is put behind those whose order is not greater.
-/

namespace FormRules.Flow

/-- One more registration: in the place of an earlier one with the same id and order, else behind all others. -/
def withRegistration (registered : List Section) (s : Section) : List Section :=
  if ∃ old ∈ registered, old.id = s.id ∧ old.order = s.order then
    registered.map fun old => if old.id = s.id then s else old
  else registered.filter (·.id ≠ s.id) ++ [s]

/-- The registrations that are left after one more operation, the earliest first. -/
def registeredAfter (registered : List Section) : Operation → List Section
  | .register s => withRegistration registered s
  | .remove id => registered.filter (·.id ≠ id)
  | _ => registered

/-- The registrations that some operations on a new flow leave, the earliest first. -/
def registrations (operations : List Operation) : List Section := operations.foldl registeredAfter []

variable {flow : Flow} {registered : List Section}

private theorem stableSort_placeInto {sections : List Section} (h : StableSort (·.order) registered sections)
    (hdistinct : (sections.map (·.id)).Nodup) (s : Section) :
    StableSort (·.order) (withRegistration registered s) (s.placeInto sections) := by
  have hanew : StableSort (·.order) (registered.filter (·.id ≠ s.id) ++ [s])
      (s.insertInto (sections.filter (·.id ≠ s.id))) := by
    rw [Section.insertInto_eq_orderedInsert]
    exact (h.filter _).snoc s
  unfold Section.placeInto withRegistration
  cases hfind : sections.find? (·.id = s.id) with
  | none =>
    have hnew : ∀ other ∈ sections, other.id ≠ s.id := by simpa using hfind
    have hfresh : ¬ ∃ old ∈ registered, old.id = s.id ∧ old.order = s.order := by
      rintro ⟨old, hold, hid, -⟩
      exact hnew old (h.mem_iff.mpr hold) hid
    have hself : sections.filter (·.id ≠ s.id) = sections := by
      rw [List.filter_eq_self]
      simpa using hnew
    rw [hself] at hanew
    rw [if_neg hfresh]
    exact hanew
  | some old =>
    have hold : old ∈ sections := List.mem_of_find?_eq_some hfind
    have hid : old.id = s.id := by simpa using List.find?_some hfind
    have hunique : ∀ other ∈ registered, other.id = s.id → other = old := by
      intro other hother heq
      exact List.inj_on_of_nodup_map hdistinct (h.mem_iff.mpr hother) hold (heq.trans hid.symm)
    dsimp only
    by_cases horder : old.order = s.order
    · have hsame : ∃ old ∈ registered, old.id = s.id ∧ old.order = s.order :=
        ⟨old, h.mem_iff.mp hold, hid, horder⟩
      rw [if_pos horder, if_pos hsame]
      apply h.map
      intro other hother
      split
      · next heq => rw [hunique other hother heq, horder]
      · rfl
    · have hmoved : ¬ ∃ old ∈ registered, old.id = s.id ∧ old.order = s.order := by
        rintro ⟨other, hother, heq, hsame⟩
        rw [hunique other hother heq] at hsame
        exact horder hsame
      rw [if_neg horder, if_neg hmoved]
      exact hanew

theorem stableSort_step (h : StableSort (·.order) registered flow.sections) (hdistinct : flow.Distinct)
    (operation : Operation) :
    StableSort (·.order) (registeredAfter registered operation) (flow.step operation).sections := by
  rw [sections_step]
  cases operation with
  | register s => exact stableSort_placeInto h hdistinct s
  | remove id => exact h.filter _
  | _ => exact h

theorem stableSort_run (options : FlowOptions) (operations : List Operation) :
    StableSort (·.order) (registrations operations) (run options operations).sections := by
  induction operations using List.reverseRecOn with
  | nil => exact stableSort_self List.Pairwise.nil
  | append_singleton operations operation ih =>
    have hrun : run options (operations ++ [operation]) = (run options operations).step operation := by
      rw [run, List.foldl_concat]
      rfl
    have hregistrations : registrations (operations ++ [operation]) =
        registeredAfter (registrations operations) operation := by
      rw [registrations, List.foldl_concat]
      rfl
    rw [hrun, hregistrations]
    exact stableSort_step ih (distinct_run options operations) operation

/-- After any operations on a new flow, whatever the order in which sections were registered, registered again and
removed: no two sections have the same id, their orders do not decrease, and they are the registrations that are left,
sorted by their order, equal ones by the time of registration. -/
theorem sections_run_sorted (options : FlowOptions) (operations : List Operation) :
    let sections := (run options operations).sections
    (sections.map (·.id)).Nodup ∧ (sections.Pairwise fun a b => a.order ≤ b.order) ∧
      sections = (registrations operations).mergeSort fun a b => a.order ≤ b.order := by
  have hsort := stableSort_run options operations
  exact ⟨distinct_run options operations, hsort.ordered, hsort.eq_mergeSort⟩

/-- Of three sections with the same order the first is replaced in its place, and the second is moved away and back,
which puts it behind the third. -/
example :
    let sections := (run {} [.register { id := "a" }, .register { id := "b" }, .register { id := "c" },
      .register { id := "a", title := "A" }, .register { id := "b", order := -1 },
      .register { id := "d", order := -5 }, .remove "d", .register { id := "b" }]).sections
    sections.map (·.id) = ["a", "c", "b"] ∧ sections.map (·.title) = ["A", "", ""] := by
  decide +kernel

end FormRules.Flow

import Mathlib.Data.List.Nodup
import Mathlib.Data.List.Sort
import FormRules.Proofs.Flow.Moves

/-!
# Runs of a flow

A run applies operations to a new flow, each with its own data and instants. An operation that is no move
changes the sections, replaces the state by a saved or an empty one, or has to do with listeners alone. In every
run the sections have different ids (`distinct_run`).
-/

namespace FormRules

/-- A section is put in front of the first one whose order is greater. -/
theorem Section.insertInto_eq_orderedInsert (s : Section) (sections : List Section) :
    s.insertInto sections = sections.orderedInsert (fun a b => a.order < b.order) s := by
  induction sections with
  | nil => rfl
  | cons first rest ih => rw [insertInto, List.orderedInsert_cons, ih]

namespace Flow

open Formula (Context)

/-- What may be done with a flow. -/
inductive Operation where
  | register (s : Section)
  | remove (id : String)
  | navigateTo (ctx : Context) (id : String)
  | navigateNext (ctx : Context) (skipValidation : Bool)
  | navigatePrevious (ctx : Context)
  | recalculate (ctx : Context) (now : Instant)
  | poll (ctx : Context) (now : Instant)
  | cancelAdvance
  | importState (state : FlowState)
  | reset
  | subscribe (failsOn : Event → Bool)
  | unsubscribe (id : Nat)
  /-- A question, which changes the engine alone. -/
  | evaluate (engine : Formula.Engine)

def step (flow : Flow) : Operation → Flow
  | .register s => flow.register s
  | .remove id => flow.remove id
  | .navigateTo ctx id => (flow.navigateTo ctx id).2
  | .navigateNext ctx skipValidation => (flow.navigateNext ctx skipValidation).2
  | .navigatePrevious ctx => (flow.navigatePrevious ctx).2
  | .recalculate ctx now => flow.recalculate ctx now
  | .poll ctx now => (flow.poll ctx now).2
  | .cancelAdvance => flow.cancelAdvance
  | .importState state => flow.importState state
  | .reset => flow.reset
  | .subscribe failsOn => { flow with bus := flow.bus.subscribe failsOn }
  | .unsubscribe id => { flow with bus := flow.bus.unsubscribe id }
  | .evaluate engine => { flow with engine }

/-- The flow after some operations on a new one. -/
def run (options : FlowOptions) (operations : List Operation) : Flow := operations.foldl step { options }

variable {flow : Flow} {id : String}

private theorem perm_insertInto (s : Section) (sections : List Section) :
    (s.insertInto sections).Perm (s :: sections) := by
  rw [Section.insertInto_eq_orderedInsert]
  exact List.perm_orderedInsert _ s sections

private theorem mem_insertInto {s other : Section} {sections : List Section} :
    other ∈ s.insertInto sections ↔ other = s ∨ other ∈ sections :=
  (perm_insertInto s sections).mem_iff.trans List.mem_cons

/-- A replaced section has the id of the one in its place. -/
private theorem id_replaced (s other : Section) : (if other.id = s.id then s else other).id = other.id := by
  split
  · next heq => exact heq.symm
  · rfl

private theorem exists_mem_placeInto {s : Section} {sections : List Section} :
    (∃ other ∈ s.placeInto sections, other.id = id) ↔ id = s.id ∨ ∃ other ∈ sections, other.id = id := by
  unfold Section.placeInto
  split
  · next old hold =>
    have hold' : old ∈ sections ∧ old.id = s.id :=
      ⟨List.mem_of_find?_eq_some hold, by simpa using List.find?_some hold⟩
    split
    · constructor
      · rintro ⟨other, hother, rfl⟩
        obtain ⟨replaced, hreplaced, rfl⟩ := List.mem_map.mp hother
        exact .inr ⟨replaced, hreplaced, (id_replaced s replaced).symm⟩
      · rintro (rfl | ⟨other, hother, rfl⟩)
        · exact ⟨_, List.mem_map_of_mem hold'.1, by rw [id_replaced, hold'.2]⟩
        · exact ⟨_, List.mem_map_of_mem hother, id_replaced s other⟩
    · simp only [mem_insertInto, List.mem_filter, decide_eq_true_eq]
      constructor
      · rintro ⟨other, rfl | ⟨hother, -⟩, rfl⟩
        · exact .inl rfl
        · exact .inr ⟨other, hother, rfl⟩
      · rintro (rfl | ⟨other, hother, rfl⟩)
        · exact ⟨s, .inl rfl, rfl⟩
        · by_cases heq : other.id = s.id
          · exact ⟨s, .inl rfl, heq.symm⟩
          · exact ⟨other, .inr ⟨hother, heq⟩, rfl⟩
  · simp only [mem_insertInto, exists_eq_or_imp]
    exact or_congr_left eq_comm

theorem isRegistered_register {s : Section} :
    (flow.register s).isRegistered id = true ↔ id = s.id ∨ flow.isRegistered id = true := by
  rw [isRegistered_iff, isRegistered_iff]
  exact exists_mem_placeInto

theorem sections_remove (flow : Flow) (id : String) :
    (flow.remove id).sections = flow.sections.filter (·.id ≠ id) := by
  unfold remove
  split
  · rfl
  · next hunknown =>
    rw [Bool.not_eq_true, isRegistered, List.any_eq_false] at hunknown
    refine (List.filter_eq_self.mpr fun s hs => ?_).symm
    simpa using hunknown s hs

theorem isRegistered_remove {removed : String} :
    (flow.remove removed).isRegistered id = true ↔ flow.isRegistered id = true ∧ id ≠ removed := by
  simp only [isRegistered_iff, sections_remove, List.mem_filter, decide_eq_true_eq]
  constructor
  · rintro ⟨s, ⟨hs, hne⟩, rfl⟩
    exact ⟨⟨s, hs, rfl⟩, hne⟩
  · rintro ⟨⟨s, hs, rfl⟩, hne⟩
    exact ⟨s, ⟨hs, hne⟩, rfl⟩

/-- No two sections have the same id. -/
def Distinct (flow : Flow) : Prop := (flow.sections.map (·.id)).Nodup

theorem Distinct.section? (h : flow.Distinct) {s : Section} (hs : s ∈ flow.sections) :
    flow.section? s.id = some s := by
  cases hfind : flow.section? s.id with
  | none => simpa using List.find?_eq_none.mp hfind s hs
  | some other =>
    have hsame := List.inj_on_of_nodup_map h (mem_of_section? hfind) hs (id_of_section? hfind)
    rw [hsame]

private theorem nodup_placeInto {sections : List Section} (h : (sections.map (·.id)).Nodup) (s : Section) :
    ((s.placeInto sections).map (·.id)).Nodup := by
  unfold Section.placeInto
  split
  · split
    · have hsame : (Section.id ∘ fun other : Section => if other.id = s.id then s else other) = Section.id :=
        funext (id_replaced s)
      rwa [List.map_map, hsame]
    · -- the section moves, so the one in its old place is taken out first
      rw [((perm_insertInto s _).map _).nodup_iff, List.map_cons, List.nodup_cons]
      exact ⟨by simp, h.sublist (List.filter_sublist.map _)⟩
  · next hnew =>
    rw [((perm_insertInto s _).map _).nodup_iff, List.map_cons, List.nodup_cons]
    refine ⟨fun hmem => ?_, h⟩
    obtain ⟨other, hother, hid⟩ := List.mem_map.mp hmem
    simpa [hid] using List.find?_eq_none.mp hnew other hother

theorem sections_recalculate (flow : Flow) (ctx : Context) (now : Instant) :
    (flow.recalculate ctx now).sections = flow.sections := by
  obtain ⟨engine, timer, heq, -⟩ := updateAdvance_eq (flow.settled ctx) ctx now
  rw [recalculate_eq, heq]
  exact (settled_moves flow ctx).sections_eq

/-- Only registering and removing sections changes which there are. -/
theorem sections_step (flow : Flow) (operation : Operation) : (flow.step operation).sections =
    match operation with
    | .register s => s.placeInto flow.sections
    | .remove id => flow.sections.filter (·.id ≠ id)
    | _ => flow.sections := by
  cases operation with
  | register s => rfl
  | remove id => exact sections_remove flow id
  | navigateTo ctx id => exact (navigateTo_moves flow ctx id).sections_eq
  | navigateNext ctx skipValidation => exact (navigateNext_moves flow ctx skipValidation).sections_eq
  | navigatePrevious ctx => exact (navigatePrevious_moves flow ctx).sections_eq
  | recalculate ctx now => exact sections_recalculate flow ctx now
  | poll ctx now => exact (poll_moves flow ctx now).sections_eq
  | _ => rfl

theorem Distinct.step (h : flow.Distinct) (operation : Operation) : (flow.step operation).Distinct := by
  rw [Distinct, sections_step]
  cases operation with
  | register s => exact nodup_placeInto h s
  | remove id => exact h.sublist (List.filter_sublist.map _)
  | _ => exact h

theorem distinct_run (options : FlowOptions) (operations : List Operation) : (run options operations).Distinct :=
  List.foldlRecOn operations step (motive := Distinct) List.nodup_nil fun _ h operation _ => h.step operation

end Flow

end FormRules

import Mathlib.Data.List.Basic
import FormRules.Flow.Event

/-!
# Delivery of events

The ids of listeners are numbers of subscriptions, so no two listeners have the same one (`Bus.Numbered`). So a
listener that is subscribed is told of each event once, in order, whoever else listens and whether any of them fails
(`Numbered.received_foldl_emit`).
-/

namespace FormRules

namespace Bus

/-- Listeners have different ids, and none has one that is still to be given. -/
structure Numbered (bus : Bus) : Prop where
  nodup : (bus.listeners.map (·.id)).Nodup
  le : ∀ l ∈ bus.listeners, l.id ≤ bus.subscribed

variable {bus : Bus} {id : Nat}

theorem numbered_empty : ({} : Bus).Numbered := ⟨List.nodup_nil, nofun⟩

theorem Numbered.subscribe (h : bus.Numbered) (failsOn : Event → Bool) : (bus.subscribe failsOn).Numbered where
  nodup := by
    have hnew : bus.subscribed + 1 ∉ bus.listeners.map (·.id) := by
      intro hmem
      obtain ⟨l, hl, hid⟩ := List.mem_map.mp hmem
      have := h.le l hl
      omega
    simp only [Bus.subscribe, List.map_append, List.map_cons, List.map_nil]
    exact List.nodup_append.mpr ⟨h.nodup, List.pairwise_singleton _ _, by
      intro a ha b hb hab
      rw [List.mem_singleton] at hb
      subst hb
      exact hnew (hab ▸ ha)⟩
  le l hl := by
    have hl' : l ∈ bus.listeners ∨ l = ⟨bus.subscribed + 1, failsOn⟩ := by
      simpa [Bus.subscribe] using hl
    show l.id ≤ bus.subscribed + 1
    rcases hl' with hl' | rfl
    · have := h.le l hl'
      omega
    · exact Nat.le_refl _

theorem Numbered.unsubscribe (h : bus.Numbered) (id : Nat) : (bus.unsubscribe id).Numbered where
  nodup := h.nodup.sublist (List.filter_sublist.map _)
  le l hl := h.le l (List.mem_filter.mp hl).1

theorem Numbered.foldl_emit (h : bus.Numbered) (events : List Event) : (events.foldl emit bus).Numbered :=
  List.foldlRecOn events emit (motive := Numbered) h fun _ hbus _ _ => ⟨hbus.nodup, hbus.le⟩

theorem isSubscribed_foldl_emit (bus : Bus) (events : List Event) (id : Nat) :
    (events.foldl emit bus).isSubscribed id = bus.isSubscribed id :=
  List.foldlRecOn events emit (motive := fun b : Bus => b.isSubscribed id = bus.isSubscribed id) rfl
    fun _ hbus _ _ => hbus

theorem received_subscribe (bus : Bus) (failsOn : Event → Bool) (ids : List Nat) :
    (bus.subscribe failsOn).received ids = bus.received ids :=
  rfl

theorem received_unsubscribe (bus : Bus) (other : Nat) (ids : List Nat) :
    (bus.unsubscribe other).received ids = bus.received ids :=
  rfl

theorem isSubscribed_subscribe (h : bus.isSubscribed id = true) (failsOn : Event → Bool) :
    (bus.subscribe failsOn).isSubscribed id = true := by
  rw [isSubscribed, Bus.subscribe, List.any_append]
  rw [isSubscribed] at h
  rw [h, Bool.true_or]

theorem isSubscribed_unsubscribe {other : Nat} (h : bus.isSubscribed id = true) (hne : id ≠ other) :
    (bus.unsubscribe other).isSubscribed id = true := by
  obtain ⟨l, hl, hid⟩ := List.any_eq_true.mp h
  rw [decide_eq_true_eq] at hid
  refine List.any_eq_true.mpr ⟨l, List.mem_filter.mpr ⟨hl, ?_⟩, by simpa using hid⟩
  simpa [hid] using hne

/-- Of listeners with different ids, one with a given id is told once, whether it fails or not. -/
private theorem events_of_deliveries {listeners : List Listener} (hnodup : (listeners.map (·.id)).Nodup)
    (hid : id ∈ listeners.map (·.id)) (event : Event) :
    ((listeners.map fun l => (⟨l.id, event, l.failsOn event⟩ : Delivery)).filter
      fun delivery => [id].contains delivery.listener).map (·.event) = [event] := by
  induction listeners with
  | nil => cases hid
  | cons l rest ih =>
    rw [List.map_cons, List.nodup_cons] at hnodup
    rw [List.map_cons, List.mem_cons] at hid
    by_cases hl : l.id = id
    · -- no later listener has the same id
      have hrest : (rest.map fun l => (⟨l.id, event, l.failsOn event⟩ : Delivery)).filter
          (fun delivery => [id].contains delivery.listener) = [] := by
        refine List.filter_eq_nil_iff.mpr fun delivery hdelivery => ?_
        obtain ⟨other, hother, rfl⟩ := List.mem_map.mp hdelivery
        have hne : other.id ≠ id := fun heq => hnodup.1 (hl ▸ heq ▸ List.mem_map_of_mem hother)
        simpa using hne
      rw [List.map_cons, List.filter_cons_of_pos (by simp [hl]), hrest]
      rfl
    · have hid' : id ∈ rest.map (·.id) := hid.resolve_left (Ne.symm hl)
      rw [List.map_cons, List.filter_cons_of_neg (by simpa using hl)]
      exact ih hnodup.2 hid'

theorem Numbered.received_foldl_emit (h : bus.Numbered) (hid : bus.isSubscribed id = true) (events : List Event) :
    (events.foldl emit bus).received [id] = bus.received [id] ++ events := by
  have hmem : id ∈ bus.listeners.map (·.id) := by
    obtain ⟨l, hl, heq⟩ := List.any_eq_true.mp hid
    rw [decide_eq_true_eq] at heq
    exact heq ▸ List.mem_map_of_mem hl
  induction events generalizing bus with
  | nil => simp
  | cons event rest ih =>
    have hone : (bus.emit event).received [id] = bus.received [id] ++ [event] := by
      have htold := events_of_deliveries h.nodup hmem event
      rw [received, emit, List.filter_append, List.map_append, htold]
      rfl
    have hnext : (bus.emit event).Numbered := ⟨h.nodup, h.le⟩
    rw [List.foldl_cons, ih hnext hid hmem, hone, List.append_assoc]
    rfl

end Bus

end FormRules

/-!
# Events of a flow

Listeners are told of every event in the order in which they subscribed. A listener may fail on an event; the
others are told all the same. The journal holds what was delivered to whom, in order.
-/

namespace FormRules

inductive Event where
  /-- Another section became current. -/
  | sectionChanged (before : Option String) (after : String)
  /-- An incomplete section was not left. -/
  | validationFailed (sectionId : String)
  /-- The last visible section was left. -/
  | formCompleted (completed : List String)
  /-- Visibility was determined anew. -/
  | flowRecalculated (current : Option String) (visible : List String)
  deriving DecidableEq, Repr

def Event.name : Event → String
  | sectionChanged _ _ => "sectionChanged"
  | validationFailed _ => "validationFailed"
  | formCompleted _ => "formCompleted"
  | flowRecalculated _ _ => "flowRecalculated"

structure Listener where
  id : Nat
  /-- Whether the listener fails on an event that it is told of. -/
  failsOn : Event → Bool

structure Delivery where
  listener : Nat
  event : Event
  failed : Bool
  deriving DecidableEq, Repr

structure Bus where
  listeners : List Listener := []
  /-- The number of subscriptions so far. -/
  subscribed : Nat := 0
  journal : List Delivery := []

namespace Bus

/-- Adds a listener, whose id is the number of its subscription. -/
def subscribe (bus : Bus) (failsOn : Event → Bool) : Bus :=
  let id := bus.subscribed + 1
  { bus with listeners := bus.listeners ++ [⟨id, failsOn⟩], subscribed := id }

/-- Whether a listener is subscribed. -/
def isSubscribed (bus : Bus) (id : Nat) : Bool := bus.listeners.any (·.id = id)

def unsubscribe (bus : Bus) (id : Nat) : Bus := { bus with listeners := bus.listeners.filter (·.id ≠ id) }

/-- Tells all listeners of an event. -/
def emit (bus : Bus) (event : Event) : Bus :=
  { bus with journal := bus.journal ++ bus.listeners.map fun l => ⟨l.id, event, l.failsOn event⟩ }

/-- The events that some listeners were told of, in order. -/
def received (bus : Bus) (ids : List Nat) : List Event :=
  (bus.journal.filter fun delivery => ids.contains delivery.listener).map (·.event)

end Bus

end FormRules

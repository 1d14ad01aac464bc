import FormRules.Calendar.Instant

/-!
# The timer of a flow

The timer holds at most one pending advance: the section to be left and the instant from which it is due. It
does nothing by itself; whoever asks takes the advance once it is due.
-/

namespace FormRules

structure Advance where
  sectionId : String
  due : Instant
  deriving DecidableEq, Repr

/-- The greatest wait, in milliseconds. -/
def maxDelay : Nat := UInt32.size - 1

/-- The instant when an advance is due, which is at once if waiting leads out of the supported years. -/
def dueAfter (now : Instant) (delay : UInt64) : Instant :=
  let due := now.later (min delay.toNat maxDelay)
  if due.isSupported then due else now

structure Timer where
  pending? : Option Advance := none
  deriving DecidableEq, Repr

namespace Timer

/-- Sets an advance in place of any other. -/
def schedule (sectionId : String) (now : Instant) (delay : UInt64) : Timer :=
  ⟨some ⟨sectionId, dueAfter now delay⟩⟩

def cancelled : Timer := {}

def isPendingFor (timer : Timer) (sectionId : String) : Bool := timer.pending?.any (·.sectionId = sectionId)

/-- Cancels an advance of another section. -/
def keptFor (timer : Timer) (sectionId : String) : Timer :=
  if timer.isPendingFor sectionId then timer else cancelled

/-- The pending advance if it is due; it is then no longer pending. -/
def takeDue (timer : Timer) (now : Instant) : Option Advance × Timer :=
  match timer.pending? with
  | some advance => if advance.due ≤ now then (some advance, cancelled) else (none, timer)
  | none => (none, timer)

end Timer

end FormRules

import CircuitBreaker.Resource
import CircuitBreaker.Status

/-!
# `CircuitBreaker.Transition` — changes of phase and who hears of them

A circuit that changes its phase tells its listeners, in the order in which they were registered and
only after the change is made. A listener that fails keeps those after it from hearing.

## Contents
- `Transition`, `Transition.logLine`: a change of phase.
- `Notice`, `Reaction`, `Listener`: what listeners do with it.
- `Listener.recorder`, `Listener.logger`, `Listener.faulty`: listeners.
- `deliver`: telling the listeners.
-/

namespace CircuitBreaker

/-- A change of phase. -/
structure Transition where
  resource : Resource
  prior : Phase
  /-- The status after the change. -/
  status : Status
deriving DecidableEq, Repr

namespace Transition

/-- The change as a line of the log. -/
def logLine (t : Transition) : String :=
  "[CircuitBreaker StateChange] " ++ t.resource.text ++ " from " ++ t.prior.text ++ " to "
    ++ t.status.text

end Transition

/-- What a listener leaves behind. -/
inductive Notice where
  /-- The change itself, with the mark of the listener. -/
  | recorded (mark : String) (t : Transition)
  /-- A line of the log. -/
  | logged (line : String)
deriving DecidableEq, Repr

/-- What a listener does with a change. -/
inductive Reaction where
  | notice (n : Notice)
  | silence
  /-- The listener fails. -/
  | fault (message : String)
deriving DecidableEq, Repr

/-- A listener: its reaction to every change. -/
abbrev Listener := Transition → Reaction

namespace Listener

/-- Leaves every change behind under a mark. -/
def recorder (mark : String) : Listener := fun t => .notice (.recorded mark t)

/-- Writes every change to the log. -/
def logger : Listener := fun t => .notice (.logged t.logLine)

/-- Fails when a resource of the service called `service` enters a phase. -/
def faulty (service : String) (phase : Phase) : Listener := fun t =>
  if t.status.phase = phase ∧ t.resource.key.name = service then
    .fault ("listener of " ++ service ++ " failed")
  else
    .silence

end Listener

/-- What came of telling the listeners: what they left behind, and the fault of the one that failed,
    if one did. -/
structure Delivery where
  notices : List Notice := []
  fault : Option String := none
deriving DecidableEq, Repr

/-- Tell the listeners in turn, up to the first that fails. -/
def deliver : List Listener → Transition → Delivery
  | [], _ => {}
  | l :: rest, t =>
      match l t with
      | .fault message => { fault := some message }
      | .silence => deliver rest t
      | .notice n =>
          let d := deliver rest t
          { d with notices := n :: d.notices }

/-- Tell the listeners of a change, if there was one. -/
def deliverAny (ls : List Listener) : Option Transition → Delivery
  | none => {}
  | some t => deliver ls t

end CircuitBreaker

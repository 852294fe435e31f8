/-!
# `CircuitBreaker.Probe` — trial calls of a half-open circuit

The limiter that admits a bounded number of trial calls at a time and counts the successes among
their results.

## Contents
- `Probe`: the bound, the successes needed, the slots taken and the successes so far.
- `acquire?`, `release`, `releaseAll`, `reset`: slots.
- `finish`, `Conclusion`: what a result means for the circuit.
-/

namespace CircuitBreaker

/-- What the result of a trial call means for its circuit. -/
inductive Conclusion where
  /-- More successes are needed. -/
  | pending
  /-- The resource has recovered. -/
  | close
  /-- A trial call failed. -/
  | reopen
deriving DecidableEq, Repr

namespace Conclusion

/-- The name of the conclusion. -/
def text : Conclusion → String
  | pending => "Pending"
  | close => "Close"
  | reopen => "Reopen"

end Conclusion

/-- The limiter of trial calls. -/
structure Probe where
  /-- How many trial calls may be under way at a time. -/
  bound : Nat
  /-- How many successes in a row prove recovery. -/
  needed : Nat
  /-- How many slots are taken. -/
  inFlight : Nat := 0
  /-- How many successes came back so far. -/
  successes : Nat := 0
deriving DecidableEq, Repr

namespace Probe

/-- The limiter with one slot more taken, if one is free. -/
def acquire? (p : Probe) : Option Probe :=
  if p.inFlight < p.bound then some { p with inFlight := p.inFlight + 1 } else none

/-- Give one slot back. With no slot taken nothing changes. -/
def release (p : Probe) : Probe := { p with inFlight := p.inFlight - 1 }

/-- Give all slots back: the calls that hold them are taken for lost. -/
def releaseAll (p : Probe) : Probe := { p with inFlight := 0 }

/-- Forget slots and successes. -/
def reset (p : Probe) : Probe := { p with inFlight := 0, successes := 0 }

/-- A trial call came back: its slot is free again, and its result decides on the circuit. -/
def finish (p : Probe) (success : Bool) : Probe × Conclusion :=
  let p := p.release
  if success then
    let p := { p with successes := p.successes + 1 }
    (p, if p.needed ≤ p.successes then .close else .pending)
  else
    (p, .reopen)

end Probe

end CircuitBreaker

import CircuitBreaker.Clock
import CircuitBreaker.Rule
import CircuitBreaker.Text.Quoted

/-!
# `CircuitBreaker.Status` — where a circuit stands

## Contents
- `Phase`: closed, open, half open, or gone.
- `Status`: a phase, since when and why; `Status.text`, `Status.isAvailable`.
- `Status.untracked`: the status of resources without a circuit.
-/

namespace CircuitBreaker

/-- The phases of a circuit. -/
inductive Phase where
  /-- Calls go through and are counted. -/
  | closed
  /-- Calls are refused. -/
  | opened
  /-- Trial calls go through. -/
  | halfOpen
  /-- The circuit is out of use for good. -/
  | destroyed
deriving DecidableEq, Repr, Inhabited

namespace Phase

/-- The name of the phase. -/
def text : Phase → String
  | closed => "Close"
  | opened => "Open"
  | halfOpen => "HalfOpen"
  | destroyed => "Destroyed"

/-- The phases. -/
def all : List Phase := [closed, opened, halfOpen, destroyed]

end Phase

/-- Where a circuit stands. -/
structure Status where
  /-- The name of the rule behind the circuit; empty if there is none. -/
  rule : String := ""
  phase : Phase := .closed
  /-- Why the circuit entered the phase. -/
  reason : String := ""
  /-- When the circuit entered the phase. -/
  since : Nat := 0
  /-- What callers may answer with, while the circuit is open. -/
  fallback : Option Response := none
deriving DecidableEq, Repr, Inhabited

namespace Status

/-- The status of a resource without a circuit. -/
def untracked : Status := {}

/-- Whether calls may go through. -/
def isAvailable (s : Status) : Bool := s.phase != .opened

/-- The status on one line. -/
def text (s : Status) : String :=
  s.phase.text ++ "(rule: " ++ Text.quoted s.rule ++ ", since: " ++ Clock.timeOfDay s.since
    ++ ", reason: " ++ Text.quoted s.reason ++ ")"

end Status

end CircuitBreaker

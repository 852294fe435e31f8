import CircuitBreaker.Resource

/-!
# `CircuitBreaker.Outcome` — how a call went

An outcome is the one input of the statistics: which resource was called, by whom, what came back
and how long that took.

## Contents
- `Verdict`: the coarse result of a call; `isFailure`.
- `Outcome`: a completed call.
-/

namespace CircuitBreaker

/-- The coarse result of a call. -/
inductive Verdict where
  | success
  | fail
  | timeout
  /-- The call was refused on the caller's side. It never reached the resource and says nothing
      about its health. -/
  | reject
deriving DecidableEq, Repr, Inhabited

namespace Verdict

/-- The name of the verdict. -/
def text : Verdict → String
  | success => "Success"
  | fail => "Fail"
  | timeout => "Timeout"
  | reject => "Reject"

/-- The verdicts. -/
def all : List Verdict := [success, fail, timeout, reject]

/-- Whether the resource failed to answer well. -/
def isFailure : Verdict → Bool
  | fail | timeout => true
  | success | reject => false

end Verdict

/-- A completed call. -/
structure Outcome where
  resource : Resource
  /-- The calling service, where it is known. -/
  caller : Option ServiceKey := none
  code : Int := 0
  delay : Nat := 0
  verdict : Verdict := .success
  /-- When the call was made, in milliseconds. -/
  timestamp : Nat := 0
deriving DecidableEq, Repr

end CircuitBreaker

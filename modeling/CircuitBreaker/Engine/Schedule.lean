import CircuitBreaker.Engine

/-!
# `CircuitBreaker.Engine.Schedule` — ticks at a period

An engine asks to be told the time again after its period, which is read anew after every tick.

## Contents
- `Scheduler`: ticks until it is stopped.
- `Engine.tickUntil`: the ticks of an engine up to a point in time, or until a condition holds.
-/

namespace CircuitBreaker

/-- Something that ticks until it is stopped. -/
structure Scheduler where
  isRunning : Bool := true
  /-- How often it ticked. -/
  ticks : Nat := 0
deriving DecidableEq, Repr

namespace Scheduler

/-- A period has passed. -/
def tick (s : Scheduler) : Scheduler := if s.isRunning then { s with ticks := s.ticks + 1 } else s

/-- Some periods have passed. -/
def wait (s : Scheduler) (periods : Nat) : Scheduler := periods.repeat tick s

/-- Stop it. A second stop changes nothing. -/
def stop (s : Scheduler) : Scheduler := { s with isRunning := false }

end Scheduler

namespace Engine

theorem shortestPeriod_le_period (e : Engine) : shortestPeriod ≤ e.period := by
  unfold period
  exact Nat.le_max_right _ _

/-- What came of ticking for a while. -/
structure Watch where
  engine : Engine
  /-- What the listeners left behind, oldest first. -/
  notices : List Notice
  /-- Whether the condition came to hold. -/
  reached : Bool

/-- Tick at the period of the engine until a condition holds or `last` is passed. -/
def tickUntil (e : Engine) (notices : List Notice) (done : Engine → List Notice → Bool)
    (now last : Nat) : Watch :=
  if done e notices then
    { engine := e, notices, reached := true }
  else if now + e.period ≤ last then
    let (next, more) := e.tick (now + e.period)
    next.tickUntil (notices ++ more) done (now + e.period) last
  else
    { engine := e, notices, reached := false }
termination_by last - now
decreasing_by
  have := e.shortestPeriod_le_period
  unfold shortestPeriod at this
  omega

end Engine

end CircuitBreaker

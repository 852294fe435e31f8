import CircuitBreaker.Circuit
import CircuitBreaker.Window.Checked

/-!
# `CircuitBreaker.Circuit.Checked` — operations on circuits that can fault

A report looks for the slot of its time, and both reports and the passing of time divide one sum of a
window by another. Here they are made of steps that can fault. All other operations only move circuits and
change counters. A window is summed bucket by bucket, and its sums wrap around.

## Contents
- `Trigger.checkedCheck`, `Trigger.checkedRecord`, and for a block: counting towards a condition.
- `Circuit.checkedReport`, `Circuit.checkedEvaluate`: a call came back, and time has passed.
- `Circuit.checkedStep`, `Circuit.checkedRun`: one operation, and several.
-/

namespace CircuitBreaker

/-- The share that one count is of another. Floats divide by zero, to what is no share; here they stop
    as numbers do. -/
def Checked.ratio (x y : Nat) : Except Fault Float :=
  if y = 0 then .error .divisionByZero else .ok (Trigger.floatCount x / Trigger.floatCount y)

namespace Trigger

/-- Count one call, and one more of another dimension if `also` holds. -/
def checkedCountCall (w : Window) (now : Nat) (d : Dimension) (also : Bool) :
    Except Fault Window := do
  let w ← w.checkedAdd now .request 1
  if also then w.checkedAdd now d 1 else return w

/-- Count a call. -/
def checkedCount (t : Trigger) (now : Nat) (isError : Bool) (delay : Nat) : Except Fault Trigger :=
  match t with
  | streak limit errors => return (streak limit errors).count now isError delay
  | errorRate l w => return errorRate l (← checkedCountCall w now .failure isError)
  | slowRate n l w => return slowRate n l (← checkedCountCall w now .slow (decide (n ≤ delay)))

/-- The share of one dimension among the calls in the window, if there are enough of them and it
    reaches the limit. -/
def checkedShareFinding (share : Share) (d : Dimension) (l : RateLimit) (w : Window) (now : Nat) :
    Except Fault (Option Finding) := do
  let total := w.sum now .request
  if total = 0 ∨ total < l.minimum then
    return none
  else
    let target := w.sum now d
    let ratio ← Checked.ratio target total
    return if l.threshold ≤ ratio then some (.share share ratio target total l.threshold) else none

/-- What the trigger has to say at a time, if it is satisfied. -/
def checkedCheck (t : Trigger) (now : Nat) : Except Fault (Option Finding) :=
  match t with
  | streak limit errors => return (streak limit errors).check now
  | errorRate l w => checkedShareFinding .errors .failure l w now
  | slowRate _ l w => checkedShareFinding .slowness .slow l w now

/-- Count a call, and say what the trigger finds then. -/
def checkedRecord (t : Trigger) (now : Nat) (isError : Bool) (delay : Nat) :
    Except Fault (Trigger × Option Finding) := do
  let t ← t.checkedCount now isError delay
  if t.heeds isError then return (t, ← t.checkedCheck now) else return (t, none)

end Trigger

namespace Block

/-- Feed every trigger, and give the reason of the first that is satisfied then. -/
def checkedRecord (b : Block) (now : Nat) (o : Outcome) :
    Except Fault (Block × Option String) := do
  let isError := b.isError o
  let results ← b.triggers.mapM fun t => t.checkedRecord now isError o.delay
  return ({ b with triggers := results.map fun r => r.1 },
    (results.findSome? fun r => r.2).map fun f => f.text b.name)

/-- The reason of the first trigger that is satisfied. -/
def checkedCheck (b : Block) (now : Nat) : Except Fault (Option String) := do
  let finding ← b.triggers.findSomeM? fun t => t.checkedCheck now
  return finding.map fun f => f.text b.name

end Block

namespace Circuit

/-- Record an outcome in every block, and give the reason of the first that is satisfied. -/
def checkedRecordAll (blocks : List Block) (now : Nat) (o : Outcome) :
    Except Fault (List Block × Option String) := do
  let results ← blocks.mapM fun b => b.checkedRecord now o
  return (results.map fun r => r.1, results.findSome? fun r => r.2)

/-- A call came back while the circuit was closed. -/
def checkedReportClosed (c : Circuit) (o : Outcome) (now : Nat) :
    Except Fault (Circuit × Option Transition) := do
  let (blocks, reason) ← checkedRecordAll c.blocks now o
  let c := { c with blocks }
  match reason with
  | some reason => return c.trip reason now
  | none => return (c, none)

/-- A call came back. -/
def checkedReport (c : Circuit) (o : Outcome) (now : Nat) :
    Except Fault (Circuit × Option Transition) :=
  if c.isDestroyed || o.verdict == .reject then
    return (c, none)
  else
    let c := c.touch now
    match c.phase with
    | .closed => c.checkedReportClosed o now
    | .halfOpen => return c.reportProbe o now
    | .opened => return (c, none)
    | .destroyed => return (c, none)

/-- Time has passed. -/
def checkedEvaluate (c : Circuit) (now : Nat) : Except Fault (Circuit × Option Transition) :=
  match c.phase with
  | .closed => do
      match ← c.blocks.findSomeM? fun b => b.checkedCheck now with
      | some reason => return c.trip reason now
      | none => return (c, none)
  | .opened => return if c.hasSlept now then c.startProbing now else (c, none)
  | .halfOpen => return (c.releaseLost now, none)
  | .destroyed => return (c, none)

/-- One operation. -/
def checkedStep (c : Circuit) (op : Op) : Except Fault (Circuit × Answer) :=
  match op with
  | .report o now => return Answer.ofChange (← c.checkedReport o now)
  | .evaluate now => return Answer.ofChange (← c.checkedEvaluate now)
  | op => return c.step op

/-- Operations one after the other, up to the first that faults, and what each came to. -/
def checkedRun (c : Circuit) : List Op → Except Fault (Circuit × List Answer)
  | [] => return (c, [])
  | op :: rest => do
      let (c, a) ← c.checkedStep op
      let (c, as) ← c.checkedRun rest
      return (c, a :: as)

end Circuit

end CircuitBreaker

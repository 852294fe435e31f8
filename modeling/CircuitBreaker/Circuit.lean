import CircuitBreaker.Block
import CircuitBreaker.Probe
import CircuitBreaker.Transition

/-!
# `CircuitBreaker.Circuit` — the circuit of one resource

A closed circuit counts outcomes and opens when a trigger is satisfied. An open one waits for its
sleep window, then lets trial calls through. Enough successes in a row close it, one failure opens
it again. A circuit that is destroyed stays so.

Every operation returns the circuit after it and the change of phase that it made, if it made one.

## Contents
- `Circuit`, `Circuit.build?`: the state.
- `Circuit.phase`, `Circuit.currentStatus`: what others see of it.
- `Circuit.move`: changing the phase.
- `Circuit.report`, `Circuit.evaluate`, `Circuit.acquireProbe`, `Circuit.destroy`: the operations.
- `Circuit.Op`, `Circuit.step`, `Circuit.run`: sequences of operations.
-/

namespace CircuitBreaker

/-- What the circuits of one engine have in common. -/
structure CircuitSettings where
  /-- How many buckets a sliding window has. -/
  buckets : Nat
  /-- How many trial calls may be under way at a time, unless the rule says otherwise. -/
  probes : Nat
deriving DecidableEq, Repr

/-- The circuit of one resource. -/
structure Circuit where
  resource : Resource
  rule : Rule
  blocks : List Block
  probe : Probe
  /-- When the trial calls that are under way will be taken for lost. -/
  probeDeadline : Nat := 0
  /-- Phase, reason and time of the last change. -/
  status : Status
  lastAccess : Nat
deriving Repr

namespace Circuit

/-- A closed circuit under some block rules of a rule. -/
def build? (f : Compiler) (s : CircuitSettings) (resource : Resource) (rule : Rule)
    (blocks : List BlockRule) (now : Nat) (cache : PatternCache) :
    Except WindowError Circuit × PatternCache :=
  match Block.buildAll? f s.buckets blocks cache with
  | (.error e, cache) => (.error e, cache)
  | (.ok blocks, cache) =>
      (.ok {
        resource
        rule
        blocks
        probe := {
          bound := rule.recovery.probes.getD s.probes
          needed := rule.recovery.successes }
        status := { rule := rule.name, phase := .closed, since := now }
        lastAccess := now }, cache)

/-- The phase that the circuit is in. -/
def phase (c : Circuit) : Phase := c.status.phase

/-- Whether the circuit is out of use. -/
def isDestroyed (c : Circuit) : Bool := c.phase == .destroyed

/-- The status that others see: a destroyed circuit is like none. -/
def currentStatus (c : Circuit) : Status :=
  if c.isDestroyed then .untracked else c.status

/-- Note that the circuit was needed at a time. -/
def touch (c : Circuit) (now : Nat) : Circuit := { c with lastAccess := max c.lastAccess now }

/-- The width of the narrowest bucket among the windows of the circuit. -/
def preferredTick? (c : Circuit) : Option Nat :=
  ((c.blocks.flatMap fun b => b.triggers).filterMap fun t => t.window?.map fun w => w.width).min?

/-! ## Changing the phase -/

/-- The circuit after it entered a phase. Trial calls are counted anew from half open on; a circuit
    that closes starts from nothing. -/
def enter (c : Circuit) (target : Phase) (reason : String) (now : Nat) : Circuit :=
  let status : Status := { rule := c.rule.name, phase := target, reason, since := now }
  match target with
  | .closed =>
      { c with status, probe := c.probe.reset, blocks := c.blocks.map Block.reset }
  | .opened => { c with status := { status with fallback := c.rule.fallback? } }
  | .halfOpen =>
      { c with
        status
        probe := c.probe.reset
        probeDeadline := Clock.after now c.rule.recovery.sleepWindow }
  | .destroyed => { c with status }

/-- Move from one phase to another; a circuit in any other phase stays as it is. -/
def move (c : Circuit) (source target : Phase) (reason : String) (now : Nat) :
    Circuit × Option Transition :=
  if c.phase = source then
    let next := c.enter target reason now
    (next, some { resource := c.resource, prior := source, status := next.status })
  else
    (c, none)

/-- Open a closed circuit. -/
def trip (c : Circuit) (reason : String) (now : Nat) : Circuit × Option Transition :=
  c.move .closed .opened reason now

/-- Let trial calls through an open circuit. -/
def startProbing (c : Circuit) (now : Nat) : Circuit × Option Transition :=
  c.move .opened .halfOpen "sleep window elapsed" now

/-- Open a half-open circuit again. -/
def reopen (c : Circuit) (reason : String) (now : Nat) : Circuit × Option Transition :=
  c.move .halfOpen .opened reason now

/-- Close a half-open circuit. -/
def recover (c : Circuit) (now : Nat) : Circuit × Option Transition :=
  c.move .halfOpen .closed
    (toString c.rule.recovery.successes ++ " consecutive probes succeeded") now

/-- Take the circuit out of use for good. Nobody is told. -/
def destroy (c : Circuit) : Circuit :=
  if c.isDestroyed then
    c
  else
    { c with
      status := {
        rule := c.rule.name
        phase := .destroyed
        reason := "destroyed"
        since := c.status.since } }

/-! ## Operations -/

/-- Why a trial call made the circuit open again. -/
def probeFailureText (block : String) (o : Outcome) : String :=
  "probe failed, block config " ++ Text.quoted block ++ ", ret code: " ++ toString o.code
    ++ ", delay: " ++ toString o.delay ++ "ms"

/-- Record an outcome in every block, and give the reason of the first that is satisfied. -/
def recordAll (blocks : List Block) (now : Nat) (o : Outcome) : List Block × Option String :=
  let results := blocks.map fun b => b.record now o
  (results.map fun r => r.1, results.findSome? fun r => r.2)

/-- The reason of the first block that is satisfied. -/
def check (c : Circuit) (now : Nat) : Option String := c.blocks.findSome? fun b => b.check now

/-- A call came back while the circuit was closed. -/
def reportClosed (c : Circuit) (o : Outcome) (now : Nat) : Circuit × Option Transition :=
  let (blocks, reason) := recordAll c.blocks now o
  let c := { c with blocks }
  match reason with
  | some reason => c.trip reason now
  | none => (c, none)

/-- A trial call came back. -/
def reportProbe (c : Circuit) (o : Outcome) (now : Nat) : Circuit × Option Transition :=
  let failure := c.blocks.find? fun b => b.isProbeFailure o
  let (probe, conclusion) := c.probe.finish failure.isNone
  let c := { c with probe }
  match conclusion with
  | .pending => (c, none)
  | .close => c.recover now
  | .reopen => c.reopen (probeFailureText ((failure.map fun b => b.name).getD "") o) now

/-- A call came back. Calls that were never sent do not count, and neither do those that come back
    to an open circuit. -/
def report (c : Circuit) (o : Outcome) (now : Nat) : Circuit × Option Transition :=
  if c.isDestroyed || o.verdict == .reject then
    (c, none)
  else
    let c := c.touch now
    match c.phase with
    | .closed => c.reportClosed o now
    | .halfOpen => c.reportProbe o now
    | .opened => (c, none)
    | .destroyed => (c, none)

/-- Whether the sleep window of an open circuit is over. -/
def hasSlept (c : Circuit) (now : Nat) : Bool :=
  decide (Clock.after c.status.since c.rule.recovery.sleepWindow ≤ now)

/-- Take the trial calls under way for lost once their deadline has passed. -/
def releaseLost (c : Circuit) (now : Nat) : Circuit :=
  if c.probeDeadline ≤ now ∧ 0 < c.probe.inFlight then
    { c with
      probe := c.probe.releaseAll
      probeDeadline := Clock.after now c.rule.recovery.sleepWindow }
  else
    c

/-- Time has passed: open a closed circuit whose triggers are satisfied, let trial calls through an
    open one that has slept, give up lost trial calls of a half-open one. -/
def evaluate (c : Circuit) (now : Nat) : Circuit × Option Transition :=
  match c.phase with
  | .closed =>
      match c.check now with
      | some reason => c.trip reason now
      | none => (c, none)
  | .opened => if c.hasSlept now then c.startProbing now else (c, none)
  | .halfOpen => (c.releaseLost now, none)
  | .destroyed => (c, none)

/-- Take a slot for a trial call, if the circuit is half open and has one free. -/
def acquireProbe? (c : Circuit) : Option Circuit :=
  if c.phase = .halfOpen then c.probe.acquire?.map fun probe => { c with probe } else none

/-- Give back the slot of a trial call that is not sent. -/
def releaseProbe (c : Circuit) : Circuit := { c with probe := c.probe.release }

/-! ## Sequences of operations -/

/-- The operations on a circuit. -/
inductive Op where
  | report (o : Outcome) (now : Nat)
  | evaluate (now : Nat)
  | acquireProbe
  | releaseProbe
  | touch (now : Nat)
  | destroy
  | trip (reason : String) (now : Nat)
  | startProbing (now : Nat)
  | reopen (reason : String) (now : Nat)
  | recover (now : Nat)
deriving Repr

/-- What an operation came to. -/
structure Answer where
  /-- Whether it did what it was asked to do. -/
  done : Bool := false
  /-- The change of phase that it made. -/
  change : Option Transition := none
deriving DecidableEq, Repr

/-- An answer that says whether the phase was changed. -/
def Answer.ofChange (r : Circuit × Option Transition) : Circuit × Answer :=
  (r.1, { done := r.2.isSome, change := r.2 })

/-- One operation. -/
def step (c : Circuit) : Op → Circuit × Answer
  | .report o now => Answer.ofChange (c.report o now)
  | .evaluate now => Answer.ofChange (c.evaluate now)
  | .acquireProbe =>
      match c.acquireProbe? with
      | some c => (c, { done := true })
      | none => (c, {})
  | .releaseProbe => (c.releaseProbe, {})
  | .touch now => (c.touch now, {})
  | .destroy => (c.destroy, {})
  | .trip reason now => Answer.ofChange (c.trip reason now)
  | .startProbing now => Answer.ofChange (c.startProbing now)
  | .reopen reason now => Answer.ofChange (c.reopen reason now)
  | .recover now => Answer.ofChange (c.recover now)

/-- Operations one after the other, and what each came to. -/
def run (c : Circuit) : List Op → Circuit × List Answer
  | [] => (c, [])
  | op :: rest =>
      let (c, a) := c.step op
      let (c, as) := c.run rest
      (c, a :: as)

end Circuit

end CircuitBreaker

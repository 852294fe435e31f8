import CircuitBreaker.Outcome
import CircuitBreaker.Pattern.Matching
import CircuitBreaker.Trigger

/-!
# `CircuitBreaker.Block` — the counts of one block rule

A block tells errors from other outcomes and feeds them to its triggers.

## Contents
- `ErrorTest`: an error condition ready for use.
- `Block`: tests and triggers; `Block.build?`.
- `Block.isError`, `Block.isProbeFailure`: what an outcome means.
- `Block.record`, `Block.check`, `Block.reset`.
-/

namespace CircuitBreaker

/-- An error condition ready for use. -/
inductive ErrorTest where
  | code (pattern : CompiledPattern)
  | delay (least : Nat)
deriving Repr

namespace ErrorTest

/-- Make a condition ready; its pattern is compiled through a cache. -/
def ofCondition (f : Compiler) (c : ErrorCondition) (cache : PatternCache) :
    ErrorTest × PatternCache :=
  match c with
  | .code p =>
      let (p, cache) := CompiledPattern.ofPattern f p cache
      (code p, cache)
  | .delay least => (delay least, cache)

/-- Make conditions ready, one after the other. -/
def ofConditions (f : Compiler) (cs : List ErrorCondition) (cache : PatternCache) :
    List ErrorTest × PatternCache :=
  match cs with
  | [] => ([], cache)
  | c :: rest =>
      let (t, cache) := ofCondition f c cache
      let (ts, cache) := ofConditions f rest cache
      (t :: ts, cache)

/-- Whether the outcome meets the condition. -/
def holds (t : ErrorTest) (o : Outcome) : Bool :=
  match t with
  | code p => p.accepts (toString o.code)
  | delay least => decide (least ≤ o.delay)

end ErrorTest

/-- The tests and triggers of a block rule. -/
structure Block where
  name : String
  tests : List ErrorTest
  triggers : List Trigger
deriving Repr

namespace Block

/-- The triggers of some conditions, in order. -/
def triggersOf? (buckets : Nat) : List TriggerCondition → Except WindowError (List Trigger)
  | [] => .ok []
  | c :: rest =>
      match Trigger.ofCondition? buckets c with
      | .error e => .error e
      | .ok t =>
          match triggersOf? buckets rest with
          | .error e => .error e
          | .ok ts => .ok (t :: ts)

/-- A block that has counted nothing yet. The triggers are made first; without them no pattern is
    compiled. -/
def build? (f : Compiler) (buckets : Nat) (b : BlockRule) (cache : PatternCache) :
    Except WindowError Block × PatternCache :=
  match triggersOf? buckets b.triggers with
  | .error e => (.error e, cache)
  | .ok triggers =>
      let (tests, cache) := ErrorTest.ofConditions f b.errors cache
      (.ok { name := b.name, tests, triggers }, cache)

/-- Blocks for some rules, in order, up to the first that cannot be made. -/
def buildAll? (f : Compiler) (buckets : Nat) (bs : List BlockRule) (cache : PatternCache) :
    Except WindowError (List Block) × PatternCache :=
  match bs with
  | [] => (.ok [], cache)
  | b :: rest =>
      match build? f buckets b cache with
      | (.error e, cache) => (.error e, cache)
      | (.ok block, cache) =>
          match buildAll? f buckets rest cache with
          | (.error e, cache) => (.error e, cache)
          | (.ok blocks, cache) => (.ok (block :: blocks), cache)

/-- Whether the outcome counts as an error. Without tests, failed and timed out calls do. -/
def isError (b : Block) (o : Outcome) : Bool :=
  if b.tests.isEmpty then o.verdict.isFailure else b.tests.any fun t => t.holds o

/-- Whether a trigger for slow calls takes a delay for slow. -/
def isSlow (t : Trigger) (delay : Nat) : Bool :=
  match t with
  | .slowRate least _ _ => decide (least ≤ delay)
  | .streak _ _ => false
  | .errorRate _ _ => false

/-- Whether a trial call with this outcome failed: it was an error, or slow to some trigger. A call
    that was never sent did not fail. -/
def isProbeFailure (b : Block) (o : Outcome) : Bool :=
  o.verdict != .reject && (b.isError o || b.triggers.any fun t => isSlow t o.delay)

/-- Feed every trigger. -/
def count (b : Block) (now : Nat) (o : Outcome) : Block :=
  { b with triggers := b.triggers.map fun t => t.count now (b.isError o) o.delay }

/-- Feed every trigger, and give the reason of the first that is satisfied then. -/
def record (b : Block) (now : Nat) (o : Outcome) : Block × Option String :=
  let isError := b.isError o
  let results := b.triggers.map fun t => t.record now isError o.delay
  ({ b with triggers := results.map fun r => r.1 },
    (results.findSome? fun r => r.2).map fun f => f.text b.name)

/-- The reason of the first trigger that is satisfied. -/
def check (b : Block) (now : Nat) : Option String :=
  (b.triggers.findSome? fun t => t.check now).map fun f => f.text b.name

/-- Forget what was counted. -/
def reset (b : Block) : Block := { b with triggers := b.triggers.map Trigger.reset }

end Block

end CircuitBreaker

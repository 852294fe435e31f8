import CircuitBreaker.Decimal.Layout
import CircuitBreaker.Rule.Validity
import CircuitBreaker.Window

/-!
# `CircuitBreaker.Trigger` — counting towards one condition

A trigger counts the calls of a closed circuit towards one condition: errors in a row, or the share
of errors or slow calls in a sliding window.

## Contents
- `Finding`, `Finding.text`: what a satisfied trigger has to say.
- `Trigger`: a condition and its counts; `Trigger.ofCondition?`, `Trigger.condition`.
- `Trigger.count`, `Trigger.check`, `Trigger.record`, `Trigger.reset`.
-/

namespace CircuitBreaker

/-- What a satisfied trigger has to say. -/
inductive Finding where
  /-- So many errors came in a row. -/
  | streak (errors limit : Nat)
  /-- Of `total` calls `target` were errors or slow, which is the share `ratio`. -/
  | share (share : Share) (ratio : Float) (target total : Nat) (threshold : Float)
deriving Repr

namespace Finding

/-- The finding in words, for the block called `block`. -/
def text (block : String) : Finding → String
  | streak errors limit =>
      "block config " ++ Text.quoted block ++ ": " ++ toString errors
        ++ " consecutive errors reached the threshold " ++ toString limit
  | share s ratio target total threshold =>
      "block config " ++ Text.quoted block ++ ": " ++ s.text ++ " "
        ++ Decimal.fixedPlaces 2 ratio ++ " (" ++ toString target ++ "/" ++ toString total
        ++ ") reached the threshold " ++ Decimal.fixedPlaces 2 threshold

end Finding

/-- A trigger condition and what was counted towards it. -/
inductive Trigger where
  /-- Errors in a row, up to a limit. -/
  | streak (limit errors : Nat)
  /-- The share of errors. -/
  | errorRate (limit : RateLimit) (window : Window)
  /-- The share of calls that took `least` milliseconds or more. -/
  | slowRate (least : Nat) (limit : RateLimit) (window : Window)
deriving Repr

namespace Trigger

/-- A trigger that has counted nothing yet. Its window, if it needs one, has so many buckets. -/
def ofCondition? (buckets : Nat) : TriggerCondition → Except WindowError Trigger
  | .consecutiveError count => .ok (streak count 0)
  | .errorRate l => (Window.ofInterval? buckets l.interval).map (errorRate l)
  | .slowRate n l => (Window.ofInterval? buckets l.interval).map (slowRate n l)

/-- The condition that the trigger counts towards. -/
def condition : Trigger → TriggerCondition
  | streak limit _ => .consecutiveError limit
  | errorRate l _ => .errorRate l
  | slowRate n l _ => .slowRate n l

/-- The window of the trigger, if it has one. -/
def window? : Trigger → Option Window
  | streak _ _ => none
  | errorRate _ w => some w
  | slowRate _ _ w => some w

/-- Count one call, and one more of another dimension if `also` holds. A window that refuses the
    time counts nothing. -/
def countCall (w : Window) (now : Nat) (d : Dimension) (also : Bool) : Window :=
  let w := w.add now .request 1
  if also then w.add now d 1 else w

/-- Count a call: whether it was an error, and how long it took. A call that was no error ends a
    streak. -/
def count (t : Trigger) (now : Nat) (isError : Bool) (delay : Nat) : Trigger :=
  match t with
  | streak limit errors => streak limit (if isError then errors + 1 else 0)
  | errorRate l w => errorRate l (countCall w now .failure isError)
  | slowRate n l w => slowRate n l (countCall w now .slow (decide (n ≤ delay)))

/-- A count as a float. -/
def floatCount (n : Nat) : Float := (UInt64.ofNat n).toFloat

/-- The share of one dimension among the calls in the window, if there are enough of them and it
    reaches the limit. -/
def shareFinding (share : Share) (d : Dimension) (l : RateLimit) (w : Window) (now : Nat) :
    Option Finding :=
  let total := w.sum now .request
  if total = 0 ∨ total < l.minimum then
    none
  else
    let target := w.sum now d
    let ratio := floatCount target / floatCount total
    if l.threshold ≤ ratio then some (.share share ratio target total l.threshold) else none

/-- What the trigger has to say at a time, if it is satisfied. -/
def check (t : Trigger) (now : Nat) : Option Finding :=
  match t with
  | streak limit errors => if limit ≤ errors then some (.streak errors limit) else none
  | errorRate l w => shareFinding .errors .failure l w now
  | slowRate _ l w => shareFinding .slowness .slow l w now

/-- Whether a call can satisfy the trigger at all: one that ends a streak cannot. -/
def heeds (t : Trigger) (isError : Bool) : Bool :=
  match t with
  | streak _ _ => isError
  | errorRate _ _ => true
  | slowRate _ _ _ => true

/-- Count a call, and say what the trigger finds then. -/
def record (t : Trigger) (now : Nat) (isError : Bool) (delay : Nat) : Trigger × Option Finding :=
  let t := t.count now isError delay
  (t, if t.heeds isError then t.check now else none)

/-- Forget what was counted. -/
def reset : Trigger → Trigger
  | streak limit _ => streak limit 0
  | errorRate l w => errorRate l w.reset
  | slowRate n l w => slowRate n l w.reset

end Trigger

end CircuitBreaker

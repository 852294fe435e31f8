import CircuitBreaker.Window

/-!
# `CircuitBreaker.Window.Checked` — operations on windows that can fault

The operations on windows are defined for all numbers: by zero anything divides to zero, and where a ring
has no slot there is an empty bucket. A machine stops there, as it does when a number outgrows it. Here
the operations that divide or look into a ring are done step by step, each of which may be the last.

## Contents
- `Fault`, `Checked`: the steps.
- `Window.checkedOfInterval`, `Window.checkedAdd`: making a window, and counting in one.
-/

namespace CircuitBreaker

/-- What stops a machine. -/
inductive Fault where
  /-- A number that is negative or needs more than 64 bits. -/
  | overflow
  | divisionByZero
  /-- An index outside of an array. -/
  | outOfBounds
deriving DecidableEq, Repr

namespace Checked

/-- The sum of two numbers. -/
def add (x y : Nat) : Except Fault Nat :=
  if x + y < UInt64.size then .ok (x + y) else .error .overflow

/-- The difference of two numbers. -/
def sub (x y : Nat) : Except Fault Nat := if y ≤ x then .ok (x - y) else .error .overflow

/-- The quotient of two numbers. -/
def div (x y : Nat) : Except Fault Nat := if y = 0 then .error .divisionByZero else .ok (x / y)

/-- The remainder of a division. -/
def rem (x y : Nat) : Except Fault Nat := if y = 0 then .error .divisionByZero else .ok (x % y)

/-- The item at an index. -/
def get {α : Type} (xs : List α) (i : Nat) : Except Fault α :=
  match xs[i]? with
  | some x => .ok x
  | none => .error .outOfBounds

end Checked

namespace Window

/-- A window of `interval` milliseconds in `count` buckets. -/
def checkedOfInterval (count interval : Nat) : Except Fault (Except WindowError Window) :=
  if count = 0 ∨ interval = 0 then
    .ok (.error .empty)
  else do
    let sum ← Checked.add interval count
    let top ← Checked.sub sum 1
    let width ← Checked.div top count
    return .ok { interval, width, buckets := List.replicate count {} }

/-- The window with `n` more of a dimension in the bucket at a slot. -/
def countAt (w : Window) (slot : Nat) (d : Dimension) (n : Nat) : Window :=
  { w with buckets := w.buckets.modify slot fun b => { b with counts := b.counts.add d n } }

/-- Count `n` more of a dimension, or nothing where the time is refused. -/
def checkedAdd (w : Window) (now : Nat) (d : Dimension) (n : Nat) : Except Fault Window := do
  let turn ← Checked.div now w.width
  let slot ← Checked.rem turn w.size
  let past ← Checked.rem now w.width
  let start ← Checked.sub now past
  let held ← Checked.get w.buckets slot
  if held.start = start then
    return w.countAt slot d n
  else if held.start = 0 ∨ held.start < start then
    return { w with buckets := w.buckets.set slot { start := start } }.countAt slot d n
  else
    -- the slot has been given to a later span already
    return w

end Window

end CircuitBreaker

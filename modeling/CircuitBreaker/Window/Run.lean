import CircuitBreaker.Window

/-!
# `CircuitBreaker.Window.Run` — sequences of operations on a window

## Contents
- `Addition`: a number that is counted in one dimension at one time.
- `Window.Op`: the operations.
- `Window.step`, `Window.run`: one operation, and several; what is refused is answered with its reason.
-/

namespace CircuitBreaker

/-- A number to count in one dimension at one time. -/
structure Addition where
  time : Nat
  dimension : Dimension
  amount : Nat
deriving DecidableEq, Repr

namespace Window

/-- The operations on a window. -/
inductive Op where
  | add (a : Addition)
  /-- Make the slot of a time hold the span of that time. -/
  | roll (now : Nat)
  | reset
deriving DecidableEq, Repr

/-- The window after an operation that may be refused, and why it was. -/
def settle (w : Window) : Except WindowError Window → Window × Option WindowError
  | .ok v => (v, none)
  | .error e => (w, some e)

/-- One operation: the window after it, and why the operation was refused, if it was. -/
def step (w : Window) : Op → Window × Option WindowError
  | .add a => w.settle (w.add? a.time a.dimension a.amount)
  | .roll now => w.settle (w.roll? now)
  | .reset => (w.reset, none)

/-- Operations one after the other, with the answer to each. -/
def run (w : Window) : List Op → Window × List (Option WindowError)
  | [] => (w, [])
  | op :: rest =>
      let (v, answer) := w.step op
      let (v, answers) := v.run rest
      (v, answer :: answers)

end Window

end CircuitBreaker

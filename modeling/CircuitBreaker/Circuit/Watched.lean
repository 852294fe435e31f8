import CircuitBreaker.Circuit

/-!
# `CircuitBreaker.Circuit.Watched` — a circuit and its listeners

Listeners are told of a change after it is made and before the operation that made it answers. One
that fails keeps the caller from its answer, but takes nothing back.

## Contents
- `Circuit.Observation`: what callers and listeners get to see of an operation.
- `Circuit.watchedStep`, `Circuit.watchedRun`: operations on a circuit with listeners.
-/

namespace CircuitBreaker.Circuit

/-- What callers and listeners get to see of one operation. -/
structure Observation where
  /-- Whether the circuit did what it was asked to do, or the message of the listener that failed. -/
  result : Except String Bool
  /-- What the listeners left behind. -/
  notices : List Notice

/-- The observation of an answer: the listeners are told of the change first. -/
def observe (ls : List Listener) (a : Answer) : Observation :=
  let delivery := deliverAny ls a.change
  { result := match delivery.fault with
      | some message => .error message
      | none => .ok a.done
    notices := delivery.notices }

/-- One operation on a circuit with listeners. -/
def watchedStep (ls : List Listener) (c : Circuit) (op : Op) : Circuit × Observation :=
  let (c, a) := c.step op
  (c, observe ls a)

/-- Operations one after the other, and what was observed of each. -/
def watchedRun (ls : List Listener) (c : Circuit) : List Op → Circuit × List Observation
  | [] => (c, [])
  | op :: rest =>
      let (c, seen) := c.watchedStep ls op
      let (c, more) := c.watchedRun ls rest
      (c, seen :: more)

/-- Listeners do not change what becomes of the circuit. -/
@[simp]
theorem watchedRun_fst (ls : List Listener) (c : Circuit) (ops : List Op) :
    (c.watchedRun ls ops).1 = (c.run ops).1 := by
  induction ops generalizing c with
  | nil => rfl
  | cons op rest ih => exact ih (c.step op).1

/-- Every answer is observed. -/
theorem watchedRun_snd (ls : List Listener) (c : Circuit) (ops : List Op) :
    (c.watchedRun ls ops).2 = (c.run ops).2.map (observe ls) := by
  induction ops generalizing c with
  | nil => rfl
  | cons op rest ih => exact congrArg (observe ls (c.step op).2 :: ·) (ih (c.step op).1)

end CircuitBreaker.Circuit

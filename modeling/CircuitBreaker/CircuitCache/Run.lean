import CircuitBreaker.CircuitCache

/-!
# `CircuitBreaker.CircuitCache.Run` — sequences of operations on a cache

What makes the circuits is not part of a cache: it is given with each operation that may need one, and
has a state of its own, which it may read and change.

## Contents
- `CircuitCache.Op`, `CircuitCache.Answer`: the operations and what they answer.
- `CircuitCache.step`, `CircuitCache.run`: one operation, and several.
-/

namespace CircuitBreaker.CircuitCache

/-- The operations on a cache, where circuits are made in a state `σ`. -/
inductive Op (σ : Type) where
  /-- Find what is known about a resource; only `make` decides what is known about a new one. -/
  | fetch (r : Resource) (now : Nat) (make : σ → Option Circuit × σ)
  | get (r : Resource)
  | removeService (service : ServiceKey)
  | expire (now ttl : Nat)
  | clear

/-- What an operation answers. -/
inductive Answer where
  | nothing
  /-- What is known about a resource. -/
  | found (slot : Option Slot)
  /-- What is known about a resource, and whether it was made just now. -/
  | fetched (made : Bool) (slot : Option Slot)
  /-- How many entries were removed. -/
  | removed (count : Nat)
deriving Repr

/-- What is known about a resource; nothing for one that has no entry. -/
def slot? (c : CircuitCache) (r : Resource) : Option Slot := (c.find? r).map fun e => e.slot

/-- One operation: the cache after it, the state after it and the answer. -/
def step {σ : Type} (c : CircuitCache) (s : σ) : Op σ → CircuitCache × σ × Answer
  | .fetch r now make =>
      let (c, made, s) := c.fetch r now make s
      (c, s, .fetched made (c.slot? r))
  | .get r => (c, s, .found (c.slot? r))
  | .removeService service =>
      let (c, count) := c.removeService service
      (c, s, .removed count)
  | .expire now ttl =>
      let (c, count) := c.expire now ttl
      (c, s, .removed count)
  | .clear => (c.clear, s, .nothing)

/-- Operations one after the other, with the answer to each. -/
def run {σ : Type} (c : CircuitCache) (s : σ) : List (Op σ) → CircuitCache × σ × List Answer
  | [] => (c, s, [])
  | op :: rest =>
      let (c, s, answer) := c.step s op
      let (c, s, answers) := c.run s rest
      (c, s, answer :: answers)

end CircuitBreaker.CircuitCache

/-!
# `CircuitBreaker.Window` — counting over a sliding window

A window of `interval` milliseconds is a ring of buckets, each `width` milliseconds wide. The bucket
of a time is the slot `time / width` modulo the ring's size; it starts at the last multiple of the
width. A slot is cleared when a time falls into it that starts later, and it refuses a time that
starts earlier. Start 0 means that nothing was counted in the slot yet.

## Contents
- `Dimension`, `Counts`: what is counted; counts wrap at 64 bits.
- `Bucket`, `Bucket.isStale`: a span of time and whether it has left the window.
- `Window`: `ofInterval?`, `roll?`, `add?`, `valid`, `sum`, `reset`.
- `WindowError`: why a window cannot be made, or a time not be counted.
-/

namespace CircuitBreaker

/-- What a bucket counts. -/
inductive Dimension where
  /-- All calls. -/
  | request
  /-- Calls taken for errors. -/
  | failure
  /-- Calls that took too long. -/
  | slow
deriving DecidableEq, Repr

/-- The counts of one bucket. -/
structure Counts where
  request : Nat := 0
  failure : Nat := 0
  slow : Nat := 0
deriving DecidableEq, Repr, Inhabited

namespace Counts

/-- The number of different counts: they are unsigned 64-bit numbers. -/
def modulus : Nat := UInt64.size

/-- The count of one dimension. -/
def get (c : Counts) : Dimension → Nat
  | .request => c.request
  | .failure => c.failure
  | .slow => c.slow

/-- The counts with `n` more of one dimension; a count that grows too large wraps around. -/
def add (c : Counts) (d : Dimension) (n : Nat) : Counts :=
  match d with
  | .request => { c with request := (c.request + n) % modulus }
  | .failure => { c with failure := (c.failure + n) % modulus }
  | .slow => { c with slow := (c.slow + n) % modulus }

@[simp]
theorem get_zero (d : Dimension) : get {} d = 0 := by cases d <;> rfl

theorem get_add (c : Counts) (d e : Dimension) (n : Nat) :
    (c.add d n).get e = if d = e then (c.get e + n) % modulus else c.get e := by
  cases d <;> cases e <;> simp [add, get]

end Counts

/-- A span of time that starts at `start`, and what was counted in it. -/
structure Bucket where
  /-- When the span starts; 0 if nothing was counted yet. -/
  start : Nat := 0
  counts : Counts := {}
deriving DecidableEq, Repr, Inhabited

namespace Bucket

/-- Whether the bucket has nothing to say about the window of `interval` milliseconds before `now`:
    it was never written, or it started before that window did. -/
def isStale (b : Bucket) (now interval : Nat) : Bool :=
  b.start == 0 || (decide (b.start < now) && decide (interval < now - b.start))

end Bucket

/-- Why a window cannot be made, or a time not be counted. -/
inductive WindowError where
  /-- A window of no buckets, or of no length. -/
  | empty
  /-- The time's bucket has been given to a later span already. -/
  | tooLate
deriving DecidableEq, Repr

namespace WindowError

/-- The text of the error. -/
def message : WindowError → String
  | empty => "Invalid sample count or interval_ms, both of them should be positive"
  | tooLate => "invalid time stamp, cannot find bucket"

end WindowError

/-- A sliding window: a ring of buckets. -/
structure Window where
  /-- The length of the window. -/
  interval : Nat
  /-- The length of a bucket. -/
  width : Nat
  /-- The ring. -/
  buckets : List Bucket
deriving DecidableEq, Repr

namespace Window

/-- `x / y`, rounded up. -/
def ceilDiv (x y : Nat) : Nat := (x + y - 1) / y

/-- A window of `interval` milliseconds in `count` buckets, just wide enough together. -/
def ofInterval? (count interval : Nat) : Except WindowError Window :=
  if count = 0 ∨ interval = 0 then
    .error .empty
  else
    .ok {
      interval := interval
      width := ceilDiv interval count
      buckets := List.replicate count {} }

/-- The number of buckets. -/
def size (w : Window) : Nat := w.buckets.length

/-- When the bucket of a time starts. -/
def startOf (w : Window) (now : Nat) : Nat := now - now % w.width

/-- Which slot of the ring a time falls into. -/
def slotOf (w : Window) (now : Nat) : Nat := now / w.width % w.size

/-- The bucket in a slot. -/
def bucketAt (w : Window) (slot : Nat) : Bucket := w.buckets[slot]?.getD {}

/-- Clear a slot for a span that starts at `start`; `none` if the ring has no such slot. -/
def clearSlot? (w : Window) (slot start : Nat) : Option Window :=
  if slot < w.size then some { w with buckets := w.buckets.set slot { start := start } } else none

/-- Make the slot of `now` hold the span of `now`: a span that is there already stays, an earlier
    one gives way, and a later one refuses the time. -/
def roll? (w : Window) (now : Nat) : Except WindowError Window :=
  let start := w.startOf now
  let old := (w.bucketAt (w.slotOf now)).start
  if old = start then
    .ok w
  else if old = 0 ∨ old < start then
    .ok { w with buckets := w.buckets.set (w.slotOf now) { start := start } }
  else
    .error .tooLate

/-- Count `n` more of a dimension at the time `now`. -/
def add? (w : Window) (now : Nat) (d : Dimension) (n : Nat) : Except WindowError Window :=
  match w.roll? now with
  | .error e => .error e
  | .ok w =>
      .ok { w with
        buckets := w.buckets.modify (w.slotOf now)
          fun b => { b with counts := b.counts.add d n } }

/-- Count `n` more of a dimension, or nothing where the time is refused. -/
def add (w : Window) (now : Nat) (d : Dimension) (n : Nat) : Window :=
  match w.add? now d n with
  | .ok w => w
  | .error _ => w

/-- The buckets that belong to the window before `now`, in ring order. -/
def valid (w : Window) (now : Nat) : List Bucket :=
  w.buckets.filter fun b => !b.isStale now w.interval

/-- The count of a dimension over the window before `now`. -/
def sum (w : Window) (now : Nat) (d : Dimension) : Nat :=
  (w.valid now).foldl (fun n b => n + b.counts.get d) 0 % Counts.modulus

/-- Forget everything that was counted. -/
def reset (w : Window) : Window := { w with buckets := w.buckets.map fun _ => {} }

end Window

end CircuitBreaker

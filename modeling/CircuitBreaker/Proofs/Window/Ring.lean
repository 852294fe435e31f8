import CircuitBreaker.Window.Run
import CircuitBreaker.Proofs.Counting

/-!
# `Proofs.Window.Ring` — what an operation does to the ring of a window

An operation with a time touches one slot of the ring, the slot of the time, or nothing at all. What
it writes there depends on the old bucket and on the start of the time's span only. This is said once,
as equations for `roll?` and `add?` (`roll?_eq`, `add?_eq`); nothing below or elsewhere opens their
case distinctions again.

## Contents
- `Window.put`: a ring with another bucket in one slot, and what is read from it.
- `Bucket.rolledTo`, `Bucket.count`: what a slot holds after a time fell into it.
- `Window.roll?_eq`, `Window.add?_eq`, `Window.add_eq`: the operations as one write.
- `Window.reset_step`, `Window.reset_run`: no operation changes the shape.
- `Window.shape_ofInterval?`, `Window.ceilDiv_le_iff`, `Window.slotOf_lt`: a new ring, and the slot of a
  time in it.
-/

namespace CircuitBreaker

namespace Bucket

/-- The bucket as a time finds it whose span starts at `start`: as it is, if it holds that span
    already, and empty otherwise. -/
def rolledTo (b : Bucket) (start : Nat) : Bucket := if b.start = start then b else { start := start }

/-- The bucket with `n` more of a dimension. -/
def count (b : Bucket) (d : Dimension) (n : Nat) : Bucket :=
  { b with counts := b.counts.add d n }

@[simp]
theorem start_rolledTo (b : Bucket) (start : Nat) : (b.rolledTo start).start = start := by
  unfold rolledTo
  split <;> simp_all

theorem rolledTo_self (b : Bucket) : b.rolledTo b.start = b := if_pos rfl

theorem rolledTo_of_ne {b : Bucket} {start : Nat} (h : b.start ≠ start) :
    b.rolledTo start = { start := start } := if_neg h

@[simp]
theorem start_count (b : Bucket) (d : Dimension) (n : Nat) : (b.count d n).start = b.start := rfl

@[simp]
theorem counts_count (b : Bucket) (d : Dimension) (n : Nat) :
    (b.count d n).counts = b.counts.add d n := rfl

/-- A bucket is stale if it was never written or its span has left the window. -/
theorem isStale_iff (b : Bucket) (now interval : Nat) :
    b.isStale now interval ↔ b.start = 0 ∨ interval < now - b.start := by
  simp only [isStale, Bool.or_eq_true, Bool.and_eq_true, beq_iff_eq, decide_eq_true_eq]
  omega

end Bucket

namespace Window

/-! ## One slot of the ring -/

/-- The window with another bucket in one slot. -/
def put (w : Window) (slot : Nat) (b : Bucket) : Window :=
  { w with buckets := w.buckets.set slot b }

@[simp]
theorem width_put (w : Window) (slot : Nat) (b : Bucket) : (w.put slot b).width = w.width := rfl

@[simp]
theorem size_put (w : Window) (slot : Nat) (b : Bucket) : (w.put slot b).size = w.size := by
  simp [put, size]

@[simp]
theorem startOf_put (w : Window) (slot : Nat) (b : Bucket) (now : Nat) :
    (w.put slot b).startOf now = w.startOf now := rfl

@[simp]
theorem slotOf_put (w : Window) (slot : Nat) (b : Bucket) (now : Nat) :
    (w.put slot b).slotOf now = w.slotOf now := by
  simp [slotOf]

/-- The slot that was written holds what was written. -/
theorem bucketAt_put_self {w : Window} {slot : Nat} (h : slot < w.size) (b : Bucket) :
    (w.put slot b).bucketAt slot = b := by
  unfold size at h
  simp [put, bucketAt, h]

/-- Every other slot holds what it held. -/
theorem bucketAt_put_ne (w : Window) {slot other : Nat} (h : other ≠ slot) (b : Bucket) :
    (w.put slot b).bucketAt other = w.bucketAt other := by
  simp [put, bucketAt, Ne.symm h]

/-- Writing back what a slot holds changes nothing. -/
theorem put_bucketAt (w : Window) (slot : Nat) : w.put slot (w.bucketAt slot) = w := by
  have h : w.buckets.set slot (w.bucketAt slot) = w.buckets := by
    by_cases hs : slot < w.buckets.length
    · simp [bucketAt, hs]
    · exact List.set_eq_of_length_le (Nat.le_of_not_lt hs)
  unfold put
  rw [h]

theorem put_put (w : Window) (slot : Nat) (b c : Bucket) :
    (w.put slot b).put slot c = w.put slot c := by
  simp [put, List.set_set]

/-- Changing the bucket in a slot is writing the changed bucket. -/
theorem modify_eq_put (w : Window) (slot : Nat) (f : Bucket → Bucket) :
    { w with buckets := w.buckets.modify slot f } = w.put slot (f (w.bucketAt slot)) := by
  unfold put bucketAt
  rw [List.modify_eq_set]
  rfl

/-- The slots of an empty ring hold empty buckets. -/
@[simp]
theorem bucketAt_reset (w : Window) (slot : Nat) : w.reset.bucketAt slot = {} := by
  simp only [reset_eq, bucketAt, List.getElem?_replicate]
  split <;> rfl

/-! ## The operations -/

/-- **Making room for a time**: a slot that starts later refuses it, and otherwise the slot holds the
    span of the time. -/
theorem roll?_eq (w : Window) (now : Nat) :
    w.roll? now =
      if (w.bucketAt (w.slotOf now)).start ≤ w.startOf now then
        .ok (w.put (w.slotOf now) ((w.bucketAt (w.slotOf now)).rolledTo (w.startOf now)))
      else
        .error .tooLate := by
  unfold roll?
  by_cases hsame : (w.bucketAt (w.slotOf now)).start = w.startOf now
  · rw [if_pos hsame, if_pos (Nat.le_of_eq hsame), ← hsame, Bucket.rolledTo_self, put_bucketAt]
  · -- A slot that was never written starts at 0, so it starts earlier than any other span.
    have earlier : ((w.bucketAt (w.slotOf now)).start = 0 ∨
        (w.bucketAt (w.slotOf now)).start < w.startOf now) ↔
        (w.bucketAt (w.slotOf now)).start ≤ w.startOf now := by
      omega
    rw [if_neg hsame, Bucket.rolledTo_of_ne hsame]
    simp only [earlier, put]

/-- **Counting at a time**: where the slot makes room, its bucket counts more. -/
theorem add?_eq {w : Window} {now : Nat} (h : w.slotOf now < w.size) (d : Dimension) (n : Nat) :
    w.add? now d n =
      if (w.bucketAt (w.slotOf now)).start ≤ w.startOf now then
        .ok (w.put (w.slotOf now)
          (((w.bucketAt (w.slotOf now)).rolledTo (w.startOf now)).count d n))
      else
        .error .tooLate := by
  unfold add?
  rw [roll?_eq]
  split
  · rename_i hfound
    split at hfound
    · cases hfound
    · rename_i hlate
      cases hfound
      rw [if_neg hlate]
  · rename_i v hfound
    split at hfound
    · rename_i hroom
      cases hfound
      rw [if_pos hroom, slotOf_put, modify_eq_put, bucketAt_put_self h, put_put]
      rfl
    · cases hfound

/-- Counting at a time, or leaving it where the time is refused. -/
theorem add_eq {w : Window} {now : Nat} (h : w.slotOf now < w.size) (d : Dimension) (n : Nat) :
    w.add now d n =
      if (w.bucketAt (w.slotOf now)).start ≤ w.startOf now then
        w.put (w.slotOf now) (((w.bucketAt (w.slotOf now)).rolledTo (w.startOf now)).count d n)
      else w := by
  unfold add
  rw [add?_eq h]
  split <;> rename_i hfound
  · split at hfound <;> cases hfound
    rw [if_pos ‹_›]
  · split at hfound <;> cases hfound
    rw [if_neg ‹_›]

/-- Counting, or leaving it where the time is refused, is what a run does with an addition. -/
theorem add_eq_step (w : Window) (a : Addition) :
    w.add a.time a.dimension a.amount = (w.step (.add a)).1 := by
  simp only [add, step]
  cases w.add? a.time a.dimension a.amount <;> rfl

/-! ## The shape -/

/-- **No operation changes the shape of a window.** -/
@[simp]
theorem reset_step (w : Window) (op : Op) : (w.step op).1.reset = w.reset := by
  cases op with
  | add a =>
      simp only [step]
      cases h : w.add? a.time a.dimension a.amount with
      | ok v => exact reset_add? h
      | error e => rfl
  | roll now =>
      simp only [step]
      cases h : w.roll? now with
      | ok v => exact reset_roll? h
      | error e => rfl
  | reset => exact reset_reset w

@[simp]
theorem run_nil (w : Window) : w.run [] = (w, []) := rfl

@[simp]
theorem run_cons_fst (w : Window) (op : Op) (rest : List Op) :
    (w.run (op :: rest)).1 = ((w.step op).1.run rest).1 := rfl

theorem run_cons_snd (w : Window) (op : Op) (rest : List Op) :
    (w.run (op :: rest)).2 = (w.step op).2 :: ((w.step op).1.run rest).2 := rfl

/-- A run may be cut in two. -/
theorem run_append_fst (w : Window) (ops more : List Op) :
    (w.run (ops ++ more)).1 = ((w.run ops).1.run more).1 := by
  induction ops generalizing w with
  | nil => rfl
  | cons op rest ih => exact ih (w.step op).1

/-- No run changes the shape of a window. -/
@[simp]
theorem reset_run (w : Window) (ops : List Op) : (w.run ops).1.reset = w.reset := by
  induction ops generalizing w with
  | nil => rfl
  | cons op rest ih => rw [run_cons_fst, ih, reset_step]

/-- A clear window that is used and then cleared is what it was. -/
theorem eq_of_cleared {v w : Window} (hclear : w.reset = w)
    (hv : v = w ∨ ∃ past, v = (w.run past).1.reset) : v = w := by
  rcases hv with hsame | ⟨past, hpast⟩
  · exact hsame
  · rw [hpast, reset_run, hclear]

/-- Windows of one shape divide time in the same way. -/
theorem width_of_reset {v w : Window} (h : v.reset = w.reset) : v.width = w.width :=
  congrArg (fun u => u.width) h

theorem interval_of_reset {v w : Window} (h : v.reset = w.reset) : v.interval = w.interval :=
  congrArg (fun u => u.interval) h

theorem size_of_reset {v w : Window} (h : v.reset = w.reset) : v.size = w.size := by
  rw [← size_reset v, h, size_reset]

/-! ## A new ring -/

/-- A new window has the interval and the buckets that were asked for, and they are just wide enough. -/
theorem shape_ofInterval? {w : Window} {count interval : Nat}
    (h : ofInterval? count interval = .ok w) :
    w.interval = interval ∧ w.width = ceilDiv interval count ∧ w.size = count := by
  unfold ofInterval? at h
  split at h
  · cases h
  · cases h
    simp [size]

/-- Rounding up gives the least number of which there is enough. -/
theorem ceilDiv_le_iff {x y k : Nat} (h : 0 < y) : ceilDiv x y ≤ k ↔ x ≤ k * y := by
  unfold ceilDiv
  rw [Nat.div_le_iff_le_mul_add_pred h, Nat.mul_comm]
  omega

/-- The slot of a time is a slot of the ring, if it has any. -/
theorem slotOf_lt {w : Window} (h : 0 < w.size) (now : Nat) : w.slotOf now < w.size :=
  Nat.mod_lt _ h

end Window

end CircuitBreaker

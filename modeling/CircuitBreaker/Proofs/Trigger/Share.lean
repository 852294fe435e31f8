import Mathlib.Algebra.Order.BigOperators.Group.List
import Mathlib.Data.List.Induction
import CircuitBreaker.Proofs.Binary64
import CircuitBreaker.Proofs.Window.Accuracy
import CircuitBreaker.Proofs.Window.Checked

/-!
# `Proofs.Trigger.Share` — a share is a share

A trigger for a rate adds to its window once for every call, and once more if the call is a target: an
error, or a slow call. Each of the two additions may clear the slot of its time, and may be refused
because the slot went to a later span. Both are decided by the time alone, and once the first addition
is taken the slot holds the span of that time. So the two are taken together or refused together: a
call is one write to one bucket, or nothing (`Window.countCall_eq`).

So each bucket has counted a call for every target in it. Only a count that wraps around could break
this, and none does as long as there are fewer than `Counts.modulus` calls. This is the invariant,
`Window.Holds`, and calls and resets keep it in whatever order they come (`Trigger.holds_run`). The sums
inherit it, since they add up the same buckets (`Window.Holds.sum_le`), and so the quotient of two of
them is between zero and one, also when it is computed in floats (`Binary64.share_mem_unit`).

## Contents
- `Counts.IsWithin`, `Bucket.afterCall`: one bucket, and what a call does to it.
- `Window.countCall_eq`: a call as one write.
- `Window.Holds`: the invariant, and what keeps it; `Window.Holds.sum_le`: what it says of the sums.
- `Trigger.Op`, `Trigger.run`, `Trigger.rate?`: triggers that count calls; `Trigger.holds_run`.
- `Trigger.share_bounded`: what a trigger for a rate has counted, and what it finds.
-/

namespace CircuitBreaker

/-! ## One bucket -/

namespace Counts

/-- **No more targets than calls.** -/
def IsWithin (c : Counts) : Prop := c.failure ≤ c.request ∧ c.slow ≤ c.request

instance (c : Counts) : Decidable c.IsWithin := inferInstanceAs (Decidable (_ ∧ _))

theorem isWithin_iff {c : Counts} : c.IsWithin ↔ ∀ d, c.get d ≤ c.request := by
  constructor
  · rintro ⟨hfailure, hslow⟩ d
    cases d with
    | request => exact Nat.le_refl _
    | failure => exact hfailure
    | slow => exact hslow
  · intro h
    exact ⟨h .failure, h .slow⟩

end Counts

namespace Bucket

variable {b : Bucket} {d : Dimension}

/-- The bucket with one more call, and one more target if the call was one. -/
def afterCall (b : Bucket) (d : Dimension) (also : Bool) : Bucket :=
  if also then (b.count .request 1).count d 1 else b.count .request 1

/-- As long as the calls fit their count, a call is one more of them. -/
theorem request_afterCall (hd : d ≠ .request) (hfits : b.counts.request + 1 < Counts.modulus)
    (also : Bool) : (b.afterCall d also).counts.request = b.counts.request + 1 := by
  have hcall : (b.count .request 1).counts.get .request = b.counts.request + 1 := by
    rw [counts_count, Counts.get_add, if_pos rfl]
    exact Nat.mod_eq_of_lt hfits
  unfold afterCall
  cases also with
  | false => exact hcall
  | true =>
      show ((b.count .request 1).count d 1).counts.get .request = _
      rw [counts_count, Counts.get_add, if_neg hd]
      exact hcall

/-- **A call keeps the targets below the calls**: it is one more call, and one more target at most. -/
theorem isWithin_afterCall (hd : d ≠ .request) (hfits : b.counts.request + 1 < Counts.modulus)
    (h : b.counts.IsWithin) (also : Bool) : (b.afterCall d also).counts.IsWithin := by
  rw [Counts.isWithin_iff] at h ⊢
  intro e
  rw [request_afterCall hd hfits]
  have hcall : (b.count .request 1).counts.get e ≤ b.counts.request + 1 := by
    rw [counts_count, Counts.get_add]
    split
    · exact (Nat.mod_le _ _).trans (Nat.add_le_add_right (h e) 1)
    · exact Nat.le_succ_of_le (h e)
  unfold afterCall
  cases also with
  | false => exact hcall
  | true =>
      show ((b.count .request 1).count d 1).counts.get e ≤ _
      rw [counts_count, Counts.get_add]
      split
      · -- the target's own dimension, which the call itself left as it was
        rename_i heq
        subst heq
        rw [counts_count, Counts.get_add, if_neg (Ne.symm hd)]
        exact (Nat.mod_le _ _).trans (Nat.add_le_add_right (h d) 1)
      · exact hcall

/-- Clearing a bucket takes calls away, if anything. -/
theorem request_rolledTo_le (b : Bucket) (start : Nat) :
    (b.rolledTo start).counts.request ≤ b.counts.request := by
  unfold rolledTo
  split
  · exact Nat.le_refl _
  · exact Nat.zero_le _

theorem isWithin_rolledTo (h : b.counts.IsWithin) (start : Nat) :
    (b.rolledTo start).counts.IsWithin := by
  unfold rolledTo
  split
  · exact h
  · exact ⟨Nat.le_refl 0, Nat.le_refl 0⟩

end Bucket

/-! ## A window that counts calls -/

namespace Window

variable {w : Window} {d : Dimension} {n : Nat}

/-- **A call is one write, or nothing.** If the slot of its time takes it, the bucket there counts the
    call, and the target with it. If not, neither is counted. -/
theorem countCall_eq (h : 0 < w.size) (now : Nat) (d : Dimension) (also : Bool) :
    Trigger.countCall w now d also =
      if (w.bucketAt (w.slotOf now)).start ≤ w.startOf now then
        w.put (w.slotOf now)
          (((w.bucketAt (w.slotOf now)).rolledTo (w.startOf now)).afterCall d also)
      else w := by
  have hslot := slotOf_lt h now
  unfold Trigger.countCall Bucket.afterCall
  by_cases hroom : (w.bucketAt (w.slotOf now)).start ≤ w.startOf now
  · simp only [add_eq hslot, if_pos hroom]
    cases also with
    | false => rfl
    | true =>
        -- once the call is counted, the slot holds the span of its time, and takes the target as well
        set called := ((w.bucketAt (w.slotOf now)).rolledTo (w.startOf now)).count .request 1
        have hstart : called.start = w.startOf now := by
          rw [Bucket.start_count, Bucket.start_rolledTo]
        have hsame : called.rolledTo (w.startOf now) = called := if_pos hstart
        rw [if_pos rfl, if_pos rfl, add_eq (by rw [slotOf_put, size_put]; exact hslot), slotOf_put,
          startOf_put, bucketAt_put_self hslot, put_put, if_pos (Nat.le_of_eq hstart), hsame]
  · simp only [add_eq hslot, if_neg hroom, ite_self]

/-- All calls that a window has counted, in whatever bucket. -/
def requests (w : Window) : Nat := (w.buckets.map fun b => b.counts.request).sum

theorem bucketAt_mem {slot : Nat} (h : slot < w.size) : w.bucketAt slot ∈ w.buckets := by
  unfold size at h
  simp [bucketAt, h]

/-- A write takes the calls of the old bucket away, and brings those of the new one. -/
theorem requests_put {slot : Nat} (h : slot < w.size) (b : Bucket) :
    (w.put slot b).requests + (w.bucketAt slot).counts.request = w.requests + b.counts.request := by
  obtain ⟨interval, width, buckets⟩ := w
  unfold size at h
  simp only [requests, put, bucketAt]
  induction buckets generalizing slot with
  | nil => exact absurd h (Nat.not_lt_zero _)
  | cons c rest ih =>
      cases slot with
      | zero => simp; omega
      | succ slot =>
          have hrest := ih (Nat.lt_of_succ_lt_succ h)
          simp only [List.set_cons_succ, List.map_cons, List.sum_cons, List.getElem?_cons_succ]
          omega

/-- **The invariant**: the window has buckets, there are no more targets than calls in any of them, and
    no more than `n` calls in all of them. -/
structure Holds (w : Window) (n : Nat) : Prop where
  size_pos : 0 < w.size
  isWithin : ∀ b ∈ w.buckets, b.counts.IsWithin
  requests_le : w.requests ≤ n

namespace Holds

/-- A clear window has counted nothing. -/
theorem reset (h : 0 < w.size) : w.reset.Holds n := by
  refine ⟨?_, ?_, ?_⟩
  · rw [size_reset]
    exact h
  · intro b hb
    rw [reset_eq] at hb
    rw [List.eq_of_mem_replicate hb]
    decide
  · have hnone : w.reset.requests = 0 := by
      simp [requests, reset_eq]
    rw [hnone]
    exact Nat.zero_le n

/-- A new window has counted nothing. -/
theorem ofInterval? {count interval : Nat} (h : ofInterval? count interval = .ok w) : w.Holds 0 := by
  rw [← reset_ofInterval? h]
  exact .reset (spans_ofInterval? h).size_pos

theorem request_le (h : w.Holds n) {b : Bucket} (hb : b ∈ w.buckets) : b.counts.request ≤ n :=
  (List.single_le_sum (by simp) _ (List.mem_map_of_mem hb)).trans h.requests_le

/-- **A call keeps the invariant**, as long as the calls fit their count. -/
theorem countCall (h : w.Holds n) (hd : d ≠ .request) (hfits : n + 1 < Counts.modulus) (now : Nat)
    (also : Bool) : (Trigger.countCall w now d also).Holds (n + 1) := by
  have hslot := slotOf_lt h.size_pos now
  rw [countCall_eq h.size_pos]
  split
  · set old := w.bucketAt (w.slotOf now) with hold
    have hmem : old ∈ w.buckets := bucketAt_mem hslot
    have hrolled : (old.rolledTo (w.startOf now)).counts.request ≤ old.counts.request :=
      old.request_rolledTo_le _
    have hroom : (old.rolledTo (w.startOf now)).counts.request + 1 < Counts.modulus := by
      have hfew := h.request_le hmem
      omega
    refine ⟨?_, ?_, ?_⟩
    · rw [size_put]
      exact h.size_pos
    · intro b hb
      rcases List.mem_or_eq_of_mem_set hb with hother | rfl
      · exact h.isWithin b hother
      · exact Bucket.isWithin_afterCall hd hroom (Bucket.isWithin_rolledTo (h.isWithin _ hmem) _) _
    · have hput := requests_put hslot ((old.rolledTo (w.startOf now)).afterCall d also)
      rw [Bucket.request_afterCall hd hroom, ← hold] at hput
      have hfew := h.requests_le
      omega
  · exact ⟨h.size_pos, h.isWithin, Nat.le_succ_of_le h.requests_le⟩

/-- A sum of a window that counts fewer calls than there are counts is what its buckets add up to. -/
theorem sum_eq (h : w.Holds n) (hfits : n < Counts.modulus) (now : Nat) (e : Dimension) :
    w.sum now e = ((w.valid now).map fun b => b.counts.get e).sum := by
  have hvalid : (w.valid now).Sublist w.buckets := List.filter_sublist
  have hsum : ((w.valid now).map fun b => b.counts.get e).sum < Counts.modulus := by
    calc ((w.valid now).map fun b => b.counts.get e).sum
        ≤ ((w.valid now).map fun b => b.counts.request).sum :=
          List.sum_le_sum fun b hb => Counts.isWithin_iff.mp (h.isWithin b (hvalid.subset hb)) e
      _ ≤ w.requests := (hvalid.map _).sum_le_sum fun _ _ => Nat.zero_le _
      _ ≤ n := h.requests_le
      _ < Counts.modulus := hfits
  unfold sum
  rw [← List.foldl_map (g := fun n m => n + m), ← List.sum_eq_foldl, Nat.mod_eq_of_lt hsum]

/-- **The sums keep the targets below the calls**, at whatever time. -/
theorem sum_le (h : w.Holds n) (hfits : n < Counts.modulus) (now : Nat) (e : Dimension) :
    w.sum now e ≤ w.sum now .request := by
  rw [h.sum_eq hfits, h.sum_eq hfits]
  refine List.sum_le_sum fun b hb => ?_
  exact Counts.isWithin_iff.mp (h.isWithin b (List.mem_of_mem_filter hb)) e

end Holds

end Window

/-! ## Triggers for a rate -/

/-- Whether a call is a target of the condition: whether it was an error, and how long it took. -/
def TriggerCondition.isTarget (cond : TriggerCondition) (isError : Bool) (delay : Nat) : Bool :=
  match cond with
  | .consecutiveError _ => false
  | .errorRate _ => isError
  | .slowRate least _ => decide (least ≤ delay)

namespace Trigger

/-- The operations on a trigger. -/
inductive Op where
  /-- Count a call: when it is reported, whether it was an error, and how long it took. -/
  | record (now : Nat) (isError : Bool) (delay : Nat)
  | reset
deriving DecidableEq, Repr

/-- Whether the operation counts a call. -/
def Op.isRecord : Op → Bool
  | record _ _ _ => true
  | reset => false

/-- The trigger after an operation. -/
def step (t : Trigger) : Op → Trigger
  | .record now isError delay => (t.record now isError delay).1
  | .reset => t.reset

/-- The trigger after some operations, one after the other. -/
def run (t : Trigger) (ops : List Op) : Trigger := ops.foldl step t

/-- How many calls some operations count. -/
def records (ops : List Op) : Nat := (ops.filter Op.isRecord).length

/-- What a trigger for a rate looks at: the share, the dimension of the targets, the limit and the
    window. -/
def rate? : Trigger → Option (Share × Dimension × RateLimit × Window)
  | streak _ _ => none
  | errorRate l w => some (.errors, .failure, l, w)
  | slowRate _ l w => some (.slowness, .slow, l, w)

variable {t : Trigger} {share : Share} {d : Dimension} {l : RateLimit} {v w : Window} {n : Nat}
  {buckets : Nat} {cond : TriggerCondition}

theorem run_snoc (t : Trigger) (ops : List Op) (op : Op) :
    t.run (ops ++ [op]) = (t.run ops).step op := by
  unfold run
  rw [List.foldl_append]
  rfl

/-- No operation changes the condition. -/
theorem condition_step (t : Trigger) (op : Op) : (t.step op).condition = t.condition := by
  cases op with
  | record now isError delay => cases t <;> rfl
  | reset => exact condition_reset t

theorem condition_run (t : Trigger) (ops : List Op) : (t.run ops).condition = t.condition := by
  induction ops using List.reverseRecOn with
  | nil => rfl
  | append_singleton ops op ih => rw [run_snoc, condition_step, ih]

/-- A trigger counts towards the condition that it was made for. -/
theorem condition_ofCondition? (ht : ofCondition? buckets cond = .ok t) : t.condition = cond := by
  cases cond with
  | consecutiveError limit =>
      cases ht
      rfl
  | errorRate limit =>
      obtain ⟨w, _, rfl⟩ := exists_of_map_ok ht
      rfl
  | slowRate least limit =>
      obtain ⟨w, _, rfl⟩ := exists_of_map_ok ht
      rfl

/-- Targets are not counted as calls. -/
theorem dimension_ne_of_rate? (h : t.rate? = some (share, d, l, w)) : d ≠ .request := by
  cases t <;> cases h <;> decide

/-- A trigger for a rate counts a call in its window. -/
theorem rate?_record (h : t.rate? = some (share, d, l, w)) (now : Nat) (isError : Bool) (delay : Nat) :
    (t.record now isError delay).1.rate? =
      some (share, d, l, countCall w now d (t.condition.isTarget isError delay)) := by
  cases t <;> cases h <;> rfl

theorem rate?_reset (h : t.rate? = some (share, d, l, w)) :
    t.reset.rate? = some (share, d, l, w.reset) := by
  cases t <;> cases h <;> rfl

/-- A trigger for a rate finds what its window tells. -/
theorem check_of_rate? (h : t.rate? = some (share, d, l, w)) (now : Nat) :
    t.check now = shareFinding share d l w now := by
  cases t <;> cases h <;> rfl

/-- A trigger for a rate says after every call what it finds then. -/
theorem record_snd_of_rate? (h : t.rate? = some (share, d, l, w)) (now : Nat) (isError : Bool)
    (delay : Nat) :
    (t.record now isError delay).2 = (t.record now isError delay).1.check now := by
  cases t <;> cases h <;> rfl

/-- A new trigger has a new window, for the interval of its limit. -/
theorem ofInterval?_of_rate? (ht : ofCondition? buckets cond = .ok t)
    (h : t.rate? = some (share, d, l, w)) : Window.ofInterval? buckets l.interval = .ok w := by
  have hwindow : t.window? = some w := by cases t <;> cases h <;> rfl
  have hlimit : t.condition.limit? = some l := by cases t <;> cases h <;> rfl
  obtain ⟨m, hm, hmade⟩ := exists_limit_of_window? ht hwindow
  rw [condition_ofCondition? ht, hm] at hlimit
  cases hlimit
  exact hmade

/-- **One operation keeps the invariant**, as long as the calls fit their count. -/
theorem holds_step (h : t.rate? = some (share, d, l, w)) (hw : w.Holds n) (op : Op)
    (hfits : n + records [op] < Counts.modulus) :
    ∃ v, (t.step op).rate? = some (share, d, l, v) ∧ v.Holds (n + records [op]) := by
  cases op with
  | record now isError delay =>
      have hd := dimension_ne_of_rate? h
      exact ⟨_, rate?_record h now isError delay, hw.countCall hd hfits now _⟩
  | reset => exact ⟨w.reset, rate?_reset h, .reset hw.size_pos⟩

theorem records_cons (op : Op) (rest : List Op) :
    records (op :: rest) = records [op] + records rest := by
  unfold records
  rw [← List.singleton_append, List.filter_append, List.length_append]

/-- **A run keeps the invariant**, as long as the calls fit their count. -/
theorem holds_run (h : t.rate? = some (share, d, l, w)) (hw : w.Holds n) (ops : List Op)
    (hfits : n + records ops < Counts.modulus) :
    ∃ v, (t.run ops).rate? = some (share, d, l, v) ∧ v.Holds (n + records ops) := by
  induction ops generalizing t w n with
  | nil => exact ⟨w, h, hw⟩
  | cons op rest ih =>
      rw [records_cons, ← Nat.add_assoc] at hfits ⊢
      obtain ⟨v, hv, hholds⟩ := holds_step h hw op (by omega)
      exact ih hv hholds hfits

/-- **No more targets than calls.** Take a new trigger for a rate of errors or of slow calls, and record
    calls and reset it at any times and in any order, with fewer calls than there are counts.
    * Its window is made without a fault, if the interval and the number of buckets add up to a number of
      64 bits.
    * No bucket of its window has counted more failures or more slow calls than calls.
    * Nor are there more of them in the sums at any time. So the share of the targets is a number from
      zero to one, if there are calls at all.
    * At any time, the trigger is satisfied exactly if there are calls, as many as are asked for, and
      that share reaches the threshold.
    * One more call is counted in the bucket of its time, together with the target if it is one. If the
      slot of its time has been given to a later span, neither is counted. The call is told what the
      trigger finds after it. -/
theorem share_bounded {ops : List Op} (ht : ofCondition? buckets cond = .ok t)
    (hrate : t.rate? = some (share, d, l, v)) (hfew : records ops < Counts.modulus) :
    (l.interval + buckets < UInt64.size → Window.checkedOfInterval buckets l.interval = .ok (.ok v)) ∧
    ∃ w, (t.run ops).rate? = some (share, d, l, w) ∧
      (∀ b ∈ w.buckets, b.counts.failure ≤ b.counts.request ∧ b.counts.slow ≤ b.counts.request) ∧
      (∀ now,
        let total := w.sum now .request
        let target := w.sum now d
        let ratio := floatCount target / floatCount total
        w.sum now .failure ≤ total ∧ w.sum now .slow ≤ total ∧
        (total ≠ 0 → 0 ≤ ratio ∧ ratio ≤ 1) ∧
        (t.run ops).check now =
          if total = 0 ∨ total < l.minimum then none
          else if l.threshold ≤ ratio then some (.share share ratio target total l.threshold)
          else none) ∧
      ∀ now isError delay,
        let next := t.run (ops ++ [.record now isError delay])
        let old := w.bucketAt (w.slotOf now)
        next.rate? = some (share, d, l,
          if old.start ≤ w.startOf now then
            w.put (w.slotOf now)
              ((old.rolledTo (w.startOf now)).afterCall d (cond.isTarget isError delay))
          else w) ∧
        ((t.run ops).record now isError delay).2 = next.check now := by
  have hfits : 0 + records ops < Counts.modulus := by rwa [Nat.zero_add]
  have hmade : Window.ofInterval? buckets l.interval = .ok v := ofInterval?_of_rate? ht hrate
  obtain ⟨w, hw, hholds⟩ := holds_run hrate (.ofInterval? hmade) ops hfits
  refine ⟨Window.checkedOfInterval_eq_ok hmade, w, hw, hholds.isWithin, ?_, ?_⟩
  · intro now total target ratio
    refine ⟨hholds.sum_le hfits now .failure, hholds.sum_le hfits now .slow, ?_, ?_⟩
    · intro htotal
      have hbound : total < 2 ^ 64 := Nat.mod_lt _ (by decide)
      exact Binary64.share_mem_unit htotal (hholds.sum_le hfits now d) hbound
    · exact check_of_rate? hw now
  · intro now isError delay next old
    have hnext : next = ((t.run ops).record now isError delay).1 := run_snoc t ops _
    constructor
    · have hcond : (t.run ops).condition = cond := by
        rw [condition_run, condition_ofCondition? ht]
      rw [hnext, rate?_record hw, hcond, Window.countCall_eq hholds.size_pos]
    · rw [hnext, record_snd_of_rate? hw]

/-- Half of the calls may not fail within a second. -/
def halfLimit : RateLimit := ⟨0.5, 1000, 2⟩

/-- A trigger for `halfLimit`, with a window of two buckets. -/
def halfTrigger : Trigger := .errorRate halfLimit ⟨1000, 500, [{}, {}]⟩

/-- A call, a reset, and calls in no order: the third comes late, and the fourth too late. -/
def disordered : List Op :=
  [.record 1000 true 5, .reset, .record 1700 true 5, .record 1200 false 5, .record 700 true 5,
    .record 1701 false 5]

/-- One call in three failed, and later one in two. Another call that comes too late is not counted. -/
theorem disordered_share_bounded :
    ofCondition? 2 (.errorRate halfLimit) = .ok halfTrigger ∧
    halfTrigger.rate? = some (.errors, .failure, halfLimit, ⟨1000, 500, [{}, {}]⟩) ∧
    records disordered < Counts.modulus ∧
    Window.checkedOfInterval 2 1000 = .ok (.ok ⟨1000, 500, [{}, {}]⟩) ∧
    (halfTrigger.run disordered).check 1701 = none ∧
    (halfTrigger.run disordered).check 2300 =
      some (.share .errors (floatCount 1 / floatCount 2) 1 2 halfLimit.threshold) ∧
    0 ≤ floatCount 1 / floatCount 2 ∧ floatCount 1 / floatCount 2 ≤ 1 ∧
    (halfTrigger.run disordered).check 5000 = none ∧
    (halfTrigger.run (disordered ++ [.record 900 true 5])).rate? =
      (halfTrigger.run disordered).rate? := by
  have ht : ofCondition? 2 (.errorRate halfLimit) = .ok halfTrigger := rfl
  have hrate : halfTrigger.rate? = some (.errors, .failure, halfLimit, ⟨1000, 500, [{}, {}]⟩) := rfl
  have hfew : records disordered < Counts.modulus := by decide
  obtain ⟨hmade, w, hw, _, hfinds, hcounts⟩ := share_bounded ht hrate hfew
  cases hw
  refine ⟨ht, hrate, hfew, hmade (by decide), ?_, ?_, ?_, ?_, ?_, ?_⟩
  · exact (hfinds 1701).2.2.2.trans (by decide)
  · exact (hfinds 2300).2.2.2.trans (by rfl)
  · exact ((hfinds 2300).2.2.1 (by decide)).1
  · exact ((hfinds 2300).2.2.1 (by decide)).2
  · exact (hfinds 5000).2.2.2.trans (if_pos (by decide))
  · exact (hcounts 900 true 5).1

end Trigger

end CircuitBreaker

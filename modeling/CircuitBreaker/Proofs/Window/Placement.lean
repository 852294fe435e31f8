import CircuitBreaker.Proofs.Window.Accuracy
import CircuitBreaker.Proofs.Window.Checked

/-!
# `Proofs.Window.Placement` — every span lies in its own slot

The slot of a time comes from one division and the start of its span from another, and between two
visits of a slot the times may jump anywhere. What keeps the two together is that a slot is only ever
written with a span that is at home in it (`turn_startOf`). An operation does one of three things
(`step_cases`): it clears the ring, it leaves the ring alone, or it writes a span into its own slot, in
place of no later one. All of this module follows from these three cases.

Start 0 has two readings. It is what a slot has that was never written, and it is the start of the
first span of all. The first span is at home in slot 0, so a slot other than that one which starts at 0
has counted nothing (`slotOf_of_startOf_eq_zero`).

## Contents
- `Window.turn_startOf`, `Window.slotOf_of_startOf_eq_zero`: the start of a span tells its slot.
- `Window.step_cases`: what an operation can do.
- `Window.IsPlaced`: the invariant, which every run keeps; `Window.IsPlaced.start_ne`.
- `Window.start_le_run`: without clearing, no slot goes back.
- `Window.spans_keep_to_slots`: all of it, for a new window and any operations.
-/

namespace CircuitBreaker.Window

variable {w : Window} {b : Bucket} {now slot other : Nat} {op : Op} {ops : List Op}

/-! ## The slot of a span -/

/-- **The start of a span tells its slot.** -/
theorem turn_startOf (h : 0 < w.width) (now : Nat) :
    w.startOf now / w.width % w.size = w.slotOf now := by
  rw [startOf_eq_mul, Nat.mul_div_cancel _ h]
  rfl

/-- The first span is at home in slot 0. -/
theorem slotOf_of_startOf_eq_zero (h : 0 < w.width) (hzero : w.startOf now = 0) :
    w.slotOf now = 0 := by
  rw [← turn_startOf h, hzero, Nat.zero_div, Nat.zero_mod]

/-! ## One operation -/

/-- **What an operation can do**: it clears the ring, or leaves it alone, or writes a bucket for the span
    of a time into the slot of that time, which held no later span. -/
theorem step_cases (h : 0 < w.size) (op : Op) :
    (op = .reset ∧ (w.step op).1 = w.reset) ∨ (w.step op).1 = w ∨
      ∃ now b, b.start = w.startOf now ∧ (w.bucketAt (w.slotOf now)).start ≤ w.startOf now ∧
        (w.step op).1 = w.put (w.slotOf now) b := by
  cases op with
  | add a =>
      right
      rw [step_add h]
      split
      · rename_i hroom
        right
        refine ⟨a.time, _, ?_, hroom, rfl⟩
        rw [Bucket.start_count, Bucket.start_rolledTo]
      · exact Or.inl rfl
  | roll now =>
      right
      simp only [step, roll?_eq]
      split
      · rename_i hroom
        right
        exact ⟨now, _, Bucket.start_rolledTo _ _, hroom, rfl⟩
      · exact Or.inl rfl
  | reset => exact Or.inl ⟨rfl, rfl⟩

/-! ## The invariant -/

/-- **Every span lies in its own slot.** -/
structure IsPlaced (w : Window) : Prop where
  /-- What a slot holds starts at 0, or at a multiple of the width that is the slot's turn. -/
  own : ∀ slot, (w.bucketAt slot).start = 0 ∨
    w.width ∣ (w.bucketAt slot).start ∧ (w.bucketAt slot).start / w.width % w.size = slot
  /-- Start 0 means that nothing was counted, except in slot 0. -/
  blank : ∀ slot, 0 < slot → (w.bucketAt slot).start = 0 → (w.bucketAt slot).counts = {}

theorem isPlaced_reset (w : Window) : w.reset.IsPlaced where
  own := by
    intro slot
    left
    rw [bucketAt_reset]
  blank := by
    intro slot _ _
    rw [bucketAt_reset]

namespace IsPlaced

/-- **A span may be written into its own slot.** -/
theorem put (h : w.IsPlaced) (hsize : 0 < w.size) (hwidth : 0 < w.width)
    (hb : b.start = w.startOf now) : (w.put (w.slotOf now) b).IsPlaced := by
  have hself : (w.put (w.slotOf now) b).bucketAt (w.slotOf now) = b :=
    bucketAt_put_self (slotOf_lt hsize now) b
  constructor
  case own =>
    intro slot
    rw [width_put, size_put]
    by_cases hslot : slot = w.slotOf now
    · right
      rw [hslot, hself, hb]
      refine ⟨?_, turn_startOf hwidth now⟩
      rw [startOf_eq_mul]
      exact Nat.dvd_mul_left _ _
    · rw [bucketAt_put_ne w hslot]
      exact h.own slot
  case blank =>
    intro slot hpos
    by_cases hslot : slot = w.slotOf now
    · -- a span that starts at 0 would be at home in slot 0
      rw [hslot, hself, hb]
      intro hzero
      have hfirst := slotOf_of_startOf_eq_zero hwidth hzero
      omega
    · rw [bucketAt_put_ne w hslot]
      exact h.blank slot hpos

/-- **Every operation keeps spans in their slots.** -/
theorem step (h : w.IsPlaced) (hsize : 0 < w.size) (hwidth : 0 < w.width) (op : Op) :
    (w.step op).1.IsPlaced := by
  rcases step_cases hsize op with ⟨-, hclear⟩ | hsame | ⟨now, b, hb, -, hput⟩
  · rw [hclear]
    exact isPlaced_reset w
  · rw [hsame]
    exact h
  · rw [hput]
    exact h.put hsize hwidth hb

/-- **So does every run.** -/
theorem run (h : w.IsPlaced) (hsize : 0 < w.size) (hwidth : 0 < w.width) (ops : List Op) :
    (w.run ops).1.IsPlaced := by
  induction ops generalizing w with
  | nil => exact h
  | cons op rest ih =>
      have hshape : (w.step op).1.reset = w.reset := reset_step w op
      rw [run_cons_fst]
      apply ih (h.step hsize hwidth op)
      · rw [size_of_reset hshape]
        exact hsize
      · rw [width_of_reset hshape]
        exact hwidth

/-- **No two slots hold the same span**: its start would be the turn of both. -/
theorem start_ne (h : w.IsPlaced) (hne : slot ≠ other) (hstart : (w.bucketAt slot).start ≠ 0) :
    (w.bucketAt slot).start ≠ (w.bucketAt other).start := by
  intro hsame
  obtain ⟨-, hslot⟩ := (h.own slot).resolve_left hstart
  obtain ⟨-, hother⟩ := (h.own other).resolve_left (hsame ▸ hstart)
  apply hne
  rw [← hslot, hsame, hother]

end IsPlaced

/-! ## Slots do not go back -/

/-- An operation that does not clear the ring takes no slot to an earlier span. -/
theorem start_le_step (hsize : 0 < w.size) (hop : op ≠ .reset) (slot : Nat) :
    (w.bucketAt slot).start ≤ ((w.step op).1.bucketAt slot).start := by
  rcases step_cases hsize op with ⟨hreset, -⟩ | hsame | ⟨now, b, hb, hroom, hput⟩
  · exact absurd hreset hop
  · rw [hsame]
  · rw [hput]
    by_cases hslot : slot = w.slotOf now
    · rw [hslot, bucketAt_put_self (slotOf_lt hsize now), hb]
      exact hroom
    · rw [bucketAt_put_ne w hslot]

/-- **Between two clearings, no slot goes back** to an earlier span. -/
theorem start_le_run (hsize : 0 < w.size) (hops : Op.reset ∉ ops) (slot : Nat) :
    (w.bucketAt slot).start ≤ ((w.run ops).1.bucketAt slot).start := by
  induction ops generalizing w with
  | nil => exact Nat.le_refl _
  | cons op rest ih =>
      have hop : op ≠ .reset := fun hreset => hops (hreset ▸ List.mem_cons_self)
      have hrest : Op.reset ∉ rest := fun hmem => hops (List.mem_cons_of_mem op hmem)
      have hnext : 0 < (w.step op).1.size := by
        rw [size_of_reset (reset_step w op)]
        exact hsize
      calc (w.bucketAt slot).start
          ≤ ((w.step op).1.bucketAt slot).start := start_le_step hsize hop slot
        _ ≤ (((w.step op).1.run rest).1.bucketAt slot).start := ih hnext hrest

/-! ## A new window, and any operations -/

/-- **Spans keep to their slots.** A window can be made of any number of buckets for any interval, as
    wide as it takes, and without a fault if the two add up to a number of 64 bits. After any operations on
    it, at times in any order:
    * a slot starts at 0, or at a multiple of the width that is the slot's turn;
    * a slot other than slot 0 that starts at 0 has counted nothing;
    * two slots have different starts, unless both start at 0;
    * whatever comes next takes no slot to an earlier start, unless it clears the ring;
    * making room for a time fails exactly if the slot of the time starts later than the span of the
      time, and it changes nothing then. Otherwise the slot holds that span, with its counts if it did so
      before and empty if it started earlier, and no other slot changes. -/
theorem spans_keep_to_slots (count interval : Nat) (hcount : 0 < count) (hspan : 0 < interval) :
    ∃ first, ofInterval? count interval = .ok first ∧
      (interval + count < UInt64.size → checkedOfInterval count interval = .ok (.ok first)) ∧
      (∀ width, first.width ≤ width ↔ interval ≤ width * count) ∧
      (∀ time, first.startOf time = time - time % first.width ∧
        first.slotOf time = time / first.width % count) ∧
      ∀ ops w, w = (first.run ops).1 →
        (∀ slot < count, (w.bucketAt slot).start = 0 ∨
          first.width ∣ (w.bucketAt slot).start ∧
            (w.bucketAt slot).start / first.width % count = slot) ∧
        (∀ slot < count, 0 < slot → (w.bucketAt slot).start = 0 → (w.bucketAt slot).counts = {}) ∧
        (∀ slot < count, ∀ other < count, slot ≠ other → (w.bucketAt slot).start ≠ 0 →
          (w.bucketAt slot).start ≠ (w.bucketAt other).start) ∧
        (∀ more, Op.reset ∉ more → ∀ slot < count,
          (w.bucketAt slot).start ≤ ((w.run more).1.bucketAt slot).start) ∧
        ∀ now,
          (first.startOf now < (w.bucketAt (first.slotOf now)).start →
            w.step (.roll now) = (w, some .tooLate)) ∧
          ((w.bucketAt (first.slotOf now)).start ≤ first.startOf now →
            ∃ v, w.step (.roll now) = (v, none) ∧
              v.bucketAt (first.slotOf now) =
                (if (w.bucketAt (first.slotOf now)).start = first.startOf now then
                  w.bucketAt (first.slotOf now)
                else { start := first.startOf now, counts := {} }) ∧
              ∀ other, other ≠ first.slotOf now → v.bucketAt other = w.bucketAt other) := by
  obtain ⟨first, hfirst⟩ := ofInterval?_eq_ok (Nat.ne_of_gt hcount) (Nat.ne_of_gt hspan)
  obtain ⟨-, hwidth, hsize⟩ := shape_ofInterval? hfirst
  have hspans : first.Spans := spans_ofInterval? hfirst
  refine ⟨first, hfirst, checkedOfInterval_eq_ok hfirst, fun width => ?_, fun time => ?_,
    fun ops w hw => ?_⟩
  · rw [hwidth]
    exact ceilDiv_le_iff hcount
  · rw [startOf, slotOf, hsize]
    exact ⟨rfl, rfl⟩
  have hshape : w.reset = first.reset := by
    rw [hw]
    exact reset_run first ops
  have hsame : w.width = first.width := width_of_reset hshape
  have hslots : w.size = first.size := size_of_reset hshape
  have hpos : 0 < w.size := by
    rw [hslots]
    exact hspans.size_pos
  have hplaced : w.IsPlaced := by
    have hclear : first.IsPlaced := reset_ofInterval? hfirst ▸ isPlaced_reset first
    rw [hw]
    exact hclear.run hspans.size_pos hspans.width_pos ops
  refine ⟨fun slot _ => ?_, fun slot _ => hplaced.blank slot, fun slot _ other _ => hplaced.start_ne,
    fun more hmore slot _ => start_le_run hpos hmore slot, fun now => ?_⟩
  · rw [← hsame, ← hsize, ← hslots]
    exact hplaced.own slot
  · have hstart : first.startOf now = w.startOf now := by rw [startOf, startOf, hsame]
    have hslot : first.slotOf now = w.slotOf now := by rw [slotOf, slotOf, hsame, hslots]
    rw [hstart, hslot]
    simp only [step, roll?_eq]
    constructor
    · intro hlater
      rw [if_neg (Nat.not_le.mpr hlater)]
      rfl
    · intro hroom
      rw [if_pos hroom]
      refine ⟨_, rfl, ?_, fun other hother => bucketAt_put_ne w hother _⟩
      rw [bucketAt_put_self (slotOf_lt hpos now)]
      rfl

/-- Three buckets for ten milliseconds are four milliseconds wide, and the times 5 and 17 share slot 1.
    Once it holds the span from 16, there is no room for the time 6 any more, and there is for 18. -/
theorem spans_keep_to_slots_three_ten :
    0 < 3 ∧ 0 < 10 ∧ ∃ first, checkedOfInterval 3 10 = .ok (.ok first) ∧
      ∃ w, w = (first.run [.add ⟨5, .request, 1⟩, .add ⟨17, .request, 2⟩]).1 ∧
        (w.bucketAt 1).start / first.width % 3 = 1 ∧
        w.step (.roll 6) = (w, some .tooLate) ∧
        ∃ v, w.step (.roll 18) = (v, none) ∧ v.bucketAt 1 = ⟨16, { request := 2 }⟩ := by
  obtain ⟨first, hfirst, hmade, -, -, hrun⟩ := spans_keep_to_slots 3 10 (by decide) (by decide)
  obtain ⟨hown, -, -, -, hroll⟩ :=
    hrun [.add ⟨5, .request, 1⟩, .add ⟨17, .request, 2⟩] _ rfl
  have hturn := hown 1 (by decide)
  obtain ⟨hlate, -⟩ := hroll 6
  obtain ⟨-, hroom⟩ := hroll 18
  refine ⟨by decide, by decide, first, hmade (by decide), _, rfl, ?_⟩
  cases hfirst
  obtain ⟨-, hslot⟩ := hturn.resolve_left (by decide)
  obtain ⟨v, hv, hbucket, -⟩ := hroom (by decide)
  exact ⟨hslot, hlate (by decide), v, hv, hbucket.trans (by decide)⟩

end CircuitBreaker.Window

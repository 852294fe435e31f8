import CircuitBreaker.Proofs.Window.Ring
import CircuitBreaker.Window.Checked

/-!
# `Proofs.Window.Checked` — on a ring nothing faults

A window is a **ring** if its buckets have a width and there are as many of them as asked for, one at
least. Then every time has a slot, and counting at the time does not fault (`Window.checkedAdd_eq`). What
a window is does not change when something is counted in it: it is a ring as long as it is one when
cleared (`Window.IsRing.of_reset`).

Every window that can be made is a ring. The interval is rounded up to whole buckets by a sum that has to
fit into 64 bits; with it, so does everything else (`Window.checkedOfInterval_eq`).

## Contents
- `Checked.add_eq_ok` and the like: when a step does not fault.
- `Window.IsRing`, `isRing_ofInterval?`, `checkedOfInterval_eq`, `checkedAdd_eq`: windows.
-/

namespace CircuitBreaker

namespace Checked

theorem div_eq_ok {x y : Nat} (h : 0 < y) : div x y = .ok (x / y) := if_neg (Nat.ne_of_gt h)

theorem rem_eq_ok {x y : Nat} (h : 0 < y) : rem x y = .ok (x % y) := if_neg (Nat.ne_of_gt h)

theorem sub_eq_ok {x y : Nat} (h : y ≤ x) : sub x y = .ok (x - y) := if_pos h

theorem add_eq_ok {x y : Nat} (h : x + y < UInt64.size) : add x y = .ok (x + y) := if_pos h

end Checked

namespace Window

/-- **A window is a ring** of `count` buckets if every time has a slot in it. -/
structure IsRing (w : Window) (count : Nat) : Prop where
  width_pos : 0 < w.width
  size_eq : w.size = count
  count_pos : 0 < count

variable {w v : Window} {count interval now n : Nat} {d : Dimension}

/-- Counting and clearing do not make a window more of a ring, or less. -/
theorem IsRing.of_reset (hw : w.IsRing count) (h : v.reset = w.reset) : v.IsRing count where
  width_pos := by
    rw [width_of_reset h]
    exact hw.width_pos
  size_eq := by rw [size_of_reset h, hw.size_eq]
  count_pos := hw.count_pos

/-- **A new window is a ring**, of as many buckets as were asked for. -/
theorem isRing_ofInterval? (h : ofInterval? count interval = .ok w) : w.IsRing count := by
  obtain ⟨-, hwidth, hsize⟩ := shape_ofInterval? h
  have hasked : count ≠ 0 ∧ interval ≠ 0 := by
    unfold ofInterval? at h
    split at h
    · cases h
    · rename_i hasked
      exact not_or.mp hasked
  have hcount : 0 < count := Nat.pos_of_ne_zero hasked.1
  refine ⟨?_, hsize, hcount⟩
  -- buckets without a width would not make up the interval
  rw [hwidth, Nat.pos_iff_ne_zero]
  intro hzero
  have hshort : interval ≤ 0 * count := (ceilDiv_le_iff hcount).mp (Nat.le_of_eq hzero)
  rw [Nat.zero_mul] at hshort
  exact hasked.2 (Nat.le_zero.mp hshort)

/-- **Making a window** does not fault, unless its numbers do not fit. -/
theorem checkedOfInterval_eq (h : interval + count < UInt64.size) :
    checkedOfInterval count interval = .ok (ofInterval? count interval) := by
  unfold checkedOfInterval ofInterval?
  by_cases hzero : count = 0 ∨ interval = 0
  · rw [if_pos hzero, if_pos hzero]
  · rw [if_neg hzero, if_neg hzero, Checked.add_eq_ok h]
    obtain ⟨hcount, hinterval⟩ := not_or.mp hzero
    have hone : 1 ≤ interval + count := by omega
    have hpos : 0 < count := Nat.pos_of_ne_zero hcount
    simp only [bind, Except.bind, Checked.sub_eq_ok hone, Checked.div_eq_ok hpos]
    rfl

/-- **A window is made without a fault**, if it can be made and its numbers fit. -/
theorem checkedOfInterval_eq_ok (h : ofInterval? count interval = .ok w)
    (hfits : interval + count < UInt64.size) : checkedOfInterval count interval = .ok (.ok w) := by
  rw [checkedOfInterval_eq hfits, h]

/-- **Counting in a ring** does not fault: the time has a slot. -/
theorem checkedAdd_eq (h : w.IsRing count) (now : Nat) (d : Dimension) (n : Nat) :
    w.checkedAdd now d n = .ok (w.add now d n) := by
  have hsize : 0 < w.size := by
    rw [h.size_eq]
    exact h.count_pos
  have hpast : now % w.width ≤ now := Nat.mod_le _ _
  have hheld : Checked.get w.buckets (now / w.width % w.size) =
      .ok (w.bucketAt (now / w.width % w.size)) := by
    have hslot : now / w.width % w.size < w.buckets.length := slotOf_lt hsize now
    unfold Checked.get bucketAt
    rw [List.getElem?_eq_getElem hslot]
    rfl
  unfold checkedAdd add add? roll? startOf slotOf
  rw [Checked.div_eq_ok h.width_pos, Checked.rem_eq_ok h.width_pos]
  simp only [bind, Except.bind, Checked.rem_eq_ok hsize, Checked.sub_eq_ok hpast, hheld]
  -- what is in the slot is of this span, of an earlier one, or of a later one
  by_cases hsame : (w.bucketAt (now / w.width % w.size)).start = now - now % w.width
  · rw [if_pos hsame, if_pos hsame]
    rfl
  · rw [if_neg hsame, if_neg hsame]
    by_cases hearlier : (w.bucketAt (now / w.width % w.size)).start = 0 ∨
        (w.bucketAt (now / w.width % w.size)).start < now - now % w.width
    · rw [if_pos hearlier, if_pos hearlier]
      simp [size, countAt, pure, Except.pure]
    · rw [if_neg hearlier, if_neg hearlier]
      rfl

theorem IsRing.add (h : w.IsRing count) (now : Nat) (d : Dimension) (n : Nat) :
    (w.add now d n).IsRing count :=
  h.of_reset (reset_add w now d n)

end Window

end CircuitBreaker

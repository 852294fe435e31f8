import Mathlib.Algebra.Order.BigOperators.Group.List
import Mathlib.Algebra.Order.Group.Nat
import CircuitBreaker.Proofs.Window.Checked
import CircuitBreaker.Proofs.Window.Log

/-!
# `Proofs.Window.Ahead` — sums at times that additions are ahead of

A sum is meant to be about the window that ends with the time of the read. When calls are counted at
times of their own, a read can be earlier than an addition, and the test that drops a bucket looks back
only: a bucket that starts later than the read is not one that has left the window.

So a sum has two parts (`total_covered`): what lies in the window, and what is ahead of the read. The
first is what the sum is meant to be. The second is nothing as long as no addition is later than the read,
and it is never empty when the latest addition is ahead, since nothing can overtake that one.

## Contents
- `Window.inside`, `Window.ahead`: the two parts of a log.
- `Window.sum_reaches_ahead`: a sum counts both.
- `Window.CountsNoFuture`, `Window.not_countsNoFuture`: what a sum does not promise.
-/

namespace CircuitBreaker.Window

variable {w : Window} {done : List Addition} {now : Nat} {d : Dimension} {a : Addition}

/-! ## Two parts of a log -/

/-- The additions of a log in a dimension whose span starts in the `interval` milliseconds up to `now`,
    and still has its slot. -/
def inside (w : Window) (done : List Addition) (now : Nat) (d : Dimension) : List Addition :=
  done.filter fun a =>
    a.dimension = d ∧ (0 < w.startOf a.time ∧ w.startOf a.time ≤ now ∧
      now ≤ w.startOf a.time + w.interval) ∧ ¬w.IsOvertaken done a

/-- The additions of a log in a dimension whose span starts after `now`, and still has its slot. -/
def ahead (w : Window) (done : List Addition) (now : Nat) (d : Dimension) : List Addition :=
  done.filter fun a => a.dimension = d ∧ now < w.startOf a.time ∧ ¬w.IsOvertaken done a

theorem mem_ahead_iff :
    a ∈ w.ahead done now d ↔
      a ∈ done ∧ a.dimension = d ∧ now < w.startOf a.time ∧ ¬w.IsOvertaken done a := by
  simp [ahead]

/-- **What counts is inside or ahead.** -/
theorem total_covered (w : Window) (done : List Addition) (now : Nat) (d : Dimension) :
    total (w.covered done now d) = total (w.inside done now d) + total (w.ahead done now d) := by
  have hparts : w.covered done now d = done.filter fun a =>
      decide (a.dimension = d ∧ (0 < w.startOf a.time ∧ w.startOf a.time ≤ now ∧
        now ≤ w.startOf a.time + w.interval) ∧ ¬w.IsOvertaken done a) ||
      decide (a.dimension = d ∧ now < w.startOf a.time ∧ ¬w.IsOvertaken done a) := by
    refine List.filter_congr fun a _ => ?_
    rw [← Bool.decide_or, decide_eq_decide]
    constructor
    · rintro ⟨hd, hpos, hin, hkept⟩
      rcases Nat.lt_or_ge now (w.startOf a.time) with hahead | hpast
      · exact Or.inr ⟨hd, hahead, hkept⟩
      · exact Or.inl ⟨hd, ⟨hpos, hpast, by omega⟩, hkept⟩
    · rintro (⟨hd, ⟨hpos, hpast, hin⟩, hkept⟩ | ⟨hd, hahead, hkept⟩)
      · exact ⟨hd, hpos, by omega, hkept⟩
      · exact ⟨hd, by omega, by omega, hkept⟩
  rw [hparts]
  refine total_filter_or done fun a hinside => ?_
  obtain ⟨-, ⟨-, hpast, -⟩, -⟩ := of_decide_eq_true hinside
  exact decide_eq_false fun hahead => absurd hahead.2.1 (Nat.not_lt.mpr hpast)

/-- Nothing is ahead of a read that no addition is later than. -/
theorem ahead_eq_nil (h : ∀ a ∈ done, a.time ≤ now) : w.ahead done now d = [] := by
  rw [List.eq_nil_iff_forall_not_mem]
  intro a ha
  obtain ⟨hdone, -, hahead, -⟩ := mem_ahead_iff.mp ha
  have hspan : w.startOf a.time ≤ a.time := Nat.sub_le _ _
  have htime := h a hdone
  omega

/-- **The latest span is ahead of every earlier read**: nothing overtakes it. -/
theorem mem_ahead_of_latest (ha : a ∈ done) (hlatest : ∀ b ∈ done, w.startOf b.time ≤ w.startOf a.time)
    (hahead : now < w.startOf a.time) : a ∈ w.ahead done now a.dimension := by
  refine mem_ahead_iff.mpr ⟨ha, rfl, hahead, ?_⟩
  rintro ⟨b, hb, -, hlater⟩
  exact absurd (hlatest b hb) (Nat.not_le.mpr hlater)

theorem amount_le_total {as : List Addition} (h : a ∈ as) : a.amount ≤ total as :=
  List.single_le_sum (fun _ _ => Nat.zero_le _) _ (List.mem_map_of_mem h)

/-! ## What a sum counts -/

/-- **A sum counts the window and what is ahead of it.** Take a new window, or one that was just cleared
    after any operations, and additions at times in any order. It is made without a fault if its interval
    and the number of its buckets add up to a number of 64 bits. The sum over the window before `now` is
    what the additions amount to whose span still has its slot and starts in the window, or after `now`.
    * It is what lies in the window if no addition that was taken is later than `now`.
    * If the latest span starts after `now`, each of its additions is counted on top of that. -/
theorem sum_reaches_ahead (count interval : Nat) (hcount : 0 < count) (hspan : 0 < interval) :
    ∃ first, ofInterval? count interval = .ok first ∧ first.interval = interval ∧
      (interval + count < UInt64.size → checkedOfInterval count interval = .ok (.ok first)) ∧
      ∀ w, (w = first ∨ ∃ past, w = (first.run past).1.reset) →
        ∀ (log : List Addition) (now : Nat) (d : Dimension),
          let done := w.accepted log
          let sum := (w.run (log.map .add)).1.sum now d
          total (first.inside done now d) + total (first.ahead done now d) < Counts.modulus →
            sum = total (first.inside done now d) + total (first.ahead done now d) ∧
            ((∀ a ∈ done, a.time ≤ now) → sum = total (first.inside done now d)) ∧
            ∀ a ∈ done, a.dimension = d → now < first.startOf a.time →
              (∀ b ∈ done, first.startOf b.time ≤ first.startOf a.time) →
              total (first.inside done now d) + a.amount ≤ sum := by
  obtain ⟨first, hmade⟩ := ofInterval?_eq_ok (Nat.ne_of_gt hcount) (Nat.ne_of_gt hspan)
  have hclear : first.reset = first := reset_ofInterval? hmade
  obtain ⟨hinterval, -, hsize⟩ := shape_ofInterval? hmade
  refine ⟨first, hmade, hinterval, checkedOfInterval_eq_ok hmade, ?_⟩
  intro w hw log now d done sum hsmall
  obtain rfl : w = first := eq_of_cleared hclear hw
  have hpos : 0 < w.size := hsize ▸ hcount
  have hshape : (w.run (log.map .add)).1.reset = w.reset := reset_run w _
  have hempty : w.Reflects [] := hclear ▸ reflects_reset w
  have hafter : (w.run (log.map .add)).1.Reflects done := hempty.run hpos log
  have hsum : sum = total (w.inside done now d) + total (w.ahead done now d) := by
    simp only [sum]
    rw [hafter.sum_eq (by rw [size_of_reset hshape]; exact hpos), covered_congr hshape, total_covered,
      Nat.mod_eq_of_lt hsmall]
  refine ⟨hsum, fun hlast => ?_, ?_⟩
  · rw [hsum, ahead_eq_nil hlast, total_nil, Nat.add_zero]
  · rintro a ha rfl hahead hlatest
    rw [hsum]
    exact Nat.add_le_add_left (amount_le_total (mem_ahead_of_latest ha hlatest hahead)) _

/-- Three additions to buckets of 100 milliseconds, of which the last is a late one. -/
def lateLog : List Addition := [⟨1000, .request, 1⟩, ⟨1250, .request, 2⟩, ⟨900, .request, 4⟩]

/-- At 1050, a window of a second counts the addition at 1250 beside those at 900 and 1000. -/
theorem lateLog_reaches_ahead :
    0 < 10 ∧ 0 < 1000 ∧ ∃ first, checkedOfInterval 10 1000 = .ok (.ok first) ∧
      first.accepted lateLog = lateLog ∧
      total (first.inside lateLog 1050 .request) = 5 ∧ total (first.ahead lateLog 1050 .request) = 2 ∧
      (first.run (lateLog.map .add)).1.sum 1050 .request = 7 ∧
      (first.run (lateLog.map .add)).1.sum 1250 .request =
        total (first.inside lateLog 1250 .request) ∧
      total (first.inside lateLog 1050 .request) + 2 ≤
        (first.run (lateLog.map .add)).1.sum 1050 .request := by
  obtain ⟨first, hmade, -, hchecked, hsum⟩ := sum_reaches_ahead 10 1000 (by decide) (by decide)
  have hthen := hsum first (.inl rfl) lateLog 1050 .request
  have hlater := hsum first (.inl rfl) lateLog 1250 .request
  cases hmade
  obtain ⟨hboth, -, hlatest⟩ := hthen (by decide)
  obtain ⟨-, hinside, -⟩ := hlater (by decide)
  refine ⟨by decide, by decide, _, hchecked (by decide), by decide, by decide, by decide, ?_, ?_, ?_⟩
  · exact hboth
  · exact hinside (by decide)
  · exact hlatest ⟨1250, .request, 2⟩ (by decide) rfl (by decide) (by decide)

/-! ## What a sum does not promise -/

/-- The promise that sums look back only: a sum is no more than what the additions amount to whose span
    starts in the `interval` milliseconds up to the read. -/
def CountsNoFuture : Prop :=
  ∀ (count interval : Nat) (first : Window), ofInterval? count interval = .ok first →
    ∀ (log : List Addition) (now : Nat) (d : Dimension),
      (first.run (log.map .add)).1.sum now d ≤ total (log.filter fun a =>
        a.dimension = d ∧ first.startOf a.time ≤ now ∧ now ≤ first.startOf a.time + interval)

/-- **A sum counts the future.** In a window of a second in ten buckets, a call that comes late, at 1000, is
    counted together with one at 1500. -/
theorem not_countsNoFuture : ¬CountsNoFuture := by
  intro hall
  have hsum := hall 10 1000 _ rfl [⟨1500, .request, 1⟩, ⟨1000, .request, 1⟩] 1000 .request
  revert hsum
  decide

end CircuitBreaker.Window

import Mathlib.Algebra.Order.BigOperators.Group.List
import Mathlib.Algebra.Order.Group.Nat
import Mathlib.Data.Nat.ModEq
import CircuitBreaker.Proofs.Window.Log

/-!
# `Proofs.Window.Accuracy` — what a sum misses when times never go back

Where times may come in any order, a ring can lose an addition to a later one in the same slot, so that
`Proofs.Window.Log` has to speak of overtaken spans. Here times never go back, and the slots turn out to
be enough.

The argument is about one **turn** of the ring, the time that its slots cover together. Two spans share a
slot only if they start whole turns apart (`add_turn_le_startOf`), and a turn is no shorter than the
interval, since widths are rounded up. So what overtakes a span starts when the span has left the window,
or at the very moment at which it is about to (`turn_le_of_isOvertaken`). What is left of the difference
between a sum and a plain count is the rounding of times to their spans, which is less than one width.

## Contents
- `Window.turn`, `Window.Spans`: what a window for an interval is like.
- `Window.InOrder`, `run_of_inOrder`, `sum_of_inOrder`: nothing is refused.
- `Window.recent`, `Window.sum_accurate`: the sum between two plain counts.
- `Window.Covers`, `Window.covered_of_inOrder`: what is counted at the time of the last addition.
-/

namespace CircuitBreaker.Window

variable {w : Window} {log done : List Addition} {now s t : Nat}

/-! ## One turn of the ring -/

/-- How long it takes until a slot is used again. -/
def turn (w : Window) : Nat := w.size * w.width

/-- The start of a span is a multiple of the width. -/
theorem startOf_eq_mul (w : Window) (t : Nat) : w.startOf t = t / w.width * w.width :=
  (Nat.div_mul_self_eq_mod_sub_self).symm

theorem startOf_le (w : Window) (t : Nat) : w.startOf t ≤ t := Nat.sub_le t _

/-- A time lies less than a width after the start of its span. -/
theorem lt_startOf_add_width (h : 0 < w.width) (t : Nat) : t < w.startOf t + w.width := by
  have hrest : t % w.width < w.width := Nat.mod_lt t h
  unfold startOf
  omega

theorem startOf_mono (w : Window) (h : s ≤ t) : w.startOf s ≤ w.startOf t := by
  rw [startOf_eq_mul, startOf_eq_mul]
  exact Nat.mul_le_mul_right _ (Nat.div_le_div_right h)

/-- **Spans that share a slot start at least a turn apart.** -/
theorem add_turn_le_startOf (hslot : w.slotOf s = w.slotOf t) (hlater : w.startOf s < w.startOf t) :
    w.startOf s + w.turn ≤ w.startOf t := by
  rw [startOf_eq_mul, startOf_eq_mul] at hlater ⊢
  have hindex : s / w.width < t / w.width := Nat.lt_of_mul_lt_mul_right hlater
  have happart : s / w.width + w.size ≤ t / w.width := Nat.ModEq.add_le_of_lt hslot hindex
  rw [turn, ← Nat.add_mul]
  exact Nat.mul_le_mul_right _ happart

/-- Spans that start a turn apart share a slot. -/
theorem slotOf_eq_of_turn (h : 0 < w.width) (hturn : w.startOf s + w.turn = w.startOf t) :
    w.slotOf s = w.slotOf t := by
  rw [startOf_eq_mul, startOf_eq_mul, turn, ← Nat.add_mul] at hturn
  have hindex : s / w.width + w.size = t / w.width := Nat.eq_of_mul_eq_mul_right h hturn
  unfold slotOf
  rw [← hindex, Nat.add_mod_right]

/-- **A window spans its interval**: the buckets have a width, no more of it than the interval, and are
    together no shorter than the interval. -/
structure Spans (w : Window) : Prop where
  size_pos : 0 < w.size
  width_pos : 0 < w.width
  width_le : w.width ≤ w.interval
  interval_le : w.interval ≤ w.turn

/-- A new window spans the interval that was asked for. -/
theorem spans_ofInterval? {count interval : Nat} (h : ofInterval? count interval = .ok w) :
    w.Spans := by
  have hasked : count ≠ 0 ∧ interval ≠ 0 := by
    unfold ofInterval? at h
    split at h
    · cases h
    · rename_i hnot
      exact not_or.mp hnot
  have hcount : 0 < count := Nat.pos_of_ne_zero hasked.1
  have hspan : 0 < interval := Nat.pos_of_ne_zero hasked.2
  obtain ⟨hinterval, hwidth, hsize⟩ := shape_ofInterval? h
  have hleast (k : Nat) : w.width ≤ k ↔ interval ≤ k * count := by
    rw [hwidth]
    exact ceilDiv_le_iff hcount
  have henough : interval ≤ w.width * count := (hleast w.width).mp (Nat.le_refl _)
  refine ⟨hsize ▸ hcount, Nat.pos_of_ne_zero fun hzero => ?_, ?_, ?_⟩
  · rw [hzero, Nat.zero_mul] at henough
    exact hasked.2 (Nat.le_zero.mp henough)
  · rw [hinterval]
    exact (hleast interval).mpr (Nat.le_mul_of_pos_right interval hcount)
  · rw [hinterval, turn, hsize, Nat.mul_comm]
    exact henough

/-! ## Times that never go back -/

/-- **Additions come in order** if no time is earlier than one before it. -/
def InOrder (log : List Addition) : Prop := log.Pairwise fun a b => a.time ≤ b.time

/-- **Additions that come in order are all taken.** The slot of each holds the span of an earlier one. -/
theorem Reflects.taken_of_inOrder (h : w.Reflects done) (hsize : 0 < w.size)
    (horder : InOrder (done ++ log)) :
    w.accepted log = log ∧ ∀ answer ∈ (w.run (log.map .add)).2, answer = none := by
  induction log generalizing w done with
  | nil =>
      refine ⟨rfl, fun answer hanswer => ?_⟩
      cases hanswer
  | cons a rest ih =>
      have hbefore : ∀ b ∈ done, b.time ≤ a.time := by
        intro b hb
        exact (List.pairwise_append.mp horder).2.2 b hb a List.mem_cons_self
      have hroom : (w.bucketAt (w.slotOf a.time)).start ≤ w.startOf a.time := by
        rcases h.written (w.slotOf a.time) with hzero | ⟨b, hb, _, hstart⟩
        · rw [hzero]
          exact Nat.zero_le _
        · rw [← hstart]
          exact startOf_mono w (hbefore b hb)
      have hstep : w.step (.add a) = (w.write a, none) := by rw [step_add hsize, if_pos hroom]
      have hnext : InOrder ((done ++ [a]) ++ rest) := by simpa using horder
      obtain ⟨hall, hanswers⟩ := ih (h.write hsize hroom) (by simpa [Window.write] using hsize) hnext
      refine ⟨by simp only [accepted, hstep, hall], fun answer hanswer => ?_⟩
      rw [List.map_cons, run_cons_snd, hstep] at hanswer
      rcases List.mem_cons.mp hanswer with rfl | hlater
      · rfl
      · exact hanswers answer hlater

/-- A clear window takes additions that come in order, and reflects all of them. -/
theorem run_of_inOrder (hclear : w.reset = w) (hsize : 0 < w.size) (horder : InOrder log) :
    (w.run (log.map .add)).1.Reflects log ∧ ∀ answer ∈ (w.run (log.map .add)).2, answer = none := by
  have hempty : w.Reflects [] := hclear ▸ reflects_reset w
  obtain ⟨hall, hanswers⟩ := hempty.taken_of_inOrder hsize horder
  have hrun := hempty.run hsize log
  rw [hall] at hrun
  exact ⟨hrun, hanswers⟩

/-- What a clear window counts of additions that come in order. -/
theorem sum_of_inOrder (hclear : w.reset = w) (hsize : 0 < w.size) (horder : InOrder log) (now : Nat)
    (d : Dimension) :
    (w.run (log.map .add)).1.sum now d = total (w.covered log now d) % Counts.modulus := by
  have hshape : (w.run (log.map .add)).1.reset = w.reset := reset_run w _
  have hafter : 0 < (w.run (log.map .add)).1.size := by
    rw [size_of_reset hshape]
    exact hsize
  rw [(run_of_inOrder hclear hsize horder).1.sum_eq hafter, covered_congr hshape]

/-- **What overtakes a span comes a turn later.** -/
theorem turn_le_of_isOvertaken (hlast : ∀ b ∈ log, b.time ≤ now) {a : Addition}
    (h : w.IsOvertaken log a) : w.turn ≤ now - w.startOf a.time := by
  obtain ⟨b, hb, hslot, hlater⟩ := h
  have hturn := add_turn_le_startOf hslot.symm hlater
  have hspan := startOf_le w b.time
  have htime := hlast b hb
  omega

/-! ## Between two plain counts -/

/-- What a log adds up to in one dimension over the additions that are at most `age` old. -/
def recent (log : List Addition) (now age : Nat) (d : Dimension) : Nat :=
  total (log.filter fun a => a.dimension = d ∧ now - a.time ≤ age)

/-- More of a log adds up to more. -/
theorem total_filter_le {p q : Addition → Bool} (h : ∀ a ∈ log, p a = true → q a = true) :
    total (log.filter p) ≤ total (log.filter q) := by
  have hpart : log.filter p = (log.filter q).filter p := by
    rw [List.filter_filter]
    refine List.filter_congr fun a ha => ?_
    cases hp : p a with
    | false => rfl
    | true => rw [h a ha hp, Bool.and_true]
  rw [hpart]
  exact (List.filter_sublist.map _).sum_le_sum fun _ _ => Nat.zero_le _

/-- Nothing counts that is older than the interval. -/
theorem total_covered_le_recent (log : List Addition) (now : Nat) (d : Dimension) :
    total (w.covered log now d) ≤ recent log now w.interval d := by
  apply total_filter_le
  intro a _ hcounts
  obtain ⟨hd, -, hin, -⟩ := of_decide_eq_true hcounts
  have hspan := startOf_le w a.time
  exact decide_eq_true ⟨hd, by omega⟩

/-- Everything counts that is younger than the interval by a width. -/
theorem recent_le_total_covered (hw : w.Spans) (hfirst : ∀ a ∈ log, w.width ≤ a.time)
    (hlast : ∀ a ∈ log, a.time ≤ now) (d : Dimension) :
    recent log now (w.interval - w.width) d ≤ total (w.covered log now d) := by
  apply total_filter_le
  intro a ha hyoung
  obtain ⟨hd, hage⟩ := of_decide_eq_true hyoung
  have hspan := lt_startOf_add_width hw.width_pos a.time
  have htime := hlast a ha
  have hpositive := hw.width_pos
  have hwidth := hw.width_le
  have hpos : 0 < w.startOf a.time := by
    have hone := hfirst a ha
    rw [startOf_eq_mul]
    exact Nat.mul_pos (Nat.div_pos hone hw.width_pos) hw.width_pos
  -- the span started less than an interval ago, so its slot was not needed again
  have hkept : ¬w.IsOvertaken log a := by
    intro hovertaken
    have hturn := turn_le_of_isOvertaken hlast hovertaken
    have hlong := hw.interval_le
    omega
  exact decide_eq_true ⟨hd, hpos, by omega, hkept⟩

/-- **A window is accurate to the width of a bucket.** A window can be made of any number of buckets for any
    interval; they have the least width that covers the interval. Take a new window, or one that was
    just cleared after any operations, and additions at times that never go back and are not in the first
    span. None of them is refused. At any time from the last of them on, the sum counts every addition
    that is younger than the interval by at least one width, and none that is older than the interval. -/
theorem sum_accurate (count interval : Nat) (hcount : 0 < count) (hspan : 0 < interval) :
    ∃ first, ofInterval? count interval = .ok first ∧
      (∀ width, first.width ≤ width ↔ interval ≤ width * count) ∧
      ∀ w, (w = first ∨ ∃ past, w = (first.run past).1.reset) →
        ∀ log : List Addition, InOrder log → (∀ a ∈ log, first.width ≤ a.time) →
          (∀ answer ∈ (w.run (log.map .add)).2, answer = none) ∧
          ∀ now, (∀ a ∈ log, a.time ≤ now) → ∀ d, recent log now interval d < Counts.modulus →
            recent log now (interval - first.width) d ≤ (w.run (log.map .add)).1.sum now d ∧
            (w.run (log.map .add)).1.sum now d ≤ recent log now interval d := by
  obtain ⟨first, hmade⟩ := ofInterval?_eq_ok (Nat.ne_of_gt hcount) (Nat.ne_of_gt hspan)
  have hclear : first.reset = first := reset_ofInterval? hmade
  obtain ⟨hinterval, hwidth, -⟩ := shape_ofInterval? hmade
  refine ⟨first, hmade, fun width => ?_, fun w hw log horder hfirst => ?_⟩
  · rw [hwidth]
    exact ceilDiv_le_iff hcount
  · obtain rfl : w = first := eq_of_cleared hclear hw
    have hspans : w.Spans := spans_ofInterval? hmade
    refine ⟨(run_of_inOrder hclear hspans.size_pos horder).2, fun now hlast d hsmall => ?_⟩
    have hover := total_covered_le_recent (w := w) log now d
    have hunder := recent_le_total_covered hspans hfirst hlast d
    rw [hinterval] at hover hunder
    have hsum : (w.run (log.map .add)).1.sum now d = total (w.covered log now d) := by
      rw [sum_of_inOrder hclear hspans.size_pos horder,
        Nat.mod_eq_of_lt (Nat.lt_of_le_of_lt hover hsmall)]
    rw [hsum]
    exact ⟨hunder, hover⟩

/-- Additions to three buckets of four milliseconds each; the last takes the slot of the first. -/
def threeBucketLog : List Addition :=
  [⟨5, .request, 1⟩, ⟨9, .request, 2⟩, ⟨14, .request, 4⟩, ⟨17, .request, 8⟩]

/-- A window of three buckets for ten milliseconds counts the addition at 9 until its span is ten
    milliseconds old, at 18, and no longer a millisecond later. -/
theorem sum_accurate_three_ten :
    0 < 3 ∧ 0 < 10 ∧ ∃ first, ofInterval? 3 10 = .ok first ∧
      InOrder threeBucketLog ∧ (∀ a ∈ threeBucketLog, first.width ≤ a.time) ∧
      (∀ answer ∈ (first.run (threeBucketLog.map .add)).2, answer = none) ∧
      (12 ≤ (first.run (threeBucketLog.map .add)).1.sum 18 .request ∧
        (first.run (threeBucketLog.map .add)).1.sum 18 .request ≤ 14) ∧
      12 ≤ (first.run (threeBucketLog.map .add)).1.sum 19 .request ∧
        (first.run (threeBucketLog.map .add)).1.sum 19 .request ≤ 14 := by
  obtain ⟨first, hmade, -, haccurate⟩ := sum_accurate 3 10 (by decide) (by decide)
  have horder : InOrder threeBucketLog := by
    unfold InOrder
    decide
  have hfirst : ∀ a ∈ threeBucketLog, first.width ≤ a.time := by
    cases hmade
    decide
  obtain ⟨hanswers, hsum⟩ := haccurate first (.inl rfl) threeBucketLog horder hfirst
  have hthen := hsum 18 (by decide) .request (by decide)
  have hlater := hsum 19 (by decide) .request (by decide)
  refine ⟨by decide, by decide, first, hmade, horder, hfirst, hanswers, ?_⟩
  cases hmade
  exact ⟨hthen, hlater⟩

/-! ## At the time of the last addition -/

/-- **A time counts at a later one** if its span does not start at 0, lies in the window, and has not just
    given its slot to the span of the later time. -/
def Covers (w : Window) (now t : Nat) : Prop :=
  0 < w.startOf t ∧ now - w.startOf t ≤ w.interval ∧ w.startOf t ≠ w.startOf now - w.turn

instance (w : Window) (now t : Nat) : Decidable (w.Covers now t) :=
  inferInstanceAs (Decidable (_ ∧ _ ∧ _))

/-- **What a log covers at the time of its last addition.** A span in the window can only have been
    overtaken by the span of that last one, and only if it starts exactly a turn earlier. -/
theorem covered_of_inOrder (hw : w.Spans) (hlast : ∀ a ∈ log, a.time ≤ now)
    (hnow : ∃ b ∈ log, b.time = now) (d : Dimension) :
    w.covered log now d = log.filter fun a => a.dimension = d ∧ w.Covers now a.time := by
  have hturn : 0 < w.turn := Nat.mul_pos hw.size_pos hw.width_pos
  have hlong := hw.interval_le
  refine List.filter_congr fun a _ => ?_
  rw [decide_eq_decide]
  constructor
  · rintro ⟨hd, hpos, hin, hkept⟩
    refine ⟨hd, hpos, hin, fun hstart => hkept ?_⟩
    obtain ⟨b, hb, rfl⟩ := hnow
    have hapart : w.startOf a.time + w.turn = w.startOf b.time := by omega
    exact ⟨b, hb, (slotOf_eq_of_turn hw.width_pos hapart).symm, by omega⟩
  · rintro ⟨hd, hpos, hin, hother⟩
    refine ⟨hd, hpos, hin, ?_⟩
    rintro ⟨b, hb, hslot, hlater⟩
    have hapart := add_turn_le_startOf hslot.symm hlater
    have hspan := startOf_le w b.time
    have htime := hlast b hb
    -- the span that overtook it starts at `now`, the last moment at which the window reaches that far
    have hsame : w.startOf now = now := by
      have hmono := startOf_mono w htime
      have hle := startOf_le w now
      omega
    omega

end CircuitBreaker.Window

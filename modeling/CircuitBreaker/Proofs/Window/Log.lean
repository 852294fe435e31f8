import Mathlib.Algebra.GroupWithZero.Nat
import CircuitBreaker.Proofs.Window.Ring

/-!
# `Proofs.Window.Log` — a window counts like a plain log

A ring clears its slots lazily, in whatever order the times come. The plain account of the same thing
is a log: the additions that were taken, one after the other. From the log alone one can say

* which addition is refused: one whose slot has been given to a later span (`IsOvertaken`);
* what a sum counts: the additions of the dimension whose span lies in the window, was not overtaken
  and does not start at 0 (`covered`).

The ring is tied to the log by one relation, `Reflects`: each slot holds the latest span that was
counted in it, with what was counted in that span. An addition keeps the relation, whether it is taken
(`Reflects.write`) or refused, so a run does (`Reflects.run`); both facts about the log are then read
off the relation (`Reflects.overtaken_iff`, `Reflects.sum_eq`).

## Contents
- `Window.accepted`, `Window.IsOvertaken`, `Window.covered`, `Window.total`: the log.
- `Window.Reflects`: the relation, and what keeps it.
- `Window.total_eq_sum_slots`: a log, slot by slot.
- `Window.counts_like_log`: the window and the log agree.
-/

namespace CircuitBreaker.Window

/-! ## The log -/

/-- The additions that a window takes from a list of them, in order. -/
def accepted (w : Window) : List Addition → List Addition
  | [] => []
  | a :: rest =>
      match w.step (.add a) with
      | (v, none) => a :: v.accepted rest
      | (v, some _) => v.accepted rest

/-- Whether the slot of an addition went to a later span in the log. -/
def IsOvertaken (w : Window) (done : List Addition) (a : Addition) : Prop :=
  ∃ b ∈ done, w.slotOf b.time = w.slotOf a.time ∧ w.startOf a.time < w.startOf b.time

instance (w : Window) (done : List Addition) (a : Addition) : Decidable (w.IsOvertaken done a) :=
  inferInstanceAs (Decidable (∃ b ∈ done, _))

/-- The additions of a log that count in a dimension over the window before `now`. -/
def covered (w : Window) (done : List Addition) (now : Nat) (d : Dimension) : List Addition :=
  done.filter fun a =>
    a.dimension = d ∧ 0 < w.startOf a.time ∧ now - w.startOf a.time ≤ w.interval ∧
      ¬ w.IsOvertaken done a

/-- What a log adds up to. -/
def total (as : List Addition) : Nat := (as.map fun a => a.amount).sum

/-- What a log adds up to in one dimension, one slot and one span. -/
def held (w : Window) (done : List Addition) (slot start : Nat) (d : Dimension) : Nat :=
  total (done.filter fun a =>
    a.dimension = d ∧ w.slotOf a.time = slot ∧ w.startOf a.time = start)

@[simp]
theorem total_nil : total [] = 0 := rfl

@[simp]
theorem total_cons (a : Addition) (as : List Addition) : total (a :: as) = a.amount + total as := by
  simp [total]

@[simp]
theorem total_append (as bs : List Addition) : total (as ++ bs) = total as + total bs := by
  simp [total]

/-- One more addition counts in its own dimension, slot and span. -/
theorem held_append (w : Window) (done : List Addition) (a : Addition) (slot start : Nat)
    (d : Dimension) :
    w.held (done ++ [a]) slot start d =
      w.held done slot start d +
        if a.dimension = d ∧ w.slotOf a.time = slot ∧ w.startOf a.time = start then a.amount
        else 0 := by
  unfold held
  rw [List.filter_append, total_append]
  split <;> simp_all

/-- A span in which nothing was counted holds nothing. -/
theorem held_eq_zero {w : Window} {done : List Addition} {slot start : Nat}
    (h : ∀ a ∈ done, w.slotOf a.time = slot → w.startOf a.time ≠ start) (d : Dimension) :
    w.held done slot start d = 0 := by
  have none : (done.filter fun a =>
      a.dimension = d ∧ w.slotOf a.time = slot ∧ w.startOf a.time = start) = [] := by
    rw [List.filter_eq_nil_iff]
    intro a ha hall
    obtain ⟨-, hslot, hstart⟩ := of_decide_eq_true hall
    exact h a ha hslot hstart
  unfold held
  rw [none, total_nil]

/-- A log adds up in parts that share nothing. -/
theorem total_filter_or {p q : Addition → Bool} (as : List Addition)
    (h : ∀ a, p a = true → q a = false) :
    total (as.filter fun a => p a || q a) = total (as.filter p) + total (as.filter q) := by
  induction as with
  | nil => rfl
  | cons a rest ih =>
      cases hp : p a with
      | true =>
          have hq := h a hp
          simp only [List.filter_cons, hp, hq, Bool.true_or, if_true, total_cons, ih,
            Bool.false_eq_true, if_false]
          omega
      | false =>
          cases hq : q a with
          | true =>
              simp only [List.filter_cons, hp, hq, Bool.or_true, if_true, total_cons, ih,
                Bool.false_eq_true, if_false]
              omega
          | false => simp [hp, hq, ih]

/-- The first slots add up to what is in any of them. -/
theorem sum_slots (slotOf : Addition → Nat) (as : List Addition) (size : Nat) :
    ((List.range size).map fun slot => total (as.filter fun a => slotOf a = slot)).sum =
      total (as.filter fun a => slotOf a < size) := by
  induction size with
  | zero =>
      have hnone : (as.filter fun a => slotOf a < 0) = [] := by
        rw [List.filter_eq_nil_iff]
        intro a _ ha
        exact Nat.not_lt_zero _ (of_decide_eq_true ha)
      rw [hnone]
      rfl
  | succ size ih =>
      -- The next slot holds nothing that is in one of the earlier ones.
      have hapart : ∀ a, decide (slotOf a < size) = true → decide (slotOf a = size) = false := by
        intro a ha
        have hlt := of_decide_eq_true ha
        exact decide_eq_false (Nat.ne_of_lt hlt)
      have hnext : (as.filter fun a => slotOf a < size + 1) =
          as.filter fun a => decide (slotOf a < size) || decide (slotOf a = size) := by
        refine List.filter_congr fun a _ => ?_
        rw [← Bool.decide_or, decide_eq_decide]
        omega
      rw [List.range_succ, List.map_append, List.sum_append, ih, hnext, total_filter_or as hapart]
      simp

/-- **A log adds up slot by slot.** -/
theorem total_eq_sum_slots {slotOf : Addition → Nat} {size : Nat} {as : List Addition}
    (h : ∀ a ∈ as, slotOf a < size) :
    total as =
      ((List.range size).map fun slot => total (as.filter fun a => slotOf a = slot)).sum := by
  have hall : (as.filter fun a => slotOf a < size) = as := by
    rw [List.filter_eq_self]
    exact fun a ha => decide_eq_true (h a ha)
  rw [sum_slots, hall]

/-- Numbers may be cut to the width of the counts before they are added up. -/
theorem sum_map_mod {α : Type} (f : α → Nat) (as : List α) (m : Nat) :
    (as.map fun a => f a % m).sum % m = (as.map f).sum % m := by
  induction as with
  | nil => rfl
  | cons a rest ih =>
      simp only [List.map_cons, List.sum_cons]
      rw [Nat.add_mod, Nat.mod_mod, ih, ← Nat.add_mod]

/-! ## The ring and the log -/

/-- The window after an addition that it takes. -/
def write (w : Window) (a : Addition) : Window :=
  w.put (w.slotOf a.time)
    (((w.bucketAt (w.slotOf a.time)).rolledTo (w.startOf a.time)).count a.dimension a.amount)

/-- An addition is taken if its slot does not hold a later span, and otherwise refused. -/
theorem step_add {w : Window} (h : 0 < w.size) (a : Addition) :
    w.step (.add a) =
      if (w.bucketAt (w.slotOf a.time)).start ≤ w.startOf a.time then (w.write a, none)
      else (w, some .tooLate) := by
  simp only [step, add?_eq (slotOf_lt h a.time)]
  split <;> rfl

/-- The sum over a window, slot by slot. -/
theorem sum_eq_slots (w : Window) (now : Nat) (d : Dimension) :
    w.sum now d = ((List.range w.size).map fun slot =>
      if (w.bucketAt slot).isStale now w.interval then 0
      else (w.bucketAt slot).counts.get d).sum % Counts.modulus := by
  have hring : w.buckets = (List.range w.size).map w.bucketAt := by
    refine List.ext_getElem (by simp [size]) fun slot hslot _ => ?_
    simp [bucketAt, hslot]
  -- a stale bucket is passed over, which is to add nothing
  have hsum : ∀ (l : List Bucket) (n : Nat),
      (l.filter fun b => !b.isStale now w.interval).foldl (fun n b => n + b.counts.get d) n =
        n + (l.map fun b => if b.isStale now w.interval then 0 else b.counts.get d).sum := by
    intro l
    induction l with
    | nil => exact fun n => rfl
    | cons b rest ih =>
        intro n
        by_cases hb : b.isStale now w.interval
        · simp [hb, ih]
        · simp [hb, ih, Nat.add_assoc]
  unfold sum valid
  rw [hsum, Nat.zero_add, hring, List.map_map]
  rfl

/-- **The ring reflects the log** of the additions that were taken. -/
structure Reflects (w : Window) (done : List Addition) : Prop where
  /-- No span of a slot is later than the one it holds. -/
  latest : ∀ a ∈ done, w.startOf a.time ≤ (w.bucketAt (w.slotOf a.time)).start
  /-- A slot that holds a span got it from an addition. -/
  written : ∀ slot, (w.bucketAt slot).start = 0 ∨
    ∃ a ∈ done, w.slotOf a.time = slot ∧ w.startOf a.time = (w.bucketAt slot).start
  /-- A slot counts what was counted in its span, up to the width of the counts. -/
  counted : ∀ slot d, (w.bucketAt slot).counts.get d =
    w.held done slot (w.bucketAt slot).start d % Counts.modulus

/-- A clear window reflects the empty log. -/
theorem reflects_reset (w : Window) : w.reset.Reflects [] where
  latest := by
    intro a ha
    cases ha
  written := by
    intro slot
    left
    rw [bucketAt_reset]
  counted := by
    intro slot d
    rw [bucketAt_reset]
    simp [held]

namespace Reflects

variable {w : Window} {done : List Addition}

/-- Overtaken is what the slot of an addition has been given away to a later span. -/
theorem overtaken_iff (h : w.Reflects done) (a : Addition) :
    w.IsOvertaken done a ↔ w.startOf a.time < (w.bucketAt (w.slotOf a.time)).start := by
  constructor
  · rintro ⟨b, hb, hslot, hlater⟩
    have hle := h.latest b hb
    rw [hslot] at hle
    exact Nat.lt_of_lt_of_le hlater hle
  · intro hlater
    rcases h.written (w.slotOf a.time) with hzero | ⟨b, hb, hslot, hstart⟩
    · omega
    · refine ⟨b, hb, hslot, ?_⟩
      rw [hstart]
      exact hlater

/-- Once its slot made room for a span, the bucket counts what the log has in that span. Where the
    slot held an earlier span, the log has nothing in the new one yet. -/
theorem counted_rolledTo (h : w.Reflects done) {slot start : Nat}
    (hroom : (w.bucketAt slot).start ≤ start) (d : Dimension) :
    ((w.bucketAt slot).rolledTo start).counts.get d = w.held done slot start d % Counts.modulus := by
  by_cases hsame : (w.bucketAt slot).start = start
  · rw [← hsame, Bucket.rolledTo_self]
    exact h.counted slot d
  · have fresh : ∀ a ∈ done, w.slotOf a.time = slot → w.startOf a.time ≠ start := by
      intro a ha hslot hstart
      have hle := h.latest a ha
      rw [hslot] at hle
      omega
    rw [Bucket.rolledTo_of_ne hsame, held_eq_zero fresh]
    exact Counts.get_zero d

/-- **An addition that is taken** goes to the log as it goes to the ring. -/
theorem write (h : w.Reflects done) (hsize : 0 < w.size) {a : Addition}
    (hroom : (w.bucketAt (w.slotOf a.time)).start ≤ w.startOf a.time) :
    (w.write a).Reflects (done ++ [a]) := by
  -- The slot of the addition holds its span, every other slot holds what it held.
  have hself : (w.write a).bucketAt (w.slotOf a.time) =
      ((w.bucketAt (w.slotOf a.time)).rolledTo (w.startOf a.time)).count a.dimension a.amount :=
    bucketAt_put_self (slotOf_lt hsize a.time) _
  have hother : ∀ slot, slot ≠ w.slotOf a.time → (w.write a).bucketAt slot = w.bucketAt slot :=
    fun slot hne => bucketAt_put_ne w hne _
  have hslotOf : ∀ time, (w.write a).slotOf time = w.slotOf time := slotOf_put w _ _
  have hstartOf : ∀ time, (w.write a).startOf time = w.startOf time := startOf_put w _ _
  have hheld : ∀ slot start d,
      (w.write a).held (done ++ [a]) slot start d = w.held (done ++ [a]) slot start d := by
    intro slot start d
    simp only [held, hslotOf, hstartOf]
  constructor
  case latest =>
    intro b hb
    rw [hslotOf, hstartOf]
    by_cases hslot : w.slotOf b.time = w.slotOf a.time
    · rw [hslot, hself, Bucket.start_count, Bucket.start_rolledTo]
      rcases List.mem_append.mp hb with hold | hnew
      · have hle := h.latest b hold
        rw [hslot] at hle
        exact Nat.le_trans hle hroom
      · exact Nat.le_of_eq (by rw [List.mem_singleton.mp hnew])
    · rw [hother _ hslot]
      rcases List.mem_append.mp hb with hold | hnew
      · exact h.latest b hold
      · rw [List.mem_singleton.mp hnew] at hslot
        exact absurd rfl hslot
  case written =>
    intro slot
    by_cases hslot : slot = w.slotOf a.time
    · right
      refine ⟨a, List.mem_append_right _ (List.mem_singleton_self a), ?_, ?_⟩
      · rw [hslotOf, hslot]
      · rw [hstartOf, hslot, hself, Bucket.start_count, Bucket.start_rolledTo]
    · rw [hother slot hslot]
      rcases h.written slot with hzero | ⟨b, hb, hb', hstart⟩
      · exact .inl hzero
      · refine .inr ⟨b, List.mem_append_left _ hb, ?_, ?_⟩
        · rw [hslotOf, hb']
        · rw [hstartOf, hstart]
  case counted =>
    intro slot d
    rw [hheld, held_append]
    by_cases hslot : slot = w.slotOf a.time
    · subst hslot
      rw [hself, Bucket.start_count, Bucket.start_rolledTo, Bucket.counts_count, Counts.get_add,
        h.counted_rolledTo hroom]
      by_cases hd : a.dimension = d <;> simp [hd]
    · rw [hother slot hslot, h.counted slot d]
      simp [Ne.symm hslot]

/-- **A run of additions** takes the window and the log along. -/
theorem run (h : w.Reflects done) (hsize : 0 < w.size) (log : List Addition) :
    (w.run (log.map .add)).1.Reflects (done ++ w.accepted log) := by
  induction log generalizing w done with
  | nil => simpa [accepted] using h
  | cons a rest ih =>
      simp only [List.map_cons, run_cons_fst, accepted]
      rw [step_add hsize]
      split
      · rename_i hroom
        have hnext := ih (h.write hsize hroom) (by simpa [Window.write] using hsize)
        simpa using hnext
      · -- A refusal changes neither the ring nor the log.
        exact ih h hsize

/-! ## Sums -/

/-- Among the additions of one slot, those that count are the ones of the span that the slot holds, if
    that span lies in the window. -/
theorem covered_slot (h : w.Reflects done) (now slot : Nat) (d : Dimension) :
    (w.covered done now d).filter (fun a => w.slotOf a.time = slot) =
      if (w.bucketAt slot).isStale now w.interval then []
      else done.filter fun a =>
        a.dimension = d ∧ w.slotOf a.time = slot ∧ w.startOf a.time = (w.bucketAt slot).start := by
  have hstale := Bucket.isStale_iff (w.bucketAt slot) now w.interval
  unfold covered
  rw [List.filter_filter]
  split
  · -- An addition of the slot that was not overtaken has the span that the slot holds.
    rename_i hyes
    rw [List.filter_eq_nil_iff]
    intro a ha hall
    simp only [Bool.and_eq_true, decide_eq_true_eq] at hall
    obtain ⟨hslot, -, hpos, hin, hnot⟩ := hall
    have hle := h.latest a ha
    rw [h.overtaken_iff, hslot] at hnot
    rw [hslot] at hle
    have := hstale.mp hyes
    omega
  · rename_i hno
    refine List.filter_congr fun a ha => ?_
    rw [← Bool.decide_and, decide_eq_decide, h.overtaken_iff]
    constructor
    · rintro ⟨hslot, hd, -, -, hnot⟩
      have hle := h.latest a ha
      rw [hslot] at hle hnot
      exact ⟨hd, hslot, by omega⟩
    · rintro ⟨hd, hslot, hstart⟩
      rw [hslot]
      have := mt hstale.mpr hno
      exact ⟨rfl, hd, by omega, by omega, by omega⟩

/-- **A sum counts what the log covers**, up to the width of the counts. -/
theorem sum_eq (h : w.Reflects done) (hsize : 0 < w.size) (now : Nat) (d : Dimension) :
    w.sum now d = total (w.covered done now d) % Counts.modulus := by
  have hslots : ∀ a ∈ w.covered done now d, w.slotOf a.time < w.size :=
    fun a _ => slotOf_lt hsize a.time
  have hslot : ∀ slot,
      (if (w.bucketAt slot).isStale now w.interval then 0 else (w.bucketAt slot).counts.get d) =
        total ((w.covered done now d).filter fun a => w.slotOf a.time = slot) % Counts.modulus := by
    intro slot
    rw [h.covered_slot]
    split
    · rfl
    · exact h.counted slot d
  rw [sum_eq_slots, total_eq_sum_slots hslots]
  simp only [hslot]
  exact sum_map_mod _ _ _

end Reflects

/-! ## The window and the log agree -/

/-- What is overtaken in a log depends on the shape of the window only. -/
theorem isOvertaken_congr {v w : Window} (h : v.reset = w.reset) (done : List Addition)
    (a : Addition) : v.IsOvertaken done a ↔ w.IsOvertaken done a := by
  simp only [IsOvertaken, slotOf, startOf, width_of_reset h, size_of_reset h]

/-- What a log covers depends on the shape of the window only. -/
theorem covered_congr {v w : Window} (h : v.reset = w.reset) (done : List Addition) (now : Nat)
    (d : Dimension) : v.covered done now d = w.covered done now d := by
  refine List.filter_congr fun a _ => ?_
  rw [decide_eq_decide, isOvertaken_congr h, startOf, startOf, width_of_reset h,
    interval_of_reset h]

/-- **A window counts like a plain log.** A window can be made of any number of buckets for any interval;
    they have the least width that covers the interval. Take a new window, or one that was just cleared
    after any operations, and any additions to it, at times in any order. One more addition is refused exactly
    if its slot has gone to a later span, by an addition that was taken, and it changes nothing then.
    The sum over the window before `now` is what the additions that were taken amount to whose span
    does not start at 0, is at most `interval` old and was not overtaken in its slot. (A span that
    starts after `now` has the age 0 here.) -/
theorem counts_like_log (count interval : Nat) (hcount : 0 < count) (hspan : 0 < interval) :
    ∃ first, ofInterval? count interval = .ok first ∧ first.interval = interval ∧
      (∀ width, first.width ≤ width ↔ interval ≤ width * count) ∧
      (∀ time, first.startOf time = time - time % first.width ∧
        first.slotOf time = time / first.width % count) ∧
      ∀ w, (w = first ∨ ∃ past, w = (first.run past).1.reset) →
        ∀ log : List Addition,
          (∀ a, ((w.run (log.map .add)).1.step (.add a)).2 =
            if first.IsOvertaken (w.accepted log) a then some .tooLate else none) ∧
          (∀ a, first.IsOvertaken (w.accepted log) a →
            ((w.run (log.map .add)).1.step (.add a)).1 = (w.run (log.map .add)).1) ∧
          ∀ now d, total (first.covered (w.accepted log) now d) < Counts.modulus →
            (w.run (log.map .add)).1.sum now d = total (first.covered (w.accepted log) now d) := by
  obtain ⟨first, hfirst⟩ := ofInterval?_eq_ok (Nat.ne_of_gt hcount) (Nat.ne_of_gt hspan)
  have hclear : first.reset = first := reset_ofInterval? hfirst
  obtain ⟨hinterval, hwidth, hsize⟩ := shape_ofInterval? hfirst
  refine ⟨first, hfirst, hinterval, fun width => ?_, fun time => ?_, fun w hw log => ?_⟩
  · rw [hwidth]
    exact ceilDiv_le_iff hcount
  · rw [startOf, slotOf, hsize]
    exact ⟨rfl, rfl⟩
  · -- A window that was just cleared is the new one again, and that one reflects the empty log.
    have hnew : w = first := by
      rcases hw with rfl | ⟨past, rfl⟩
      · rfl
      · rw [reset_run, hclear]
    subst hnew
    have hpos : 0 < w.size := by rw [hsize]; exact hcount
    have hempty : w.Reflects [] := hclear ▸ reflects_reset w
    have hall : (w.run (log.map .add)).1.Reflects (w.accepted log) := hempty.run hpos log
    have hshape : (w.run (log.map .add)).1.reset = w.reset := reset_run w _
    have hrun : 0 < (w.run (log.map .add)).1.size := by rw [size_of_reset hshape]; exact hpos
    refine ⟨fun a => ?_, fun a ha => ?_, fun now d hsmall => ?_⟩
    · rw [step_add hrun]
      simp only [← isOvertaken_congr hshape, hall.overtaken_iff]
      split <;> split <;> first | rfl | omega
    · rw [← isOvertaken_congr hshape, hall.overtaken_iff] at ha
      rw [step_add hrun, if_neg (Nat.not_le.mpr ha)]
    · rw [hall.sum_eq hrun, covered_congr hshape, Nat.mod_eq_of_lt hsmall]

/-- Three buckets for ten milliseconds are four milliseconds wide. The time 17 takes the slot of the
    time 5, so that 6 is refused there; at 18, the span from 8 still counts. -/
theorem counts_like_log_three_ten :
    0 < 3 ∧ 0 < 10 ∧ ∃ first, ofInterval? 3 10 = .ok first ∧
      ∃ log : List Addition,
        log = [⟨5, .request, 1⟩, ⟨17, .request, 2⟩, ⟨9, .request, 8⟩] ∧
        ((first.run (log.map .add)).1.step (.add ⟨6, .request, 4⟩)).2 = some .tooLate ∧
        (first.run (log.map .add)).1.sum 18 .request = 10 := by
  obtain ⟨first, hfirst, -, -, -, hlog⟩ := counts_like_log 3 10 (by decide) (by decide)
  obtain ⟨hanswer, -, hsum⟩ := hlog first (.inl rfl)
    [⟨5, .request, 1⟩, ⟨17, .request, 2⟩, ⟨9, .request, 8⟩]
  refine ⟨by decide, by decide, first, hfirst, _, rfl, ?_, ?_⟩
  · rw [hanswer]
    cases hfirst
    decide
  · have hcovered := hsum 18 .request
    cases hfirst
    exact hcovered (by decide)

end CircuitBreaker.Window

import CircuitBreaker.Proofs.Circuit.Effect
import CircuitBreaker.Proofs.Rule.Validity

/-!
# `Proofs.Circuit.Deadline` — a circuit lets trial calls through again

An open circuit waits for the end of its sleep window, and a half-open one whose slots are all taken for
the deadline of its trial calls. Both times are worked out from the time of some operation, and times may
come in any order, so a single late time could keep a resource waiting for long. It cannot keep it waiting
for longer than that: when all times so far are at most `last`, both waits are over one sleep window after
`last` (`Dated`), however many trial calls never came back. Whoever asks then finds the circuit half
open with a slot free (`lets_through`).

The invariant is shown for entering a phase and then for each operation, as what `Circuit.enter` does with
the time depends on the phase that is entered.
-/

namespace CircuitBreaker.Circuit

/-- The time that an operation is made at, if it has one. -/
def Op.time? : Op → Option Nat
  | .report _ now | .evaluate now | .touch now => some now
  | .trip _ now | .startProbing now | .reopen _ now | .recover now => some now
  | .acquireProbe | .releaseProbe | .destroy => none

/-- **Nothing of a circuit lies further ahead than one sleep window after a time**: neither the end of
    its wait nor the deadline of its trial calls. -/
structure Dated (last : Nat) (c : Circuit) : Prop where
  since_le : c.status.since ≤ last
  probeDeadline_le : c.probeDeadline ≤ last + c.rule.recovery.sleepWindow

variable {c : Circuit} {op : Op} {o : Outcome} {last now : Nat}

/-! ## Entering a phase -/

theorem dated_enter (target : Phase) (reason : String) (h : c.Dated last) (hnow : now ≤ last) :
    (c.enter target reason now).Dated last := by
  have hsince : (c.enter target reason now).status.since = now := by cases target <;> rfl
  constructor
  · rw [hsince]
    exact hnow
  · rw [probeDeadline_enter, rule_enter]
    split
    · have hafter := Clock.after_le_add now c.rule.recovery.sleepWindow
      omega
    · exact h.probeDeadline_le

theorem dated_move (source target : Phase) (reason : String) (h : c.Dated last) (hnow : now ≤ last) :
    (c.move source target reason now).1.Dated last := by
  unfold move
  split
  · exact dated_enter target reason h hnow
  · exact h

/-! ## One operation -/

theorem dated_touch (t : Nat) (h : c.Dated last) : (c.touch t).Dated last :=
  ⟨h.since_le, h.probeDeadline_le⟩

theorem dated_reportClosed (h : c.Dated last) (hnow : now ≤ last) :
    (c.reportClosed o now).1.Dated last := by
  unfold reportClosed
  cases recordAll c.blocks now o with
  | mk blocks reason =>
      have hcounted : Dated last { c with blocks } := ⟨h.since_le, h.probeDeadline_le⟩
      cases reason with
      | none => exact hcounted
      | some reason => exact dated_move .closed .opened reason hcounted hnow

theorem dated_reportProbe (h : c.Dated last) (hnow : now ≤ last) :
    (c.reportProbe o now).1.Dated last := by
  unfold reportProbe
  simp only
  cases c.probe.finish (c.blocks.find? fun b => b.isProbeFailure o).isNone with
  | mk probe conclusion =>
      have hfinished : Dated last { c with probe } := ⟨h.since_le, h.probeDeadline_le⟩
      cases conclusion with
      | pending => exact hfinished
      | close => exact dated_move .halfOpen .closed _ hfinished hnow
      | reopen => exact dated_move .halfOpen .opened _ hfinished hnow

theorem dated_report (h : c.Dated last) (hnow : now ≤ last) : (c.report o now).1.Dated last := by
  unfold report
  split
  · exact h
  · simp only [phase_touch]
    cases c.phase with
    | closed => exact dated_reportClosed (dated_touch now h) hnow
    | halfOpen => exact dated_reportProbe (dated_touch now h) hnow
    | opened => exact dated_touch now h
    | destroyed => exact dated_touch now h

theorem dated_releaseLost (h : c.Dated last) (hnow : now ≤ last) : (c.releaseLost now).Dated last := by
  unfold releaseLost
  split
  · have hafter := Clock.after_le_add now c.rule.recovery.sleepWindow
    exact ⟨h.since_le, Nat.le_trans hafter (Nat.add_le_add_right hnow _)⟩
  · exact h

theorem dated_evaluate (h : c.Dated last) (hnow : now ≤ last) : (c.evaluate now).1.Dated last := by
  unfold evaluate
  cases c.phase with
  | closed =>
      cases c.check now with
      | none => exact h
      | some reason => exact dated_move .closed .opened reason h hnow
  | opened =>
      cases c.hasSlept now with
      | false => exact h
      | true => exact dated_move .opened .halfOpen _ h hnow
  | halfOpen => exact dated_releaseLost h hnow
  | destroyed => exact h

/-- **An operation that is made in time keeps everything in time.** -/
theorem dated_step (h : c.Dated last) (htime : ∀ t ∈ op.time?, t ≤ last) :
    (c.step op).1.Dated last := by
  cases op with
  | report o now => exact dated_report h (htime now rfl)
  | evaluate now => exact dated_evaluate h (htime now rfl)
  | acquireProbe =>
      simp only [step]
      cases hacquired : c.acquireProbe? with
      | none => exact h
      | some d =>
          unfold acquireProbe? at hacquired
          split at hacquired
          · obtain ⟨probe, _, rfl⟩ := Option.map_eq_some_iff.mp hacquired
            exact ⟨h.since_le, h.probeDeadline_le⟩
          · cases hacquired
  | releaseProbe => exact ⟨h.since_le, h.probeDeadline_le⟩
  | touch now => exact dated_touch now h
  | destroy =>
      simp only [step, destroy]
      split
      · exact h
      · exact ⟨h.since_le, h.probeDeadline_le⟩
  | trip reason now => exact dated_move .closed .opened reason h (htime now rfl)
  | startProbing now => exact dated_move .opened .halfOpen _ h (htime now rfl)
  | reopen reason now => exact dated_move .halfOpen .opened reason h (htime now rfl)
  | recover now => exact dated_move .halfOpen .closed _ h (htime now rfl)

/-! ## Every run -/

theorem dated_run (h : c.Dated last) (ops : List Op) (htimes : ∀ op ∈ ops, ∀ t ∈ op.time?, t ≤ last) :
    (c.run ops).1.Dated last := by
  induction ops generalizing c with
  | nil => exact h
  | cons op rest ih =>
      have hstep := dated_step h (htimes op List.mem_cons_self)
      exact ih hstep fun q hq => htimes q (List.mem_cons_of_mem op hq)

/-- **A circuit whose times are past is half open after it is looked at**, with no slot taken. -/
theorem evaluate_of_dated (h : c.Dated last) (hp : c.phase = .opened ∨ c.phase = .halfOpen)
    (hnow : last + c.rule.recovery.sleepWindow ≤ now) :
    (c.evaluate now).1.phase = .halfOpen ∧ (c.evaluate now).1.probe.inFlight = 0 := by
  unfold evaluate
  rcases hp with hp | hp
  · -- the sleep window is over, and all slots are free in a circuit that becomes half open
    have hslept : c.hasSlept now = true := by
      have hafter := Clock.after_le_add c.status.since c.rule.recovery.sleepWindow
      have hsince := h.since_le
      unfold hasSlept
      rw [decide_eq_true_eq]
      omega
    simp only [hp, hslept, if_true, startProbing, move_of_phase .halfOpen _ now hp]
    exact ⟨phase_enter _ _ _ _, rfl⟩
  · -- the deadline is over, so whatever is still taken is given up
    simp only [hp]
    have hlost : c.probeDeadline ≤ now := Nat.le_trans h.probeDeadline_le hnow
    unfold releaseLost
    by_cases htaken : 0 < c.probe.inFlight
    · rw [if_pos ⟨hlost, htaken⟩]
      exact ⟨hp, rfl⟩
    · rw [if_neg fun hboth => htaken hboth.2]
      exact ⟨hp, Nat.eq_zero_of_not_pos htaken⟩

/-- A half-open circuit with a slot free lets a trial call through. -/
theorem acquireProbe_done (hp : c.phase = .halfOpen) (hfree : c.probe.inFlight < c.probe.bound) :
    (c.step .acquireProbe).2.done = true := by
  simp [step, acquireProbe?, hp, Probe.acquire?, hfree]

/-- **No circuit waits for ever.** Take a valid rule, settings that let trial calls through, and any
    operations at times up to `last`, in any order. If the circuit is open or half open after them, then
    at any time that is a sleep window later, it is half open once it is looked at and lets a trial call
    through, however many were let through before and never came back. -/
theorem lets_through {f : Compiler} {s : CircuitSettings} {resource : Resource} {rule : Rule}
    {blocks : List BlockRule} {start : Nat} {cache : PatternCache} {ops : List Op}
    {g : Compiler} (hv : rule.isValid g = true) (hs : 0 < s.probes)
    (h : (build? f s resource rule blocks start cache).1 = .ok c) (hstart : start ≤ last)
    (htimes : ∀ op ∈ ops, ∀ t ∈ op.time?, t ≤ last)
    (hp : (c.run ops).1.phase = .opened ∨ (c.run ops).1.phase = .halfOpen)
    (hnow : last + rule.recovery.sleepWindow ≤ now) :
    let d := ((c.run ops).1.evaluate now).1
    d.phase = .halfOpen ∧ (d.step .acquireProbe).2.done = true := by
  intro d
  obtain ⟨bs, _, hbuilt⟩ := exists_of_build? h
  have hdated : (c.run ops).1.Dated last := by
    refine dated_run ?_ ops htimes
    rw [hbuilt]
    exact ⟨hstart, Nat.zero_le _⟩
  -- neither the rule nor the number of slots is ever changed
  have hblank : d.blank = c.blank :=
    (blank_effect (effect_evaluate now)).trans (blank_run c ops)
  have hrule : (c.run ops).1.rule = rule := by
    obtain ⟨_, hrule, _, _⟩ := blank_eq_iff.mp (blank_run c ops)
    rw [hrule, hbuilt]
    rfl
  have hbound : d.probe.bound = rule.recovery.probes.getD s.probes := by
    obtain ⟨_, _, _, hprobe⟩ := blank_eq_iff.mp hblank
    rw [hbuilt] at hprobe
    exact congrArg Probe.bound hprobe
  have hslots : 0 < rule.recovery.probes.getD s.probes := by
    obtain ⟨_, _, _, hrecovery, _⟩ := Rule.isValid_iff.mp hv
    have hprobes := (Recovery.check_eq_ok_iff.mp hrecovery).2.2
    cases hcase : rule.recovery.probes with
    | none => exact hs
    | some n => exact Nat.pos_of_ne_zero fun hzero => hprobes (hzero ▸ hcase)
  obtain ⟨hphase, hfree⟩ := evaluate_of_dated hdated hp (hrule.symm ▸ hnow)
  refine ⟨hphase, acquireProbe_done hphase ?_⟩
  rw [hfree, hbound]
  exact hslots

/-- Trial calls that are lost one after the other, at times that go back and forth. -/
def lostTrials : List Op :=
  [.report (sampleOutcome .fail) 900, .report (sampleOutcome .fail) 3, .evaluate 1003, .acquireProbe,
    .touch 2500, .evaluate 2003, .acquireProbe, .acquireProbe, .report (sampleOutcome .reject) 2400]

/-- The last of them holds the only slot until 3003, and a trial call is let through at 3500. -/
theorem sample_lets_through :
    sampleRule.isValid standardCompiler = true ∧
    (build? standardCompiler { buckets := 10, probes := 3 } sample.resource sampleRule
      sampleRule.blocks 0 (PatternCache.ofCapacity 16)).1 = .ok sample ∧
    (∀ op ∈ lostTrials, ∀ t ∈ op.time?, t ≤ 2500) ∧
    (let c := (sample.run lostTrials).1
     c.phase = .halfOpen ∧ c.probeDeadline = 3003 ∧ (c.step .acquireProbe).2.done = false) ∧
    (let d := ((sample.run lostTrials).1.evaluate 3500).1
     d.phase = .halfOpen ∧ (d.step .acquireProbe).2.done = true) := by
  have hv : sampleRule.isValid standardCompiler = true := by decide
  have h : (build? standardCompiler { buckets := 10, probes := 3 } sample.resource sampleRule
      sampleRule.blocks 0 (PatternCache.ofCapacity 16)).1 = .ok sample := rfl
  have htimes : ∀ op ∈ lostTrials, ∀ t ∈ op.time?, t ≤ 2500 := by
    simp [lostTrials, Op.time?]
  have hwaits : (sample.run lostTrials).1.phase = .halfOpen := by decide
  have hthrough := lets_through hv (by decide) h (by decide) htimes (Or.inr hwaits)
    (show 2500 + sampleRule.recovery.sleepWindow ≤ 3500 by decide)
  exact ⟨hv, h, htimes, ⟨hwaits, by decide, by decide⟩, hthrough⟩

end CircuitBreaker.Circuit

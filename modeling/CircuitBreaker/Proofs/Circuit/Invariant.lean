import CircuitBreaker.Circuit.Watched
import CircuitBreaker.Proofs.Circuit.Effect

/-!
# `Proofs.Circuit.Invariant` — what holds of a circuit at all times

Phase, limiter and blocks are changed by different operations and meet again at every change of phase.
The invariant is different for each phase, since an open circuit keeps the counts of the trial calls
that opened it:

* a closed circuit has no trial calls, and every streak of errors is below its limit;
* a half-open one has fewer successes than it needs;
* in any phase, no more slots are taken than there are, and an answer for callers is known exactly
  while the circuit is open.

`consistent_effect` keeps it over one effect. It needs limits above zero, which is what the check of a
rule is for (`workable_of_build?`).
-/

namespace CircuitBreaker.Circuit

/-- A circuit that **can work**: every streak is below its limit once cleared, and recovery needs a
    success. -/
structure Workable (c : Circuit) : Prop where
  isShort : ∀ b ∈ c.blocks, b.reset.IsShort
  needed_pos : 0 < c.probe.needed

/-- The limits of streaks never change. -/
theorem isShort_congr {c d : Circuit} (h : d.blank = c.blank)
    (hc : ∀ b ∈ c.blocks, b.reset.IsShort) : ∀ b ∈ d.blocks, b.reset.IsShort := by
  obtain ⟨_, _, hblocks, _⟩ := blank_eq_iff.mp h
  intro b hb
  have hmem : b.reset ∈ c.blocks.map Block.reset := hblocks ▸ List.mem_map_of_mem hb
  obtain ⟨b', hb', heq⟩ := List.mem_map.mp hmem
  exact heq ▸ hc b' hb'

/-- Whether a circuit can work depends on what never changes. -/
theorem workable_congr {c d : Circuit} (h : d.blank = c.blank) (hc : c.Workable) : d.Workable := by
  obtain ⟨_, _, _, hp⟩ := blank_eq_iff.mp h
  have hn : d.probe.reset.needed = c.probe.reset.needed := congrArg Probe.needed hp
  exact ⟨isShort_congr h hc.isShort, Nat.lt_of_lt_of_eq hc.needed_pos hn.symm⟩

/-- **The invariant**: what holds of a circuit in each of its phases. -/
structure Consistent (c : Circuit) : Prop where
  inFlight_le : c.probe.inFlight ≤ c.probe.bound
  /-- A closed circuit has no trial calls and is not about to open. -/
  closed : c.phase = .closed →
    c.probe.inFlight = 0 ∧ c.probe.successes = 0 ∧ ∀ b ∈ c.blocks, b.IsShort
  /-- A half-open circuit is not about to close. -/
  halfOpen : c.phase = .halfOpen → c.probe.successes < c.probe.needed
  fallback : c.status.fallback = if c.phase = .opened then c.rule.fallback? else none

/-! ## One effect -/

/-- Trial calls come back to a limiter that stays within its bound. -/
theorem inFlight_finish_le {p : Probe} (success : Bool) (h : p.inFlight ≤ p.bound) :
    (p.finish success).1.inFlight ≤ (p.finish success).1.bound := by
  have hr : p.inFlight - 1 ≤ p.bound := by omega
  cases success <;> exact hr

/-- **Entering a phase makes the invariant hold there**, whatever phase the circuit comes from. -/
theorem consistent_enter {c : Circuit} (hw : c.Workable) (hi : c.probe.inFlight ≤ c.probe.bound)
    (target : Phase) (reason : String) (now : Nat) : (c.enter target reason now).Consistent := by
  have hfb : (c.enter target reason now).status.fallback =
      if (c.enter target reason now).phase = .opened then
        (c.enter target reason now).rule.fallback?
      else none := by
    rw [fallback_enter, phase_enter, rule_enter]
  cases target with
  | closed =>
      refine ⟨Nat.zero_le _, fun _ => ⟨rfl, rfl, ?_⟩, (fun h => by cases h), hfb⟩
      intro b hb
      obtain ⟨b', hb', rfl⟩ := List.mem_map.mp hb
      exact hw.isShort b' hb'
  | opened => exact ⟨hi, (fun h => by cases h), (fun h => by cases h), hfb⟩
  | halfOpen => exact ⟨Nat.zero_le _, (fun h => by cases h), fun _ => hw.needed_pos, hfb⟩
  | destroyed => exact ⟨hi, (fun h => by cases h), (fun h => by cases h), hfb⟩

/-- **Every effect keeps the invariant.** -/
theorem consistent_effect {c d : Circuit} {op : Op} {t : Option Transition} (he : Effect c op d t)
    (hw : c.Workable) (hc : c.Consistent) : d.Consistent := by
  cases he with
  | nothing => exact hc
  | touched now => exact ⟨hc.inFlight_le, hc.closed, hc.halfOpen, hc.fallback⟩
  | counted o now hp hq =>
      obtain ⟨h0, hs, _⟩ := hc.closed hp
      refine ⟨hc.inFlight_le, fun _ => ⟨h0, hs, ?_⟩, hc.halfOpen, hc.fallback⟩
      intro b hb
      obtain ⟨b', hb', rfl⟩ := List.mem_map.mp hb
      exact Block.isShort_record (hw.isShort b' hb') (hq b' hb')
  | tripped o reason now hp =>
      exact consistent_enter (workable_congr (blank_counting c o now) hw) hc.inFlight_le _ _ _
  | succeeded o now hp hs =>
      -- the success that was missing would have closed the circuit
      have hphase : (c.finishing true now).phase = .halfOpen := hp
      refine ⟨inFlight_finish_le true hc.inFlight_le, fun h => ?_, fun _ => hs, hc.fallback⟩
      rw [hphase] at h
      cases h
  | concluded o success target reason now hp _ =>
      exact consistent_enter (workable_congr (blank_finishing c success now) hw)
        (inFlight_finish_le success hc.inFlight_le) _ _ _
  | gaveUp now hp _ =>
      refine ⟨Nat.zero_le _, fun h => ?_, hc.halfOpen, hc.fallback⟩
      rw [show c.phase = .closed from h] at hp
      cases hp
  | acquired probe hp ha =>
      unfold Probe.acquire? at ha
      split at ha
      · rename_i hlt
        cases ha
        refine ⟨hlt, fun h => ?_, hc.halfOpen, hc.fallback⟩
        rw [show c.phase = .closed from h] at hp
        cases hp
      · cases ha
  | released =>
      refine ⟨Nat.le_trans (Nat.sub_le _ 1) hc.inFlight_le, fun h => ?_, hc.halfOpen, hc.fallback⟩
      obtain ⟨h0, hs, hb⟩ := hc.closed h
      exact ⟨by rw [show c.releaseProbe.probe.inFlight = c.probe.inFlight - 1 from rfl, h0], hs, hb⟩
  | moved target reason now _ => exact consistent_enter hw hc.inFlight_le _ _ _
  | destroyed =>
      unfold destroy
      split
      · exact hc
      · exact ⟨hc.inFlight_le, (fun h => by cases h), (fun h => by cases h), rfl⟩

/-! ## Every run -/

/-- The invariant holds after every run from a circuit of which it holds. -/
theorem consistent_run {c : Circuit} (hw : c.Workable) (hc : c.Consistent) (ops : List Op) :
    (c.run ops).1.Consistent :=
  (run_invariant (P := fun d => d.Workable ∧ d.Consistent)
    (fun he h => ⟨workable_congr (blank_effect he) h.1, consistent_effect he h.1 h.2⟩)
    ⟨hw, hc⟩ ops).2

section Build

variable {f : Compiler} {s : CircuitSettings} {resource : Resource} {rule : Rule}
  {blocks : List BlockRule} {now : Nat} {cache : PatternCache} {c : Circuit}

/-- Conditions that pass their checks make circuits with limits above zero. -/
theorem isShort_of_build? (hvalid : ∀ r ∈ blocks, ∀ cond ∈ r.triggers, cond.check = .ok ())
    (h : (build? f s resource rule blocks now cache).1 = .ok c) : ∀ b ∈ c.blocks, b.reset.IsShort := by
  obtain ⟨bs, hbs, rfl⟩ := exists_of_build? h
  intro b hb
  rw [Block.reset_of_mem_buildAll? hbs hb]
  exact Block.isShort_buildAll? hvalid hbs b hb

/-- **A rule that passes its check makes circuits that can work.** -/
theorem workable_of_build? {g : Compiler} (hv : rule.isValid g = true) (hb : blocks ⊆ rule.blocks)
    (h : (build? f s resource rule blocks now cache).1 = .ok c) : c.Workable := by
  obtain ⟨_, _, hblocks, hrecovery, _⟩ := Rule.isValid_iff.mp hv
  constructor
  · refine isShort_of_build? (fun r hr => ?_) h
    exact (BlockRule.check_eq_ok_iff.mp (hblocks r (hb hr))).2.1
  · obtain ⟨bs, _, rfl⟩ := exists_of_build? h
    exact Nat.pos_of_ne_zero (Recovery.check_eq_ok_iff.mp hrecovery).2.1

/-- The invariant holds of a new circuit. -/
theorem consistent_of_build? (hw : c.Workable)
    (h : (build? f s resource rule blocks now cache).1 = .ok c) : c.Consistent := by
  obtain ⟨bs, hbs, rfl⟩ := exists_of_build? h
  refine ⟨Nat.zero_le _, fun _ => ⟨rfl, rfl, ?_⟩, (fun hp => by cases hp), rfl⟩
  intro b hb
  rw [← Block.reset_of_mem_buildAll? hbs hb]
  exact hw.isShort b hb

/-- What the rule says about callers, spelled out. -/
theorem fallback?_eq_some_iff {rule : Rule} {r : Response} :
    rule.fallback? = some r ↔
      ∃ fb, rule.fallback = some fb ∧ fb.enabled = true ∧ fb.response = r := by
  unfold Rule.fallback?
  cases rule.fallback with
  | none => simp
  | some fb => by_cases he : fb.enabled = true <;> simp [he]

/-- **A circuit keeps within its limits.** Take a valid rule, any of its block rules, any listeners and
    any operations at any times. At the end of them
    * no more slots are taken than the rule, or else the settings, allow;
    * a closed circuit has no slot taken, no success counted, and every streak below its limit;
    * a half-open circuit needs at least one success more;
    * an answer for callers is known exactly if the circuit is open and the rule has one in use, and
      it is the rule's. -/
theorem watchedRun_within_limits {g : Compiler} (hv : rule.isValid g = true) (hb : blocks ⊆ rule.blocks)
    (h : (build? f s resource rule blocks now cache).1 = .ok c) (ls : List Listener)
    (ops : List Op) :
    let d := (c.watchedRun ls ops).1
    d.probe.inFlight ≤ rule.recovery.probes.getD s.probes ∧
    (d.phase = .closed → d.probe.inFlight = 0 ∧ d.probe.successes = 0 ∧
      ∀ b ∈ d.blocks, ∀ limit errors, Trigger.streak limit errors ∈ b.triggers →
        errors < limit) ∧
    (d.phase = .halfOpen → d.probe.successes < rule.recovery.successes) ∧
    (∀ r, d.status.fallback = some r ↔
      d.phase = .opened ∧ ∃ fb, rule.fallback = some fb ∧ fb.enabled = true ∧ fb.response = r) := by
  intro d
  have hw : c.Workable := workable_of_build? hv hb h
  have hd : d.Consistent := by
    simpa only [d, watchedRun_fst] using consistent_run hw (consistent_of_build? hw h) ops
  -- the limits of the rule are those that the circuit was built with
  have hblank : d.blank = c.blank := by
    simp only [d, watchedRun_fst, blank_run]
  obtain ⟨bs, _, rfl⟩ := exists_of_build? h
  obtain ⟨_, hrule, _, hprobe⟩ := blank_eq_iff.mp hblank
  have hbound : d.probe.bound = rule.recovery.probes.getD s.probes := congrArg Probe.bound hprobe
  have hneeded : d.probe.needed = rule.recovery.successes := congrArg Probe.needed hprobe
  refine ⟨hbound ▸ hd.inFlight_le, fun hp => ?_, fun hp => hneeded ▸ hd.halfOpen hp, fun r => ?_⟩
  · obtain ⟨h0, hs, hshort⟩ := hd.closed hp
    exact ⟨h0, hs, fun b hbd limit errors ht => hshort b hbd _ ht⟩
  · rw [hd.fallback, hrule]
    by_cases hp : d.phase = .opened
    · rw [if_pos hp]
      exact fallback?_eq_some_iff.trans (and_iff_right hp).symm
    · simp [hp]

end Build

/-- The sample circuit, half open with its only slot taken, is such a circuit. -/
theorem sample_within_limits :
    sampleRule.isValid standardCompiler = true ∧ sampleRule.blocks ⊆ sampleRule.blocks ∧
    (build? standardCompiler { buckets := 10, probes := 3 } sample.resource sampleRule
      sampleRule.blocks 0 (PatternCache.ofCapacity 16)).1 = .ok sample ∧
    (let d := (sample.watchedRun [Listener.recorder "log"] sampleOps).1
     d.phase = .halfOpen ∧ d.probe.inFlight = 1 ∧ d.probe.inFlight ≤ 1 ∧
      d.probe.successes < 1) := by
  have hv : sampleRule.isValid standardCompiler = true := by decide
  have hb : sampleRule.blocks ⊆ sampleRule.blocks := List.Subset.refl _
  have h : (build? standardCompiler { buckets := 10, probes := 3 } sample.resource sampleRule
      sampleRule.blocks 0 (PatternCache.ofCapacity 16)).1 = .ok sample := rfl
  have limits := watchedRun_within_limits hv hb h [Listener.recorder "log"] sampleOps
  have hp : ((sample.watchedRun [Listener.recorder "log"] sampleOps).1).phase = .halfOpen := by
    decide
  exact ⟨hv, hb, h, hp, by decide, limits.1, limits.2.2.1 hp⟩

end CircuitBreaker.Circuit

import CircuitBreaker.Proofs.Circuit.Prompt
import CircuitBreaker.Proofs.Engine.Isolation
import CircuitBreaker.Proofs.Engine.Validity

/-!
# `Proofs.Engine.Repetition` — a tick that is repeated does nothing

Time moves a circuit by what it finds in it, and each move puts what comes next into the future: a
circuit that opens sleeps from now on, one that becomes half open has no slot taken, and one that gave up
its lost trial calls has none left. So once it was looked at, a circuit **rests** at that time
(`rests_evaluate`). A sweep sets its clock to now, and the next one is a period later
(`sweepIfDue_sweepIfDue`). Both need a wait that is not zero, which is what the checks of rules and
settings are for, and a time after now.

The engine looks at each circuit once in a tick. What it leaves behind rests, so nothing is left for a
second tick at the same time, whatever the order of the resources (`tickAlong_tickAlong`).
-/

namespace CircuitBreaker

namespace Circuit

variable {c : Circuit} {now : Nat}

/-! ## One circuit -/

/-- **A circuit rests at a time** if looking at it then changes nothing. -/
def Rests (now : Nat) (c : Circuit) : Prop := c.evaluate now = (c, none)

/-- A circuit that has just opened goes on sleeping. -/
theorem rests_enter_opened (hwindow : 0 < c.rule.recovery.sleepWindow) (hnow : now < Clock.latest)
    (reason : String) : (c.enter .opened reason now).Rests now := by
  have hsleeps : (c.enter .opened reason now).hasSlept now = false := by
    have hlater := Clock.lt_after hwindow hnow
    show decide (Clock.after now c.rule.recovery.sleepWindow ≤ now) = false
    exact decide_eq_false (by omega)
  unfold Rests evaluate
  rw [phase_enter]
  simp only [hsleeps, Bool.false_eq_true, if_false]

/-- With no slot taken there is nothing to give up. -/
theorem rests_of_no_slots (hp : c.phase = .halfOpen) (hnone : c.probe.inFlight = 0) :
    c.Rests now := by
  unfold Rests evaluate releaseLost
  rw [hp]
  simp [hnone]

/-- **A circuit rests once it was looked at.** -/
theorem rests_evaluate (hwindow : 0 < c.rule.recovery.sleepWindow) (hnow : now < Clock.latest) :
    (c.evaluate now).1.Rests now := by
  -- either nothing happens, and nothing happens again, or what happens next lies ahead
  have again (h : c.evaluate now = (c, none)) : (c.evaluate now).1.Rests now := by
    rw [h]
    exact h
  cases hp : c.phase with
  | closed =>
      have heval : c.evaluate now = _ := evaluate_of_closed hp
      cases hcheck : c.check now with
      | none =>
          rw [hcheck] at heval
          exact again heval
      | some reason =>
          rw [hcheck] at heval
          rw [heval]
          exact rests_enter_opened hwindow hnow reason
  | opened =>
      cases hslept : c.hasSlept now with
      | false =>
          apply again
          simp [evaluate, hp, hslept]
      | true =>
          have heval : (c.evaluate now).1 = c.enter .halfOpen "sleep window elapsed" now := by
            simp [evaluate, hp, hslept, startProbing, move]
          rw [heval]
          exact rests_of_no_slots (phase_enter _ _ _ _) rfl
  | halfOpen =>
      have heval : c.evaluate now = (c.releaseLost now, none) := by
        simp [evaluate, hp]
      by_cases hlost : c.probeDeadline ≤ now ∧ 0 < c.probe.inFlight
      · rw [heval]
        refine rests_of_no_slots ((phase_releaseLost c now).trans hp) ?_
        simp [releaseLost, hlost, Probe.releaseAll]
      · apply again
        rw [heval, releaseLost, if_neg hlost]
  | destroyed =>
      apply again
      simp [evaluate, hp]

/-- Time takes a circuit along one edge at most. -/
theorem phase_evaluate (c : Circuit) (now : Nat) :
    (c.evaluate now).1.phase = c.phase ∨ (c.evaluate now).1.phase ∈ c.phase.next := by
  rcases status_effect (effect_step c (.evaluate now)) with hs | hs | ⟨hs, _⟩
  · exact Or.inl (congrArg Status.phase hs)
  · exact Or.inr hs
  · cases hs

end Circuit

namespace Engine

variable {e : Engine} {r : Resource} {now : Nat} {order again : List Resource}

/-! ## The engine -/

/-- A sweep is not due again at the time of the last. -/
theorem sweepIfDue_sweepIfDue (hexpire : 0 < e.config.expireInterval) (hnow : now < Clock.latest) :
    (e.sweepIfDue now).sweepIfDue now = e.sweepIfDue now := by
  rw [sweepIfDue_eq e]
  split
  · have hperiod : 0 < e.sweepPeriod := Nat.lt_min.mpr ⟨hexpire, by decide⟩
    have hlater := Clock.lt_after hperiod hnow
    rw [sweepIfDue_eq]
    exact if_neg (Nat.not_le_of_lt hlater)
  · rename_i hearly
    rw [sweepIfDue_eq, if_neg hearly]

theorem isActive_sweepIfDue (e : Engine) (now : Nat) : (e.sweepIfDue now).isActive = e.isActive := by
  rw [sweepIfDue_eq]
  split <;> rfl

/-- A sweep changes no circuit. -/
theorem circuit?_sweepIfDue (h : e.cache.IsTidy) {c : Circuit}
    (hc : (e.sweepIfDue now).cache.circuit? r = some c) : e.cache.circuit? r = some c := by
  rw [sweepIfDue_eq] at hc
  split at hc
  · obtain ⟨x, hx, hslot⟩ := Option.bind_eq_some_iff.mp hc
    rw [CircuitCache.find?_expire h.isPlaced] at hx
    obtain ⟨y, hy, hkept⟩ := Option.bind_eq_some_iff.mp hx
    split at hkept
    · cases hkept
    · cases hkept
      exact Option.bind_eq_some_iff.mpr ⟨x, hy, hslot⟩
  · exact hc

/-- A circuit that is there after a tick was there before, and time has passed for it once. -/
theorem circuit?_tickAlong (h : e.IsOrderly) (horder : order.Perm e.cache.trackedResources)
    {c : Circuit} (hc : (e.tickAlong order now).1.cache.circuit? r = some c) :
    ∃ b, e.cache.circuit? r = some b ∧ c = (b.evaluate now).1 := by
  by_cases hactive : e.isActive = true
  · have htidy : (e.mapCircuits fun _ c => (c.evaluate now).1).cache.IsTidy :=
      CircuitCache.isTidy_mapCircuits h.cache fun _ c _ => Circuit.resource_run c [.evaluate now]
    rw [tickAlong_engine hactive h.cache horder] at hc
    have hmapped := circuit?_sweepIfDue htidy hc
    obtain ⟨b, hb, rfl⟩ :=
      Option.map_eq_some_iff.mp ((CircuitCache.circuit?_mapCircuits _ _ _).symm.trans hmapped)
    exact ⟨b, hb, rfl⟩
  · unfold tickAlong at hc
    rw [if_neg hactive] at hc
    exact absurd (h.isActive_of_circuit? hc) hactive

/-- **A tick of an engine whose circuits rest** does what a sweep does, and tells nobody. -/
theorem tickAlong_of_rests (h : e.cache.IsTidy) (hactive : e.isActive = true)
    (hrests : ∀ r c, e.cache.circuit? r = some c → c.Rests now)
    (horder : order.Perm e.cache.trackedResources) :
    e.tickAlong order now = (e.sweepIfDue now, []) := by
  have hsame : (e.mapCircuits fun _ c => (c.evaluate now).1) = e := by
    unfold mapCircuits
    rw [CircuitCache.mapCircuits_eq_self h fun r c hc => congrArg Prod.fst (hrests r c hc)]
  have hsilent : ∀ r ∈ order, (deliverAny e.listeners (e.evaluateNews r now)).notices = [] := by
    intro r _
    have hnews : e.evaluateNews r now = none := by
      unfold evaluateNews
      cases hc : e.cache.circuit? r with
      | none => rfl
      | some c => exact congrArg Prod.snd (hrests r c hc)
    rw [hnews]
    rfl
  have hnodup : order.Nodup := horder.nodup_iff.mpr (nodup_trackedResources h)
  refine Prod.ext ?_ ?_
  · rw [tickAlong_engine hactive h horder, hsame]
  · unfold tickAlong
    rw [if_pos hactive]
    exact (evaluateAll_notices h now hnodup).trans (List.flatMap_eq_nil_iff.mpr hsilent)

/-- **A second tick at the same time does nothing.** -/
theorem tickAlong_tickAlong (h : e.IsOrderly) (hexpire : 0 < e.config.expireInterval)
    (hwindows : ∀ r c, e.cache.circuit? r = some c → 0 < c.rule.recovery.sleepWindow)
    (hnow : now < Clock.latest) (horder : order.Perm e.cache.trackedResources)
    (hagain : again.Perm (e.tickAlong order now).1.cache.trackedResources) :
    (e.tickAlong order now).1.tickAlong again now = ((e.tickAlong order now).1, []) := by
  by_cases hactive : e.isActive = true
  · have hrests : ∀ r c, (e.tickAlong order now).1.cache.circuit? r = some c → c.Rests now := by
      intro r c hc
      obtain ⟨b, hb, rfl⟩ := circuit?_tickAlong h horder hc
      exact Circuit.rests_evaluate (hwindows r b hb) hnow
    have htidy : (e.tickAlong order now).1.cache.IsTidy :=
      (later_tickAlong h.cache order now).cache.isTidy
    rw [tickAlong_engine hactive h.cache horder] at hrests htidy hagain ⊢
    have hstill := isActive_sweepIfDue (e.mapCircuits fun _ c => (c.evaluate now).1) now
    rw [tickAlong_of_rests htidy (hstill.trans hactive) hrests hagain]
    exact congrArg (·, []) (sweepIfDue_sweepIfDue hexpire hnow)
  · unfold tickAlong
    rw [if_neg hactive, if_neg hactive]

/-- **A tick that is repeated does nothing.** Take any time but the last.
    * For the circuit of a valid rule, after any operations, with any listeners: once it was looked at,
      looking at it again answers that nothing changed, tells nobody and leaves it exactly as it is.
    * For an engine whose settings pass their check and whose rules are valid, after any operations: a
      second tick leaves the engine exactly as the first left it, circuits, cache, sweep clock and all,
      and tells nobody, in whatever order either comes to the circuits. So a circuit that is there after
      the tick has been looked at once, and has taken one edge at most. -/
theorem repeated_tick_does_nothing {now : Nat} (hnow : now < Clock.latest) :
    (∀ (f g : Compiler) (s : CircuitSettings) (resource : Resource) (rule : Rule)
      (blocks : List BlockRule) (start : Nat) (cache : PatternCache) (c : Circuit),
      rule.isValid g = true → (Circuit.build? f s resource rule blocks start cache).1 = .ok c →
      ∀ (ls : List Listener) (ops : List Circuit.Op),
        let d := ((c.watchedRun ls ops).1.watchedStep ls (.evaluate now)).1
        d.watchedStep ls (.evaluate now) = (d, { result := .ok false, notices := [] })) ∧
    (∀ (g : Compiler) (setup : EngineSetup) (start : Nat) (first : Engine),
      setup.source.IsValid g → build? setup start = .ok first →
      ∀ (ops : List Op) (order again : List Resource),
        let e := (first.run ops).1
        order.Perm e.cache.trackedResources →
        let d := (e.tickAlong order now).1
        again.Perm d.cache.trackedResources →
        d.tickAlong again now = (d, []) ∧
        ∀ r c, d.cache.circuit? r = some c → ∃ b, e.cache.circuit? r = some b ∧
          c = (b.evaluate now).1 ∧ (c.phase = b.phase ∨ c.phase ∈ b.phase.next)) := by
  have window {g : Compiler} {rule : Rule} (hv : rule.isValid g = true) :
      0 < rule.recovery.sleepWindow := by
    obtain ⟨_, _, _, hrecovery, _⟩ := Rule.isValid_iff.mp hv
    exact Nat.pos_of_ne_zero (Recovery.check_eq_ok_iff.mp hrecovery).1
  constructor
  · intro f g s resource rule blocks start cache c hv hbuild ls ops d
    have hrule : (c.run ops).1.rule = rule := by
      obtain ⟨bs, _, rfl⟩ := Circuit.exists_of_build? hbuild
      exact Circuit.rule_run _ ops
    have hwindow : 0 < (c.run ops).1.rule.recovery.sleepWindow := hrule.symm ▸ window hv
    have hd : d = ((c.run ops).1.evaluate now).1 := by
      show ((c.watchedRun ls ops).1.evaluate now).1 = _
      rw [Circuit.watchedRun_fst]
    have hrests : d.evaluate now = (d, none) := hd ▸ Circuit.rests_evaluate hwindow hnow
    simp only [Circuit.watchedStep, Circuit.step, hrests]
    rfl
  · intro g setup start first hsource hbuild ops order again e horder d hagain
    have h : e.IsOrderly := isOrderly_run_build? hbuild ops
    have hvalid : e.ValidRules g := validRules_run_build? hbuild hsource ops
    have hexpire : 0 < e.config.expireInterval := by
      have hconfig : e.config = first.config := (sameSetup_run (isOrderly_build? hbuild) ops).config
      obtain ⟨hcheck, rfl⟩ := eq_of_build? hbuild
      rw [hconfig]
      exact Nat.pos_of_ne_zero ((Config.check_eq_ok_iff _).mp hcheck).2.1
    refine ⟨?_, fun r c hc => ?_⟩
    · have hwindows : ∀ r c, e.cache.circuit? r = some c → 0 < c.rule.recovery.sleepWindow :=
        fun r c hc => window (hvalid.circuit r c hc)
      exact tickAlong_tickAlong h hexpire hwindows hnow horder hagain
    · obtain ⟨b, hb, rfl⟩ := circuit?_tickAlong h horder hc
      exact ⟨b, hb, rfl, b.phase_evaluate now⟩

/-- Two circuits that have slept wake in one tick, and a second tick at the same time leaves them as they
    are, though a listener failed over one of them; so does looking at a single circuit again. -/
theorem touchy_repeated_tick :
    1006 < Clock.latest ∧ Circuit.sampleRule.isValid standardCompiler = true ∧
    (Circuit.build? standardCompiler { buckets := 10, probes := 3 } Circuit.sample.resource
      Circuit.sampleRule Circuit.sampleRule.blocks 0 (PatternCache.ofCapacity 16)).1 =
        .ok Circuit.sample ∧
    touchy.source.IsValid standardCompiler ∧ build? touchy.toEngineSetup 0 = .ok touchy ∧
    (let ls := [Listener.recorder "log"]
     let c := (Circuit.sample.watchedRun ls (Circuit.sampleOps.take 2)).1
     let d := (c.watchedStep ls (.evaluate 1006)).1
     c.phase = .opened ∧ d.phase = .halfOpen ∧
     d.watchedStep ls (.evaluate 1006) = (d, { result := .ok false, notices := [] })) ∧
    (let e := (touchy.run touchyOps).1
     let d := (e.tickAlong e.cache.trackedResources 1006).1
     e.cache.tracked.map Circuit.phase = [.opened, .opened] ∧
     d.cache.tracked.map Circuit.phase = [.halfOpen, .halfOpen] ∧
     d.tickAlong d.cache.trackedResources.reverse 1006 = (d, [])) := by
  have hnow : 1006 < Clock.latest := by decide
  have hv : Circuit.sampleRule.isValid standardCompiler = true := by decide
  have h : (Circuit.build? standardCompiler { buckets := 10, probes := 3 } Circuit.sample.resource
      Circuit.sampleRule Circuit.sampleRule.blocks 0 (PatternCache.ofCapacity 16)).1 =
        .ok Circuit.sample := rfl
  have hstore : (sampleStore.load sampleService [Circuit.sampleRule]).1.Reachable :=
    .load _ _ (.load _ _ (.empty _ _))
  have hcompile : (sampleStore.load sampleService [Circuit.sampleRule]).1.compile = standardCompiler :=
    rfl
  have hsource : touchy.source.IsValid standardCompiler :=
    RuleSource.isValid_store hstore hcompile true
  have hbuild : build? touchy.toEngineSetup 0 = .ok touchy := rfl
  obtain ⟨hcircuit, hengine⟩ := repeated_tick_does_nothing hnow
  refine ⟨hnow, hv, h, hsource, hbuild, ⟨by decide, by decide, ?_⟩, by decide, by decide, ?_⟩
  · exact hcircuit _ _ _ _ _ _ _ _ _ hv h [Listener.recorder "log"] (Circuit.sampleOps.take 2)
  · exact (hengine _ _ _ _ hsource hbuild touchyOps _ _ (List.Perm.refl _) (List.reverse_perm _)).1

end Engine

end CircuitBreaker

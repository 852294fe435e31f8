import CircuitBreaker.Proofs.Circuit.Notification
import CircuitBreaker.Proofs.Engine.Lifecycle

/-!
# `Proofs.Engine.Admission` — which calls are let through, and what that changes

What a permission comes to can be read off the circuits that guard a resource, its own and then those of
its parents, each as it is once an open one that has slept is half open (`Circuit.roused`). If one of them
is open, or half open with all slots taken, the call is refused in the name of that circuit, and nothing
but the waking has happened. Otherwise the call passes, and each half-open one has one slot less
(`Circuit.withSlot`).

The engine does this in rounds (`Engine.acquire_eq`), and looks at the statuses of open circuits, not at
their rules. The two are the same, because a status always speaks for the rule of its circuit
(`Circuit.IsTruthful`): this holds of a circuit that was built, every effect keeps it, and every circuit
of an engine is one that was built and run (`isTruthful_of_circuit?`).

## Contents
- `Circuit.roused`, `Circuit.withSlot`, `Circuit.refuser?`: the decision.
- `Circuit.IsTruthful`: what a status says.
- `Engine.verdict_awake`, `Engine.answered_awake`: the rounds come to the decision.
- `Engine.acquire_decides`: every engine that can be reached.
-/

namespace CircuitBreaker

namespace Circuit

variable {c d : Circuit} {now : Nat}

/-! ## The decision -/

/-- The circuit once it is half open, with no slot taken, if it was open and has slept long enough. -/
def roused (now : Nat) (c : Circuit) : Circuit :=
  if c.phase = .opened ∧ Clock.after c.status.since c.rule.recovery.sleepWindow ≤ now then
    c.enter .halfOpen "sleep window elapsed" now
  else
    c

/-- The circuit with one slot more taken, if it is half open. -/
def withSlot (c : Circuit) : Circuit :=
  if c.phase = .halfOpen then
    { c with probe := { c.probe with inFlight := c.probe.inFlight + 1 } }
  else
    c

/-- The circuit in the way of a call: the first that is open, or else the first half-open one without a
    free slot. -/
def refuser? (guards : List Circuit) : Option Circuit :=
  (guards.find? fun c => c.phase == .opened).or
    (guards.find? fun c => c.phase == .halfOpen && decide (c.probe.bound ≤ c.probe.inFlight))

/-- The answer to a call that some circuits guard. -/
def ruling (guards : List Circuit) : Permission :=
  match refuser? guards with
  | some c => .refused c.rule.name c.rule.fallback?
  | none => {}

/-- A circuit that wakes is half open with no slot taken, and any other stays as it is. -/
theorem roused_spec (now : Nat) (c : Circuit) :
    if c.phase = .opened ∧ Clock.after c.status.since c.rule.recovery.sleepWindow ≤ now then
      (c.roused now).phase = .halfOpen ∧ (c.roused now).probe.inFlight = 0
    else
      c.roused now = c := by
  split
  · rename_i hslept
    have hwakes : c.roused now = c.enter .halfOpen "sleep window elapsed" now := if_pos hslept
    rw [hwakes]
    exact ⟨phase_enter _ _ _ _, rfl⟩
  · rename_i hstays
    exact if_neg hstays

/-- Waking is what is done to an open circuit that has slept, and to no other. -/
theorem wakened_eq_roused (now : Nat) (c : Circuit) : c.wakened now = c.roused now := by
  unfold wakened roused
  by_cases hopen : c.phase = .opened
  · simp only [hopen, if_true, true_and, evaluate, hasSlept, decide_eq_true_eq]
    split
    · rw [startProbing, move, if_pos hopen]
    · rfl
  · rw [if_neg hopen, if_neg fun h => hopen h.1]

theorem isFull_eq (c : Circuit) :
    c.isFull = (c.phase == .halfOpen && decide (c.probe.bound ≤ c.probe.inFlight)) := by
  unfold isFull acquireProbe? Probe.acquire?
  by_cases hp : c.phase = .halfOpen
  · by_cases hlt : c.probe.inFlight < c.probe.bound
    · simp [hp, hlt]
    · simp [hp, hlt, Nat.le_of_not_lt hlt]
  · simp [hp]

/-- A circuit that is not full gives a slot if it is half open. -/
theorem admitted_eq_withSlot (h : c.isFull = false) : c.admitted = c.withSlot := by
  unfold withSlot
  by_cases hp : c.phase = .halfOpen
  · have hfree : c.probe.inFlight < c.probe.bound := by
      simpa [isFull_eq, hp] using h
    rw [if_pos hp]
    exact admitted_of_acquireProbe? (acquireProbe?_eq_some_iff.mpr ⟨hp, hfree, rfl⟩)
  · rw [if_neg hp, admitted_of_phase_ne hp]

/-- Nothing is in the way of a call if no circuit is open and no half-open one is full. -/
theorem refuser?_eq_none_iff {guards : List Circuit} :
    refuser? guards = none ↔
      (∀ c ∈ guards, c.phase ≠ .opened) ∧
        ∀ c ∈ guards, c.phase = .halfOpen → c.probe.inFlight < c.probe.bound := by
  simp [refuser?, Option.or_eq_none_iff, List.find?_eq_none]

theorem granted_ruling_iff {guards : List Circuit} :
    (ruling guards).granted = true ↔ refuser? guards = none := by
  unfold ruling
  cases refuser? guards with
  | none => exact ⟨fun _ => rfl, fun _ => rfl⟩
  | some c => simp [Permission.refused]

/-- A call that is refused is refused in the name of the circuit in its way. -/
theorem exists_of_refused {guards : List Circuit} (h : (ruling guards).granted = false) :
    ∃ c, refuser? guards = some c ∧ (ruling guards).rule = c.rule.name ∧
      (ruling guards).fallback = c.rule.fallback? := by
  unfold ruling at h ⊢
  cases hrefuser : refuser? guards with
  | none =>
      rw [hrefuser] at h
      cases h
  | some c => exact ⟨c, rfl, rfl, rfl⟩

/-! ## What a status says -/

/-- **The status speaks for the rule**: it has the name of the rule, and while the circuit is open the
    answer that the rule has for callers. -/
structure IsTruthful (c : Circuit) : Prop where
  rule : c.status.rule = c.rule.name
  fallback : c.status.fallback = if c.phase = .opened then c.rule.fallback? else none

theorem isTruthful_enter (c : Circuit) (target : Phase) (reason : String) (now : Nat) :
    (c.enter target reason now).IsTruthful := by
  constructor
  · cases target <;> rfl
  · rw [fallback_enter, phase_enter, rule_enter]

/-- **Every effect keeps a status truthful.** -/
theorem isTruthful_effect {op : Op} {t : Option Transition} (he : Effect c op d t)
    (hc : c.IsTruthful) : d.IsTruthful := by
  cases he with
  | nothing => exact hc
  | touched now => exact ⟨hc.rule, hc.fallback⟩
  | counted o now hp hq => exact ⟨hc.rule, hc.fallback⟩
  | tripped o reason now hp => exact isTruthful_enter _ _ _ _
  | succeeded o now hp hs => exact ⟨hc.rule, hc.fallback⟩
  | concluded o success target reason now hp hedge => exact isTruthful_enter _ _ _ _
  | gaveUp now hp hd => exact ⟨hc.rule, hc.fallback⟩
  | acquired probe hp ha => exact ⟨hc.rule, hc.fallback⟩
  | released => exact ⟨hc.rule, hc.fallback⟩
  | moved target reason now hedge => exact isTruthful_enter _ _ _ _
  | destroyed =>
      unfold destroy
      split
      · exact hc
      · exact ⟨rfl, rfl⟩

theorem isTruthful_run (hc : c.IsTruthful) (ops : List Op) : (c.run ops).1.IsTruthful :=
  run_invariant isTruthful_effect hc ops

theorem isTruthful_fresh (s : CircuitSettings) (resource : Resource) (rule : Rule) (now : Nat)
    (blocks : List Block) : (fresh s resource rule now blocks).IsTruthful :=
  ⟨rfl, rfl⟩

theorem isTruthful_roused (hc : c.IsTruthful) (now : Nat) : (c.roused now).IsTruthful := by
  unfold roused
  split
  · exact isTruthful_enter _ _ _ _
  · exact hc

end Circuit

namespace Engine

variable {e : Engine} {r : Resource} {now : Nat}

/-- Every circuit of an engine was built and run, so its status speaks for its rule. -/
theorem isTruthful_of_circuit? {setup : EngineSetup} {start : Nat} {first : Engine}
    (hbuild : build? setup start = .ok first) (ops : List Op) {s : Resource} {c : Circuit}
    (hc : (first.run ops).1.cache.circuit? s = some c) : c.IsTruthful := by
  obtain ⟨pre, op, -, birth, done, -, hbuilds, rfl⟩ := exists_birth_of_circuit? hbuild hc
  obtain ⟨settings, resource, rule, since, blocks, rfl⟩ :=
    exists_fresh_of_builds? (isOrderly_run_build? hbuild pre) hbuilds
  exact Circuit.isTruthful_run (Circuit.isTruthful_fresh _ _ _ _ _) done

/-! ## The rounds -/

/-- The circuits that guard a resource, awake. -/
theorem guards_awake (e : Engine) (r : Resource) (now : Nat) :
    (e.awake r now).guards r = (e.guards r).map (Circuit.roused now) := by
  unfold guards
  rw [List.map_filterMap]
  refine List.filterMap_congr fun s hs => ?_
  have hcircuit : (e.awake r now).cache.circuit? s =
      (e.cache.circuit? s).map (onAll (r :: r.parents) (Circuit.wakened now) s) :=
    CircuitCache.circuit?_mapCircuits _ _ _
  rw [hcircuit, onAll_of_mem hs]
  exact congrArg (fun f => (e.cache.circuit? s).map f)
    (funext (Circuit.wakened_eq_roused now))

theorem awake_eq (e : Engine) (r : Resource) (now : Nat) :
    e.awake r now = e.mapCircuits (onAll (r :: r.parents) (Circuit.roused now)) := by
  have hsame : Circuit.wakened now = Circuit.roused now :=
    funext (Circuit.wakened_eq_roused now)
  rw [awake, hsame]

/-- **The answer** is the ruling of the guards, awake. -/
theorem verdict_awake (htruthful : ∀ c ∈ e.guards r, c.IsTruthful) (now : Nat) :
    (e.awake r now).verdict r = Circuit.ruling ((e.guards r).map (Circuit.roused now)) := by
  have hfull : Circuit.isFull =
      fun c => c.phase == .halfOpen && decide (c.probe.bound ≤ c.probe.inFlight) :=
    funext Circuit.isFull_eq
  unfold verdict Circuit.ruling Circuit.refuser?
  rw [guards_awake, hfull]
  cases hopen : ((e.guards r).map (Circuit.roused now)).find? fun c => c.phase == .opened with
  | none => rfl
  | some c =>
      -- The status of an open circuit says what its rule does.
      obtain ⟨b, hb, rfl⟩ := List.mem_map.mp (List.mem_of_find?_eq_some hopen)
      have hphase : (b.roused now).phase = .opened := by simpa using List.find?_some hopen
      obtain ⟨hrule, hfallback⟩ := Circuit.isTruthful_roused (htruthful b hb) now
      rw [if_pos hphase] at hfallback
      simp only [Option.some_or, hrule, hfallback]

/-- **What is changed** if the call passes: every half-open guard has one slot more taken. -/
theorem admitted_awake (h : e.cache.IsTidy)
    (hnone : Circuit.refuser? ((e.guards r).map (Circuit.roused now)) = none) :
    (e.awake r now).mapCircuits (onAll (r :: r.parents) Circuit.admitted) =
      e.mapCircuits (onAll (r :: r.parents) fun c => (c.roused now).withSlot) := by
  -- Waking and letting in are one change in place.
  have hcompose : (e.awake r now).mapCircuits (onAll (r :: r.parents) Circuit.admitted) =
      e.mapCircuits fun s c => onAll (r :: r.parents) Circuit.admitted s
        (onAll (r :: r.parents) (Circuit.wakened now) s c) := by
    unfold awake mapCircuits
    rw [CircuitCache.mapCircuits_mapCircuits]
  rw [hcompose]
  refine mapCircuits_congr h fun s c hc => ?_
  by_cases hs : s ∈ r :: r.parents
  · rw [onAll_of_mem hs, onAll_of_mem hs, onAll_of_mem hs, Circuit.wakened_eq_roused]
    -- A circuit of the chain is among the guards, so it is not full.
    have hguard : c.roused now ∈ (e.guards r).map (Circuit.roused now) :=
      List.mem_map_of_mem (List.mem_filterMap.mpr ⟨s, hs, hc⟩)
    have hfree := (Circuit.refuser?_eq_none_iff.mp hnone).2 _ hguard
    refine Circuit.admitted_eq_withSlot ?_
    rw [Circuit.isFull_eq]
    by_cases hp : (c.roused now).phase = .halfOpen
    · simp [hfree hp]
    · simp [hp]
  · rw [onAll_of_not_mem hs, onAll_of_not_mem hs, onAll_of_not_mem hs]

/-- Steady listeners do not keep circuits from waking. -/
theorem wakeFault?_of_isSteady (hls : ∀ l ∈ e.listeners, l.IsSteady) (now : Nat) (s : Resource) :
    e.wakeFault? now s = none := by
  unfold wakeFault?
  cases e.wakeNews s now with
  | none => rfl
  | some t => rw [deliverAny, deliver_of_isSteady hls]

/-- **Asking for a permission** gives the ruling of the guards, awake, and wakes them. If the call
    passes, it has a slot in each that is half open. -/
theorem acquire_of_isSteady (h : e.IsOrderly) (hactive : e.isActive = true)
    (hls : ∀ l ∈ e.listeners, l.IsSteady) (htruthful : ∀ c ∈ e.guards r, c.IsTruthful) (now : Nat) :
    let ruling := Circuit.ruling ((e.guards r).map (Circuit.roused now))
    (e.acquire r now).result = .ok ruling ∧
      (e.acquire r now).engine = e.mapCircuits (onAll (r :: r.parents) fun c =>
        if ruling.granted then (c.roused now).withSlot else c.roused now) := by
  intro ruling
  have hnofault : (r :: r.parents).findSome? (e.wakeFault? now) = none := by
    rw [List.findSome?_eq_none_iff]
    intro s _
    exact wakeFault?_of_isSteady hls now s
  have hverdict : (e.awake r now).verdict r = ruling := verdict_awake htruthful now
  rw [acquire_eq h.cache hactive, hnofault]
  refine ⟨congrArg Except.ok hverdict, ?_⟩
  show (e.awake r now).answered r = _
  rw [answered, hverdict]
  by_cases hgranted : ruling.granted = true
  · simp only [hgranted, if_true]
    exact admitted_awake h.cache (Circuit.granted_ruling_iff.mp hgranted)
  · simp only [hgranted]
    exact awake_eq e r now

/-! ## Every engine that can be reached -/

/-- **A permission is decided exactly.** Take an engine that was built with listeners that do not fail, on
    any rules, and any operations that leave it active. Let its guards be the circuits of a resource and
    then of its parents, each one half open by now if it was open and has slept long enough. Then asking
    for a permission has an answer, and

    * a guard that woke has no slot taken, and any other is as it was;
    * the call passes if and only if none of the guards is open and every half-open one has a free slot;
    * if it passes, each half-open guard has one slot more taken, and nothing else has changed;
    * if not, nothing has changed but that guards woke, and the answer is that of the rule of the first
      open guard, or else of the first half-open one without a free slot;
    * the status of an open guard has the name of its rule and the answer of that rule for callers;
    * the entries are there for the same resources and were last needed when they were before, and those
      of resources that do not guard this one are the same. -/
theorem acquire_decides {setup : EngineSetup} {start : Nat} {first : Engine}
    (hbuild : build? setup start = .ok first) (hls : ∀ l ∈ setup.listeners, l.IsSteady)
    (ops : List Op) (hactive : (first.run ops).1.isActive = true) (r : Resource) (now : Nat) :
    let e := (first.run ops).1
    let d := (e.acquire r now).engine
    let guards := (e.guards r).map (Circuit.roused now)
    ∃ p, (e.acquire r now).result = .ok p ∧
      (∀ c ∈ e.guards r,
        if c.phase = .opened ∧ Clock.after c.status.since c.rule.recovery.sleepWindow ≤ now then
          (c.roused now).phase = .halfOpen ∧ (c.roused now).probe.inFlight = 0
        else
          c.roused now = c) ∧
      (p.granted = true ↔ (∀ c ∈ guards, c.phase ≠ .opened) ∧
        ∀ c ∈ guards, c.phase = .halfOpen → c.probe.inFlight < c.probe.bound) ∧
      (p.granted = true →
        d = e.mapCircuits (onAll (r :: r.parents) fun c => (c.roused now).withSlot)) ∧
      (p.granted = false →
        d = e.mapCircuits (onAll (r :: r.parents) (Circuit.roused now)) ∧
        ∃ c, Circuit.refuser? guards = some c ∧
          p.rule = c.rule.name ∧ p.fallback = c.rule.fallback?) ∧
      (∀ c ∈ guards, c.phase = .opened →
        c.status.rule = c.rule.name ∧ c.status.fallback = c.rule.fallback?) ∧
      d.cache.entries.map (fun y => (y.resource, y.lastAccess)) =
        e.cache.entries.map (fun y => (y.resource, y.lastAccess)) ∧
      ∀ s, s ∉ r :: r.parents → d.cache.find? s = e.cache.find? s := by
  intro e d guards
  have horderly : e.IsOrderly := isOrderly_run_build? hbuild ops
  have hlisteners : e.listeners = setup.listeners := by
    have hsame := (sameSetup_run (isOrderly_build? hbuild) ops).listeners
    obtain ⟨-, rfl⟩ := eq_of_build? hbuild
    exact hsame
  have htruthful : ∀ c ∈ e.guards r, c.IsTruthful := by
    intro c hc
    obtain ⟨s, -, hs⟩ := List.mem_filterMap.mp hc
    exact isTruthful_of_circuit? hbuild ops hs
  obtain ⟨hresult, hengine⟩ := acquire_of_isSteady horderly hactive (hlisteners ▸ hls) htruthful now
  change d = e.mapCircuits (onAll (r :: r.parents) fun c =>
    if (Circuit.ruling guards).granted then (c.roused now).withSlot else c.roused now) at hengine
  refine ⟨Circuit.ruling guards, hresult, fun c _ => Circuit.roused_spec now c, ?_,
    fun hgranted => ?_, fun hrefused => ⟨?_, ?_⟩, fun c hc hopen => ?_, ?_, fun s hs => ?_⟩
  · exact Circuit.granted_ruling_iff.trans Circuit.refuser?_eq_none_iff
  · simpa only [hgranted, if_true] using hengine
  · rw [hengine, hrefused]
    rfl
  · exact Circuit.exists_of_refused hrefused
  · obtain ⟨b, hb, rfl⟩ := List.mem_map.mp hc
    obtain ⟨hrule, hfallback⟩ := Circuit.isTruthful_roused (htruthful b hb) now
    rw [if_pos hopen] at hfallback
    exact ⟨hrule, hfallback⟩
  · rw [hengine, mapCircuits, CircuitCache.entries_mapCircuits, List.map_map]
    rfl
  · rw [hengine]
    exact find?_mapCircuits_of_not_mem hs _

/-- The sample engine, with a recorder that listens. -/
def watchedSetup : EngineSetup where
  compile := standardCompiler
  source := .store sampleStore true
  listeners := [Listener.recorder "log"]

/-- Two failures, over which the sample circuit opens. -/
def twoFailures : List Op :=
  [.report (Circuit.sampleOutcome .fail) 5, .report (Circuit.sampleOutcome .fail) 6]

/-- A second after it opened, the sample circuit lets a trial call pass. The next call is refused, as its
    only slot is taken then. -/
theorem sample_acquire_decides :
    (∀ l ∈ watchedSetup.listeners, l.IsSteady) ∧ ∃ first, build? watchedSetup 0 = .ok first ∧
    (let e := (first.run twoFailures).1
     e.isActive = true ∧
     ∃ p, (e.acquire Circuit.sample.resource 1006).result = .ok p ∧ p.granted = true) ∧
    (let e := (first.run (twoFailures ++ [.acquire Circuit.sample.resource 1006])).1
     e.isActive = true ∧
     ∃ p, (e.acquire Circuit.sample.resource 1007).result = .ok p ∧ p.granted = false ∧
      p.rule = "errors" ∧ p.fallback = some { code := 503 }) := by
  have hbuild : build? watchedSetup 0 =
      .ok { sample with listeners := [Listener.recorder "log"] } := rfl
  have hls : ∀ l ∈ watchedSetup.listeners, l.IsSteady := by
    intro l hl
    rw [List.mem_singleton.mp hl]
    exact Circuit.isSteady_recorder "log"
  refine ⟨hls, _, hbuild, ⟨by decide, ?_⟩, by decide, ?_⟩
  · obtain ⟨p, hresult, -, hiff, -⟩ :=
      acquire_decides hbuild hls twoFailures (by decide) Circuit.sample.resource 1006
    exact ⟨p, hresult, hiff.mpr (by decide)⟩
  · obtain ⟨p, hresult, -, hiff, -, hrefused, -⟩ :=
      acquire_decides hbuild hls (twoFailures ++ [.acquire Circuit.sample.resource 1006]) (by decide)
        Circuit.sample.resource 1007
    have hnot : p.granted = false := by
      rw [← Bool.not_eq_true, hiff]
      decide
    obtain ⟨-, c, hrefuser, hrule, hfallback⟩ := hrefused hnot
    have hname := congrArg (Option.map fun c => (c.rule.name, c.rule.fallback?)) hrefuser
    have hsample : some ("errors", some { code := 503 }) = some (c.rule.name, c.rule.fallback?) :=
      Eq.trans (by decide) hname
    injection hsample with hsample
    injection hsample with hn hf
    exact ⟨p, hresult, hnot, hrule.trans hn.symm, hfallback.trans hf.symm⟩

end Engine

end CircuitBreaker

import CircuitBreaker.Proofs.Engine.Lifecycle

/-!
# `Proofs.Engine.Ungoverned` — calls that no rule governs

Which rule governs a call depends on who calls. A circuit, though, is kept for a resource, and all its
callers share it. The rules are asked only once, when the first outcome is reported, for the caller of
that one.

So an outcome that no rule governs makes no circuit (`circuit?_informed`), and as long as its resource has
none it does nothing (`report_of_no_circuit`). If the resource has a circuit, then a report by somebody
whom a rule governed made it (`exists_governed_report`), and nothing that comes of another report depends
on the caller (`report_of_caller`): the outcome counts (`counted_for_another_caller`). All other circuits
stay as they are in either case (`circuit?_report`, `retired_report`).

## Contents
- `Engine.ruleFor?`: the rule that governs a call.
- `circuit?_informed`: nothing is made without a rule.
- `circuit?_report`, `report_of_no_circuit`, `retired_report`: what a report without a rule changes.
- `report_of_caller`: nothing depends on the caller once there is a circuit.
- `exists_governed_report`, `exists_governed_now`: where a circuit comes from.
- `ungoverned_report`, `counted_for_another_caller`.
-/

namespace CircuitBreaker

/-- A circuit takes an outcome in the same way whoever called. -/
theorem Circuit.report_of_caller (c : Circuit) (o : Outcome) (caller : Option ServiceKey) (now : Nat) :
    c.report { o with caller } now = c.report o now :=
  rfl

namespace Engine

variable {e : Engine} {op : Op} {ops : List Op} {r : Resource} {o : Outcome}
  {caller : Option ServiceKey} {c : Circuit} {now : Nat}

/-- **The rule that governs calls from a caller to a resource**, among the rules as they are now. -/
def ruleFor? (e : Engine) (r : Resource) (caller : Option ServiceKey) : Option Rule :=
  (e.source.rules? r.key).bind fun rules =>
    (Resolution.resolve e.compile e.precedence r caller rules e.patterns).1

/-- The patterns that were compiled before make no difference to it. -/
theorem ruleFor?_eq (h : e.patterns.Faithful e.compile) (r : Resource) (caller : Option ServiceKey) :
    e.ruleFor? r caller =
      (e.source.rules? r.key).bind (Resolution.governing e.compile e.precedence r caller) :=
  Option.bind_congr fun rules _ =>
    (Resolution.answers_resolve e.compile e.precedence r caller rules e.patterns h).1

/-- What is decided for a caller is about the rule that governs. -/
theorem ruleFor?_of_decision (h : e.patterns.Faithful e.compile) {a : Rule × List BlockRule}
    (ha : e.decision r caller = some a) : e.ruleFor? r caller = some a.1 := by
  obtain ⟨rules, hrules, hgoverns, -, -⟩ := of_decision ha
  rw [ruleFor?_eq h, hrules, Option.bind_some, hgoverns]

/-! ## Without a rule -/

theorem decision_of_ungoverned (h : e.patterns.Faithful e.compile)
    (hnone : e.ruleFor? r caller = none) : e.decision r caller = none := by
  cases ha : e.decision r caller with
  | none => rfl
  | some a =>
      rw [ruleFor?_of_decision h ha] at hnone
      cases hnone

/-- **Without a rule no circuit is made**, and those that are there stay as they are. -/
theorem circuit?_informed (h : e.IsOrderly) (hnone : e.ruleFor? o.resource o.caller = none)
    (now : Nat) (r : Resource) :
    (e.informed o now).cache.circuit? r = e.cache.circuit? r := by
  unfold CircuitCache.circuit?
  rw [find?_informed h.cache]
  split
  · rename_i hr
    rw [hr]
    cases hfind : e.cache.find? o.resource with
    | some x => rfl
    | none =>
        rw [(newCircuit?_spec h.patterns o.resource o.caller now).1,
          decision_of_ungoverned h.patterns hnone]
        rfl
  · rfl

/-- **The only circuit that can change is that of the resource.** It takes the outcome, if there is one. -/
theorem circuit?_report (h : e.IsOrderly) (hnone : e.ruleFor? o.resource o.caller = none) (now : Nat)
    (r : Resource) :
    (e.report o now).engine.cache.circuit? r =
      (e.cache.circuit? r).map (onAll [o.resource] (fun c => (c.report o now).1) r) := by
  by_cases hactive : e.isActive = true
  · rw [report_engine hactive (h.informed hactive o now).cache]
    exact (CircuitCache.circuit?_mapCircuits _ _ r).trans
      (congrArg _ (circuit?_informed h hnone now r))
  · -- an engine that does no work has no circuits
    have hempty : e.cache.circuit? r = none :=
      Option.eq_none_iff_forall_ne_some.mpr fun c hc => hactive (h.isActive_of_circuit? hc)
    unfold report
    rw [if_neg hactive, hempty]
    rfl

/-- **Without a circuit the report does nothing**, and nobody is told of it. -/
theorem report_of_no_circuit (h : e.IsOrderly) (hnone : e.ruleFor? o.resource o.caller = none)
    (habsent : e.cache.circuit? o.resource = none) (now : Nat) :
    (e.report o now).result = .ok false ∧ (e.report o now).notices = [] := by
  by_cases hactive : e.isActive = true
  · have hstill : (e.informed o now).cache.circuit? o.resource = none :=
      (circuit?_informed h hnone now o.resource).trans habsent
    rw [report_of_isActive hactive, hstill]
    exact ⟨rfl, rfl⟩
  · unfold report
    rw [if_neg hactive]
    exact ⟨rfl, rfl⟩

/-- Circuits that are out of use stay as they are, whatever is reported. -/
theorem retired_report (h : e.IsOrderly) (o : Outcome) (now : Nat) :
    (e.report o now).engine.cache.retired = e.cache.retired := by
  by_cases hactive : e.isActive = true
  · rw [report_engine hactive (h.informed hactive o now).cache]
    change (e.informed o now).cache.retired = e.cache.retired
    cases hfind : e.cache.find? o.resource with
    | some x =>
        rw [informed_of_present hfind]
        exact CircuitCache.retired_touch e.cache o.resource now
    | none =>
        rw [informed_of_absent hfind]
        exact CircuitCache.retired_insert e.cache o.resource now _
  · unfold report
    rw [if_neg hactive]

/-! ## With a circuit -/

/-- **Nothing depends on the caller** once the resource has a circuit. -/
theorem report_of_caller (hc : e.cache.circuit? o.resource = some c) (caller : Option ServiceKey)
    (now : Nat) : e.report { o with caller } now = e.report o now := by
  obtain ⟨x, hfind, -⟩ := Option.bind_eq_some_iff.mp hc
  simp only [report, CircuitCache.fetch, hfind, Circuit.report_of_caller]

/-- What builds a circuit is a report by a caller whom its rule governs. -/
theorem governed_of_builds? (h : e.IsOrderly) (hc : e.builds? op = some c) :
    ∃ o now, op.report? = some (o, now) ∧ o.resource = c.resource ∧
      e.ruleFor? o.resource o.caller = some c.rule := by
  obtain ⟨o, now, hop, hmade⟩ := exists_of_builds? hc
  obtain ⟨a, ha, hbuilt⟩ := decision_of_newCircuit? h.patterns hmade
  refine ⟨o, now, hop, (resource_of_newCircuit? h.patterns hmade).symm, ?_⟩
  rw [Circuit.rule_of_build? hbuilt]
  exact ruleFor?_of_decision h.patterns ha

/-- **Every circuit was built by a report** of a call that its rule governed then. -/
theorem exists_governed_report {setup : EngineSetup} {start : Nat} {first : Engine}
    (hbuild : build? setup start = .ok first) (hc : (first.run ops).1.cache.circuit? r = some c) :
    ∃ pre op post o now birth done, ops = pre ++ op :: post ∧ op.report? = some (o, now) ∧
      o.resource = r ∧ (first.run pre).1.builds? op = some birth ∧ c = (birth.run done).1 ∧
      (first.run pre).1.ruleFor? r o.caller = some c.rule := by
  have hresource : c.resource = r :=
    CircuitCache.resource_of_circuit? (isOrderly_run_build? hbuild ops).cache hc
  obtain ⟨pre, op, post, birth, done, hops, hbuilds, rfl⟩ := exists_birth_of_circuit? hbuild hc
  obtain ⟨o, now, hop, hor, hrule⟩ :=
    governed_of_builds? (isOrderly_run_build? hbuild pre) hbuilds
  -- running the circuit changed neither its resource nor its rule
  have hr : o.resource = r := hor.trans ((Circuit.resource_run birth done).symm.trans hresource)
  rw [Circuit.rule_run, ← hr]
  exact ⟨pre, op, post, o, now, birth, done, hops, hop, rfl, hbuilds, rfl, hrule⟩

/-- **In an engine that hears of changes, the rule still governs** calls from that caller. -/
theorem exists_governed_now {setup : EngineSetup} {s : RuleStore} {start : Nat} {first : Engine}
    (hs : s.Reachable) (hsource : setup.source = .store s true)
    (hbuild : build? setup start = .ok first) (hc : (first.run ops).1.cache.circuit? r = some c) :
    ∃ o now, first.CreatedBy ops r o now ∧
      (first.run ops).1.ruleFor? r o.caller = some c.rule := by
  have h := wellKept_build? hsource hs hbuild
  have hd : (first.run ops).1.WellKept := wellKept_run h ops
  have hempty : first.cache.entries = [] := by
    obtain ⟨-, rfl⟩ := eq_of_build? hbuild
    rfl
  obtain ⟨x, hx, serial, rfl, hslot⟩ := CircuitCache.exists_of_circuit? hd.cache.isPlaced hc
  obtain ⟨o, now, hcreated, hcurrent⟩ := exists_createdBy h hempty ops x hx
  rw [hslot] at hcurrent
  obtain ⟨a, built, done, ha, hbuilt, rfl⟩ := hcurrent
  rw [Circuit.rule_run, Circuit.rule_of_build? hbuilt]
  exact ⟨o, now, hcreated, ruleFor?_of_decision hd.patterns ha⟩

/-! ## An outcome that no rule governs -/

/-- **An outcome that no rule governs never makes a circuit, and counts for one that is there.** Take an
    engine that was built, on any rules, and any operations. Let no rule govern calls from the caller of
    an outcome to its resource now. When the outcome is reported, at any time,

    * the circuits of all other resources stay as they are, and so do those that are out of use;
    * if there is no circuit for the resource, then there is none afterwards, the answer is no, and
      nobody is told anything;
    * a circuit for the resource takes the outcome, and the engine does the same for all callers. One of
      the operations built that circuit: it was a report of a call that its rule governed then. If the
      engine hears of the changes in its rule store, then the rule governs such calls now, so they come
      from another caller. -/
theorem ungoverned_report {setup : EngineSetup} {start : Nat} {first : Engine}
    (hbuild : build? setup start = .ok first) (ops : List Op) (o : Outcome) (now : Nat)
    (hnone : (first.run ops).1.ruleFor? o.resource o.caller = none) :
    let e := (first.run ops).1
    let after := (e.report o now).engine
    (∀ r, r ≠ o.resource → after.cache.circuit? r = e.cache.circuit? r) ∧
    after.cache.retired = e.cache.retired ∧
    (e.cache.circuit? o.resource = none →
      after.cache.circuit? o.resource = none ∧ (e.report o now).result = .ok false ∧
      (e.report o now).notices = []) ∧
    ∀ c, e.cache.circuit? o.resource = some c →
      after.cache.circuit? o.resource = some (c.report o now).1 ∧
      (∀ caller, e.report { o with caller } now = e.report o now) ∧
      (∃ pre op post maker since birth done, ops = pre ++ op :: post ∧
        op.report? = some (maker, since) ∧ maker.resource = o.resource ∧
        (first.run pre).1.builds? op = some birth ∧ c = (birth.run done).1 ∧
        (first.run pre).1.ruleFor? o.resource maker.caller = some c.rule) ∧
      ∀ s : RuleStore, s.Reachable → setup.source = .store s true →
        ∃ maker since, first.CreatedBy ops o.resource maker since ∧
          e.ruleFor? o.resource maker.caller = some c.rule ∧ maker.caller ≠ o.caller := by
  intro e after
  have h : e.IsOrderly := isOrderly_run_build? hbuild ops
  have hcircuit : ∀ r, after.cache.circuit? r =
      (e.cache.circuit? r).map (onAll [o.resource] (fun c => (c.report o now).1) r) :=
    circuit?_report h hnone now
  refine ⟨fun r hr => ?others, retired_report h o now, fun habsent => ⟨?still, ?quiet⟩,
    fun c hc => ⟨?takes, fun caller => report_of_caller hc caller now,
      exists_governed_report hbuild hc, fun s hs hsource => ?now⟩⟩
  case others =>
    have hother : r ∉ [o.resource] := by simpa using hr
    rw [hcircuit]
    cases e.cache.circuit? r with
    | none => rfl
    | some d => exact congrArg some (onAll_of_not_mem hother d)
  case still =>
    rw [hcircuit, habsent]
    rfl
  case quiet => exact report_of_no_circuit h hnone habsent now
  case takes =>
    rw [hcircuit, hc, onAll_of_mem (List.mem_singleton_self o.resource)]
    rfl
  case now =>
    obtain ⟨maker, since, hcreated, hrule⟩ := exists_governed_now hs hsource hbuild hc
    refine ⟨maker, since, hcreated, hrule, fun hsame => ?_⟩
    rw [← hsame, hrule] at hnone
    cases hnone

/-- `Circuit.sampleRule`, for calls from one service only. -/
def webRule : Rule := { Circuit.sampleRule with matcher.source := { name := "web" } }

/-- A store with no rule but `webRule`. -/
def webStore : RuleStore :=
  ((RuleStore.empty standardCompiler toString).load Circuit.sample.resource.key [webRule]).1

/-- Settings with no rule but `webRule`. -/
def webSetup : EngineSetup where
  compile := standardCompiler
  source := .store webStore true

/-- A new engine with these settings. -/
def webSample : Engine where
  toEngineSetup := webSetup
  patterns := PatternCache.ofCapacity 1024
  lastSweep := 0

/-- A failed call from some service to the resource of the sample circuit. -/
def failureFrom (name : String) : Outcome :=
  { Circuit.sampleOutcome .fail with caller := some { realm := "default", name } }

/-- Nothing comes of a failed call from a service that no rule names, until a call from the other one
    has made a circuit. -/
theorem sample_ungoverned_report :
    build? webSetup 0 = .ok webSample ∧
    webSample.ruleFor? Circuit.sample.resource (failureFrom "cron").caller = none ∧
    (webSample.report (failureFrom "cron") 5).result = .ok false ∧
    (let ops := [.report (failureFrom "web") 5]
     let e := (webSample.run ops).1
     e.ruleFor? Circuit.sample.resource (failureFrom "cron").caller = none ∧
     ∃ c, e.cache.circuit? Circuit.sample.resource = some c ∧
      (e.report (failureFrom "cron") 6).engine.cache.circuit? Circuit.sample.resource =
        some (c.report (failureFrom "web") 6).1 ∧
      ∃ maker since, webSample.CreatedBy ops Circuit.sample.resource maker since ∧
        maker.caller ≠ (failureFrom "cron").caller) := by
  have hbuild : build? webSetup 0 = .ok webSample := rfl
  have hstore : webStore.Reachable := .load _ _ (.empty _ _)
  have hfirst : webSample.ruleFor? Circuit.sample.resource (failureFrom "cron").caller = none := by
    decide
  have hlater : ((webSample.run [.report (failureFrom "web") 5]).1).ruleFor?
      Circuit.sample.resource (failureFrom "cron").caller = none := by
    decide
  obtain ⟨-, -, hquiet, -⟩ := ungoverned_report hbuild [] (failureFrom "cron") 5 hfirst
  obtain ⟨-, -, -, hshared⟩ :=
    ungoverned_report hbuild [.report (failureFrom "web") 5] (failureFrom "cron") 6 hlater
  have hmade : ((webSample.run [.report (failureFrom "web") 5]).1.cache.circuit?
      Circuit.sample.resource).isSome = true := by
    decide
  obtain ⟨c, hc⟩ := Option.isSome_iff_exists.mp hmade
  obtain ⟨htakes, -, -, hnow⟩ := hshared c hc
  obtain ⟨maker, since, hcreated, -, hother⟩ := hnow _ hstore rfl
  exact ⟨hbuild, hfirst, (hquiet rfl).2.1, hlater, c, hc, htakes, maker, since, hcreated, hother⟩

/-- **The promise that an outcome that no rule governs does nothing**: the answer is no, and every circuit
    stays as it is. -/
def MindsTheCaller : Prop :=
  ∀ (setup : EngineSetup) (start : Nat) (first : Engine), build? setup start = .ok first →
    ∀ (ops : List Op) (o : Outcome) (now : Nat),
      (first.run ops).1.ruleFor? o.resource o.caller = none →
      ((first.run ops).1.report o now).result = .ok false ∧
      ∀ r, ((first.run ops).1.report o now).engine.cache.circuit? r =
        (first.run ops).1.cache.circuit? r

/-- **The outcome counts for a circuit that another caller's report made**: after one failed call from the
    service that the rule names, one from a service that it does not name opens the circuit. -/
theorem counted_for_another_caller :
    let e := (webSample.run [.report (failureFrom "web") 5]).1
    build? webSetup 0 = .ok webSample ∧
    e.ruleFor? Circuit.sample.resource (failureFrom "cron").caller = none ∧
    (e.report (failureFrom "cron") 6).result = .ok true ∧
    (e.cache.circuit? Circuit.sample.resource).map Circuit.phase = some .closed ∧
    ((e.report (failureFrom "cron") 6).engine.cache.circuit? Circuit.sample.resource).map
      Circuit.phase = some .opened ∧
    ¬MindsTheCaller := by
  intro e
  have hbuild : build? webSetup 0 = .ok webSample := rfl
  have hnone : e.ruleFor? Circuit.sample.resource (failureFrom "cron").caller = none := by decide
  have hmoves : (e.report (failureFrom "cron") 6).result = .ok true := rfl
  refine ⟨hbuild, hnone, hmoves, by decide, by decide, fun hminds => ?_⟩
  obtain ⟨hidle, -⟩ :=
    hminds webSetup 0 webSample hbuild [.report (failureFrom "web") 5] (failureFrom "cron") 6 hnone
  rw [hmoves] at hidle
  cases hidle

end Engine

end CircuitBreaker

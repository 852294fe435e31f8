import CircuitBreaker.Proofs.Engine.Freshness
import CircuitBreaker.Proofs.Engine.Similar

/-!
# `Proofs.Engine.Noninterference` — services do not interfere

All services share the compiled patterns, the tables, the sweeps and the rounds of a tick. What one of
them gets to see of a run is its `trace`: the answers to the operations on it, every change of one of
its resources with what the listeners did over it, and the operations on all services as they pass.

The proof goes by one operation at a time. An operation on another service leaves the engine similar to
what it was, and adds nothing to the trace (`similar_step_of_other`, `events_of_other`). Any other
operation keeps similar engines similar, and adds the same to the trace of both (`Similar.step`,
`Similar.events`). So a run can be compared with the one that leaves the other services out
(`trace_filter`), and two runs that differ in these only look the same (`services_do_not_interfere`).
-/

namespace CircuitBreaker

namespace Circuit

/-- Waking does not depend on the revision. -/
theorem bare_wakened (now : Nat) (c : Circuit) : (c.wakened now).bare = c.bare.wakened now := by
  unfold wakened
  rw [phase_bare, evaluate_bare]
  split <;> rfl

theorem bare_admitted (c : Circuit) : c.admitted.bare = c.bare.admitted := by
  unfold admitted
  rw [acquireProbe?_bare]
  cases c.acquireProbe? <;> rfl

end Circuit

namespace Engine

variable {service other : ServiceKey} {e d : Engine} {op : Op} {r : Resource} {o : Outcome} {now : Nat}

/-! ## Operations on another service -/

/-- The resources that are looked at before a call are of the service that is called. -/
theorem key_of_mem_guards {s : Resource} (hs : s ∈ r :: r.parents) : s.key = r.key := by
  rcases List.mem_cons.mp hs with rfl | hparent
  · rfl
  · exact Resource.key_of_mem_parents hparent

theorem similar_report_of_other (he : e.IsOrderly) (hr : o.resource.key ≠ service) (now : Nat) :
    Similar service e (e.report o now).engine := by
  by_cases hactive : e.isActive = true
  · rw [report_engine hactive (he.informed hactive o now).cache]
    refine (similar_informed_of_other he hr now).trans (similar_mapCircuits_onAll_of_other _ ?_ _)
    intro s hs
    rwa [List.mem_singleton.mp hs]
  · unfold report
    rw [if_neg hactive]
    exact .refl service e

theorem similar_acquire_of_other (he : e.IsOrderly) (hr : r.key ≠ service) (now : Nat) :
    Similar service e (e.acquire r now).engine := by
  have hguards : ∀ s ∈ r :: r.parents, s.key ≠ service := fun s hs => by
    rwa [key_of_mem_guards hs]
  have hawake : Similar service e (e.awake r now) := similar_mapCircuits_onAll_of_other e hguards _
  by_cases hactive : e.isActive = true
  · rcases acquire_cases he.cache hactive r now with ⟨_, hengine⟩ | ⟨_, woke, _, _, hengine, hpre⟩
    · rw [hengine, answered]
      split
      · exact hawake.trans (similar_mapCircuits_onAll_of_other _ hguards _)
      · exact hawake
    · rw [hengine]
      exact similar_mapCircuits_onAll_of_other e (fun s hs => hguards s (hpre.subset hs)) _
  · unfold acquire
    rw [if_neg hactive]
    exact .refl service e

/-- **An operation on another service leaves no trace in the engine** that this service could see. -/
theorem similar_step_of_other (he : e.IsOrderly) (hop : op.service? = some other)
    (hne : other ≠ service) : Similar service e (e.step op).1 := by
  cases op with
  | report o now =>
      cases hop
      simp only [step, Answer.ofReply_engine]
      exact similar_report_of_other he hne now
  | reportSeen o now =>
      cases hop
      simp only [step, Answer.ofReply_engine]
      exact similar_report_of_other he hne (min o.timestamp now)
  | check r => exact .refl service e
  | acquire r now =>
      cases hop
      simp only [step, Answer.ofReply_engine]
      exact similar_acquire_of_other he hne now
  | ruleChanged k =>
      cases hop
      exact similar_ruleChanged_of_other e hne
  | load k rules =>
      cases hop
      have hsource := RuleSource.agreeOn_load_of_other hne.symm e.source rules
      exact ((Similar.refl service e).withSource hsource).trans
        (similar_hear_of_other _ hne fun _ => RuleSource.service_of_load)
  | clear k =>
      cases hop
      have hsource := RuleSource.agreeOn_clear_of_other hne.symm e.source
      exact ((Similar.refl service e).withSource hsource).trans
        (similar_hear_of_other _ hne fun _ => RuleSource.service_of_clear)
  | tick now => cases hop
  | cleanup now => cases hop
  | destroy => cases hop

/-! ## Operations on the service -/

theorem Similar.report (h : Similar service e d) (he : e.IsOrderly) (hd : d.IsOrderly)
    (hr : o.resource.key = service) (now : Nat) :
    Similar service (e.report o now).engine (d.report o now).engine ∧
      (e.report o now).result = (d.report o now).result := by
  by_cases hactive : e.isActive = true
  · have hdactive : d.isActive = true := h.isActive ▸ hactive
    have hetidy := (he.informed hactive o now).cache
    have hinformed := h.informed he hd hr now
    have hnews : e.reportNews o now = d.reportNews o now := hinformed.reportNews hr
    have hmoved : Similar service
        ((e.informed o now).mapCircuits (onAll [o.resource] fun c => (c.report o now).1))
        ((d.informed o now).mapCircuits (onAll [o.resource] fun c => (c.report o now).1)) :=
      hinformed.mapCircuits_onAll _ fun c => by rw [c.report_bare]; rfl
    rw [report_eq hactive hetidy, report_eq hdactive (hd.informed hdactive o now).cache, ← hnews]
    refine ⟨hmoved, hmoved.tell fun t ht => ?_⟩
    rw [resource_of_reportNews hetidy ht]
    exact hr
  · have hdactive : ¬d.isActive = true := h.isActive ▸ hactive
    unfold Engine.report
    rw [if_neg hactive, if_neg hdactive]
    exact ⟨h, rfl⟩

/-- The same listeners fail over the circuits that wake before a call. -/
theorem Similar.wakeFault? (h : Similar service e d) (he : e.cache.IsTidy) (hr : r.key = service)
    (now : Nat) : e.wakeFault? now r = d.wakeFault? now r := by
  unfold Engine.wakeFault?
  rw [← h.wakeNews hr now, h.deliverAny fun t ht => ?_]
  rw [resource_of_wakeNews he ht]
  exact hr

theorem Similar.acquire (h : Similar service e d) (he : e.IsOrderly) (hd : d.IsOrderly)
    (hr : r.key = service) (now : Nat) :
    Similar service (e.acquire r now).engine (d.acquire r now).engine ∧
      (e.acquire r now).result = (d.acquire r now).result := by
  by_cases hactive : e.isActive = true
  · have hdactive : d.isActive = true := h.isActive ▸ hactive
    have hfault : ∀ s ∈ r :: r.parents, e.wakeFault? now s = d.wakeFault? now s := fun s hs =>
      h.wakeFault? he.cache ((key_of_mem_guards hs).trans hr) now
    have hawake : Similar service (e.awake r now) (d.awake r now) :=
      h.mapCircuits_onAll _ (Circuit.bare_wakened now)
    rw [acquire_eq he.cache hactive, acquire_eq hd.cache hdactive, ← findSome?_congr hfault]
    cases (r :: r.parents).findSome? (e.wakeFault? now) with
    | some message =>
        simp only [woken_congr hfault]
        exact ⟨h.mapCircuits_onAll _ (Circuit.bare_wakened now), trivial⟩
    | none =>
        simp only [hawake.verdict hr]
        refine ⟨?_, trivial⟩
        unfold answered
        rw [hawake.verdict hr]
        split
        · exact hawake.mapCircuits_onAll _ Circuit.bare_admitted
        · exact hawake
  · have hdactive : ¬d.isActive = true := h.isActive ▸ hactive
    unfold Engine.acquire
    rw [if_neg hactive, if_neg hdactive]
    exact ⟨h, rfl⟩

theorem Similar.load (h : Similar service e d) (rules : List Rule) :
    Similar service (e.load service rules).1 (d.load service rules).1 ∧
      (e.load service rules).2 = (d.load service rules).2 := by
  obtain ⟨hsource, htold⟩ := h.setup.source.load rules
  exact (h.withSource hsource).hear htold (fun _ => RuleSource.service_of_load)
    fun _ => RuleSource.service_of_load

theorem Similar.clear (h : Similar service e d) :
    Similar service (e.clear service).1 (d.clear service).1 ∧
      (e.clear service).2 = (d.clear service).2 := by
  obtain ⟨hsource, htold⟩ := h.setup.source.clear
  exact (h.withSource hsource).hear htold (fun _ => RuleSource.service_of_clear)
    fun _ => RuleSource.service_of_clear

/-! ## Operations on all services -/

theorem Similar.tick (h : Similar service e d) (he : e.IsOrderly) (hd : d.IsOrderly) (now : Nat) :
    Similar service (e.tick now).1 (d.tick now).1 := by
  by_cases hactive : e.isActive = true
  · have hdactive : d.isActive = true := h.isActive ▸ hactive
    have hmoved : Similar service (e.mapCircuits fun _ c => (c.evaluate now).1)
        (d.mapCircuits fun _ c => (c.evaluate now).1) :=
      h.mapCircuits fun _ _ c => by rw [c.evaluate_bare]; rfl
    unfold Engine.tick
    rw [tickAlong_engine hactive he.cache (.refl _), tickAlong_engine hdactive hd.cache (.refl _)]
    exact hmoved.sweepIfDue now
  · have hdactive : ¬d.isActive = true := h.isActive ▸ hactive
    unfold Engine.tick tickAlong
    rw [if_neg hactive, if_neg hdactive]
    exact h

/-- Whether an operation is on the service or on all. -/
def Op.concerns (service : ServiceKey) (op : Op) : Bool := op.service?.all fun k => k == service

theorem Op.concerns_iff : op.concerns service = true ↔ ∀ k, op.service? = some k → k = service := by
  unfold concerns
  cases op.service? <;> simp

/-- The answer is read off the result. -/
theorem Answer.ofReply_congr {α : Type} (answer : α → Answer) {x y : Reply α}
    (h : x.result = y.result) : (Answer.ofReply answer x).2.1 = (Answer.ofReply answer y).2.1 := by
  unfold Answer.ofReply
  rw [h]
  split <;> rfl

/-- **Every operation that concerns the service** keeps similar engines similar, and one that is on it
    gets the same answer from both. -/
theorem Similar.step (h : Similar service e d) (he : e.IsOrderly) (hd : d.IsOrderly)
    (hop : op.concerns service = true) :
    Similar service (e.step op).1 (d.step op).1 ∧
      (op.service? = some service → (e.step op).2.1 = (d.step op).2.1) := by
  have named {k : ServiceKey} (hk : op.service? = some k) : k = service := Op.concerns_iff.mp hop k hk
  cases op with
  | report o now =>
      obtain ⟨hengine, hresult⟩ := h.report he hd (named rfl) now
      simp only [Engine.step, Answer.ofReply_engine]
      exact ⟨hengine, fun _ => Answer.ofReply_congr .changed hresult⟩
  | reportSeen o now =>
      obtain ⟨hengine, hresult⟩ := h.report he hd (named rfl) (min o.timestamp now)
      simp only [Engine.step, Answer.ofReply_engine]
      exact ⟨hengine, fun _ => Answer.ofReply_congr .changed hresult⟩
  | check r =>
      refine ⟨h, fun _ => ?_⟩
      simp only [Engine.step, h.statusOf (named rfl)]
  | acquire r now =>
      obtain ⟨hengine, hresult⟩ := h.acquire he hd (named rfl) now
      simp only [Engine.step, Answer.ofReply_engine]
      exact ⟨hengine, fun _ => Answer.ofReply_congr .permission hresult⟩
  | ruleChanged k =>
      cases named rfl
      obtain ⟨hengine, hcount⟩ := h.ruleChanged
      exact ⟨hengine, fun _ => congrArg Answer.removed hcount⟩
  | load k rules =>
      cases named rfl
      obtain ⟨hengine, hanswer⟩ := h.load rules
      exact ⟨hengine, fun _ => congrArg Answer.changed hanswer⟩
  | clear k =>
      cases named rfl
      obtain ⟨hengine, hanswer⟩ := h.clear
      exact ⟨hengine, fun _ => congrArg Answer.changed hanswer⟩
  | tick now => exact ⟨h.tick he hd now, fun hs => by cases hs⟩
  | cleanup now =>
      refine ⟨?_, fun hs => by cases hs⟩
      simp only [Engine.step, cleanup, h.isDestroyed]
      split
      · exact h
      · exact h.sweep now
  | destroy => exact ⟨h.destroy, fun hs => by cases hs⟩

/-! ## What a service gets to see -/

/-- What a service gets to see of a run. -/
inductive Event where
  /-- The answer to an operation on it, and what the listeners left behind. -/
  | answered (a : Answer) (notices : List Notice)
  /-- A change of one of its resources, and what came of telling the listeners. -/
  | told (t : Transition) (delivery : Delivery)
  /-- An operation on all services. -/
  | passed
deriving DecidableEq, Repr

/-- What a service gets to see of one operation. -/
def events (service : ServiceKey) (e : Engine) (op : Op) : List Event :=
  ((e.news op).filter fun t => t.resource.key == service).map
      (fun t => .told t (deliver e.listeners t)) ++
    match op.service? with
    | some k => if k = service then [.answered (e.step op).2.1 (e.step op).2.2] else []
    | none => [.passed]

/-- What a service gets to see of a run. -/
def trace (service : ServiceKey) (e : Engine) : List Op → List Event
  | [] => []
  | op :: rest => e.events service op ++ (e.step op).1.trace service rest

/-- An operation on another service is nothing to see. -/
theorem events_of_other (he : e.IsOrderly) (hop : op.service? = some other) (hne : other ≠ service) :
    e.events service op = [] := by
  have hnews : ((e.news op).filter fun t => t.resource.key == service) = [] := by
    refine List.filter_eq_nil_iff.mpr fun t ht => ?_
    rw [key_of_mem_news he hop ht]
    simpa using hne
  unfold events
  simp only [hnews, hop, if_neg hne, List.map_nil, List.append_nil]

/-- The news of a service in a tick are those of its resources. -/
theorem filter_evaluateNews (he : e.cache.IsTidy) (service : ServiceKey) (now : Nat)
    (rs : List Resource) :
    ((rs.filterMap fun s => e.evaluateNews s now).filter fun t => t.resource.key == service) =
      (rs.filter fun s => s.key == service).filterMap fun s => e.evaluateNews s now := by
  rw [List.filter_filterMap, List.filterMap_filter]
  refine List.filterMap_congr fun s _ => ?_
  cases hnews : e.evaluateNews s now with
  | none => simp
  | some t =>
      rw [Option.filter_some, resource_of_evaluateNews he hnews]

/-- **Similar engines tell the same of the service.** -/
theorem Similar.news (h : Similar service e d) (he : e.IsOrderly) (hd : d.IsOrderly)
    (hop : op.concerns service = true) :
    ((e.news op).filter fun t => t.resource.key == service) =
      (d.news op).filter fun t => t.resource.key == service := by
  have named {k : ServiceKey} (hk : op.service? = some k) : k = service := Op.concerns_iff.mp hop k hk
  unfold Engine.news
  rw [← h.isActive]
  split
  · cases op with
    | report o now => simp only [(h.informed he hd (named rfl) now).reportNews (named rfl)]
    | reportSeen o now => simp only [(h.informed he hd (named rfl) _).reportNews (named rfl)]
    | acquire r now =>
        have hkey : ∀ s ∈ r :: r.parents, s.key = service := fun s hs =>
          (key_of_mem_guards hs).trans (named rfl)
        simp only
        rw [woken_congr fun s hs => h.wakeFault? he.cache (hkey s hs) now]
        refine congrArg _ (List.filterMap_congr fun s hs => ?_)
        exact h.wakeNews (hkey s ((d.woken_prefix now _).subset hs)) now
    | tick now =>
        simp only [filter_evaluateNews he.cache, filter_evaluateNews hd.cache,
          h.cache.trackedResources]
        refine List.filterMap_congr fun s hs => ?_
        exact h.evaluateNews (beq_iff_eq.mp (List.mem_filter.mp hs).2) now
    | check r => rfl
    | cleanup now => rfl
    | ruleChanged k => rfl
    | load k rules => rfl
    | clear k => rfl
    | destroy => rfl
  · rfl

/-- An operation on the service leaves the same behind with the listeners of similar engines. -/
theorem Similar.notices (h : Similar service e d) (he : e.IsOrderly) (hd : d.IsOrderly)
    (hop : op.service? = some service) : (e.step op).2.2 = (d.step op).2.2 := by
  have own {b : Engine} (hb : b.IsOrderly) :
      ((b.news op).filter fun t => t.resource.key == service) = b.news op :=
    List.filter_eq_self.mpr fun t ht => beq_iff_eq.mpr (key_of_mem_news hb hop ht)
  have hnews : e.news op = d.news op := by
    rw [← own he, ← own hd]
    refine h.news he hd (Op.concerns_iff.mpr fun k hk => ?_)
    rw [hop] at hk
    cases hk
    rfl
  rw [notices_step he, notices_step hd, hnews]
  refine List.flatMap_congr fun t ht => ?_
  rw [h.setup.listeners t (key_of_mem_news hd hop ht)]

/-- **Similar engines show the service the same** in every operation that concerns it. -/
theorem Similar.events (h : Similar service e d) (he : e.IsOrderly) (hd : d.IsOrderly)
    (hop : op.concerns service = true) : e.events service op = d.events service op := by
  unfold Engine.events
  rw [h.news he hd hop]
  congr 1
  · refine List.map_congr_left fun t ht => ?_
    rw [h.setup.listeners t (beq_iff_eq.mp (List.mem_filter.mp ht).2)]
  · cases hk : op.service? with
    | none => rfl
    | some k =>
        obtain rfl : k = service := Op.concerns_iff.mp hop k hk
        simp only [(h.step he hd hop).2 hk, h.notices he hd hk]

/-! ## Runs -/

/-- **An engine serves a service as if it were alone.** Leaving out the operations on other services
    changes nothing that the service gets to see. -/
theorem trace_filter (h : Similar service e d) (he : e.IsOrderly) (hd : d.IsOrderly) (ops : List Op) :
    d.trace service (ops.filter (Op.concerns service)) = e.trace service ops ∧
      Similar service (e.run ops).1 (d.run (ops.filter (Op.concerns service))).1 := by
  induction ops generalizing e d with
  | nil => exact ⟨rfl, h⟩
  | cons op rest ih =>
      cases hop : op.concerns service with
      | true =>
          obtain ⟨htrace, hrun⟩ :=
            ih (h.step he hd hop).1 (isOrderly_step he op) (isOrderly_step hd op)
          rw [List.filter_cons_of_pos hop, run_cons, run_cons]
          refine ⟨?_, hrun⟩
          unfold trace
          rw [htrace, h.events he hd hop]
      | false =>
          -- the operation is on another service, and only one of the engines goes through it
          have hskip : ¬op.concerns service = true := by simp [hop]
          obtain ⟨other, hk, hne⟩ : ∃ other, op.service? = some other ∧ other ≠ service := by
            simpa [Op.concerns_iff] using hskip
          have hstep := similar_step_of_other he hk hne
          obtain ⟨htrace, hrun⟩ := ih (hstep.symm.trans h) (isOrderly_step he op) hd
          rw [List.filter_cons_of_neg hskip, run_cons]
          refine ⟨?_, hrun⟩
          rw [htrace, trace, events_of_other he hk hne, List.nil_append]

/-- **Services do not interfere.** Take two engines whose setups agree on a service: the settings are the
    same but for the number of patterns that are kept, and so are the precedence, the compilers, the rules
    of the service at first, and the listeners as far as its resources go. They are built at the same
    time, and each runs operations. Those on the service and those on all services are the same, in the
    same order and at the same times; those on other services are any.
    * The service gets to see the same: every answer to an operation on it, and every change of one of its
      resources that the listeners are told, with what they did over it.
    * Afterwards every resource of the service has the same status.
    * Nothing that the listeners are told is missing from what the services get to see: in either run, all
      that an operation leaves behind with the listeners, a tick included, is what they leave behind over
      its news, of which each service sees its own. -/
theorem services_do_not_interfere {service : ServiceKey} {s t : EngineSetup}
    (hsetup : s.AgreeOn service t) {start : Nat} {e d : Engine} (he : build? s start = .ok e)
    (hd : build? t start = .ok d) {ops more : List Op}
    (hops : ops.filter (Op.concerns service) = more.filter (Op.concerns service)) :
    e.trace service ops = d.trace service more ∧
      (∀ r, r.key = service → (e.run ops).1.statusOf r = (d.run more).1.statusOf r) ∧
      ∀ b, b = e ∨ b = d → ∀ done op, ((b.run done).1.step op).2.2 =
        noticesOf (b.run done).1.listeners ((b.run done).1.news op) := by
  have heorderly := isOrderly_build? he
  have hdorderly := isOrderly_build? hd
  have hsimilar : Similar service e d := by
    obtain ⟨_, rfl⟩ := eq_of_build? he
    obtain ⟨_, rfl⟩ := eq_of_build? hd
    exact ⟨hsetup, fun _ => rfl, rfl, rfl⟩
  -- both runs are compared with that of the second engine on what concerns the service
  obtain ⟨hetrace, herun⟩ := trace_filter hsimilar heorderly hdorderly ops
  obtain ⟨hdtrace, hdrun⟩ := trace_filter (.refl service d) hdorderly hdorderly more
  rw [hops] at hetrace herun
  refine ⟨hetrace.symm.trans hdtrace, fun r hr => ?_, ?_⟩
  · rw [herun.statusOf hr, hdrun.statusOf hr]
  · rintro b (rfl | rfl) done op
    · exact notices_step (isOrderly_run_build? he done) op
    · exact notices_step (isOrderly_run_build? hd done) op

/-- A new engine that logs what it does, with rules for the service of the sample circuit. -/
def quiet : Engine where
  compile := standardCompiler
  source := .store sampleStore true
  listeners := [Listener.recorder "log"]
  patterns := PatternCache.ofCapacity 1024
  lastSweep := 0

/-- A new engine with the same rules and others, that keeps one pattern and has listeners that fail over
    the other service. -/
def busy : Engine where
  config := { patternCapacity := 1 }
  compile := standardCompiler
  source := .store (sampleStore.load sampleService [Circuit.sampleRule]).1 true
  listeners := [Listener.faulty "other" .opened, Listener.recorder "log",
    Listener.faulty "other" .halfOpen]
  patterns := PatternCache.ofCapacity 1
  lastSweep := 0

/-- Two failures, a call that is refused, a tick after the sleep window and a trial call. -/
def quietOps : List Op :=
  [.report (Circuit.sampleOutcome .fail) 5, .report (Circuit.sampleOutcome .fail) 6,
    .acquire Circuit.sample.resource 7, .tick 1006, .acquire Circuit.sample.resource 1007]

/-- The same, while the other service fails too, wakes in the same tick and then loses its rules. -/
def busyOps : List Op :=
  [.report { resource := .service sampleService, verdict := .fail } 5,
    .report (Circuit.sampleOutcome .fail) 5,
    .report { resource := .service sampleService, verdict := .fail } 6,
    .report (Circuit.sampleOutcome .fail) 6, .acquire Circuit.sample.resource 7, .tick 1006,
    .clear sampleService, .acquire Circuit.sample.resource 1007]

/-- Listeners fail over the other service, in a report and in the tick, and all its circuits go. The
    first service sees nothing of that. -/
theorem quiet_busy_do_not_interfere :
    build? quiet.toEngineSetup 0 = .ok quiet ∧ build? busy.toEngineSetup 0 = .ok busy ∧
    quiet.AgreeOn Circuit.sample.resource.key busy.toEngineSetup ∧
    quietOps.filter (Op.concerns Circuit.sample.resource.key) =
      busyOps.filter (Op.concerns Circuit.sample.resource.key) ∧
    (busy.run busyOps).2.map (fun a => a.1) =
      [.changed false, .changed false, .fault "listener of other failed", .changed true,
        .permission (.refused "errors" (some { code := 503 })), .nothing, .changed true,
        .permission {}] ∧
    (quiet.trace Circuit.sample.resource.key quietOps).length = 7 ∧
    quiet.trace Circuit.sample.resource.key quietOps =
      busy.trace Circuit.sample.resource.key busyOps ∧
    ((quiet.run quietOps).1.statusOf Circuit.sample.resource).phase = .halfOpen ∧
    ((busy.run busyOps).1.statusOf Circuit.sample.resource).phase = .halfOpen ∧
    (let b := (busy.run (busyOps.take 5)).1
     (b.step (.tick 1006)).2.2 = noticesOf busy.listeners (b.news (.tick 1006))) := by
  have hquiet : build? quiet.toEngineSetup 0 = .ok quiet := rfl
  have hbusy : build? busy.toEngineSetup 0 = .ok busy := rfl
  have hagree : quiet.AgreeOn Circuit.sample.resource.key busy.toEngineSetup := by
    refine ⟨rfl, rfl, rfl, fun u hu => ?_, ⟨rfl, rfl, rfl⟩⟩
    -- a listener that fails over the other service is silent over this one
    have hname : u.resource.key.name ≠ "other" := by
      rw [hu]
      decide
    simp [quiet, busy, deliver, Listener.faulty, Listener.recorder, hname]
  have hsame : quietOps.filter (Op.concerns Circuit.sample.resource.key) =
      busyOps.filter (Op.concerns Circuit.sample.resource.key) := rfl
  obtain ⟨htrace, hstatus, htold⟩ := services_do_not_interfere hagree hquiet hbusy hsame
  have hphase : ((quiet.run quietOps).1.statusOf Circuit.sample.resource).phase = .halfOpen := by
    decide
  refine ⟨hquiet, hbusy, hagree, hsame, by decide, by decide, htrace, hphase, ?_, ?_⟩
  · rw [← hstatus _ rfl]
    exact hphase
  · exact htold busy (Or.inr rfl) (busyOps.take 5) (.tick 1006)

end Engine

end CircuitBreaker

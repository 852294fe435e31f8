import CircuitBreaker.Circuit.Watched
import CircuitBreaker.Proofs.Engine.Freshness
import CircuitBreaker.Proofs.Engine.InPlace
import CircuitBreaker.Proofs.Engine.Orderly

/-!
# `Proofs.Engine.Isolation` — a listener that fails takes nothing with it

Listeners are told of a change after the circuit was put back. So what they do cannot show in the
engine: a report leaves the same circuit whether or not a listener fails over it
(`report_with_listeners`), and a tick brings every circuit to where time alone would bring it, in
whatever order they come and whoever fails on the way (`tickAlong_engine`). `tick_isolated` says this of
every engine that can be reached.
-/

namespace CircuitBreaker.Engine

variable {e : Engine} {now : Nat}

/-- The engine with other listeners. -/
def withListeners (e : Engine) (ls : List Listener) : Engine := { e with listeners := ls }

/-! ## Reports -/

/-- An engine finds or makes the same entry whoever listens. -/
theorem informed_withListeners (e : Engine) (ls : List Listener) (o : Outcome) (now : Nat) :
    (e.withListeners ls).informed o now = (e.informed o now).withListeners ls :=
  rfl

/-- **A report leaves the same engine behind whoever listens**, and so whoever fails. -/
theorem report_with_listeners (h : e.IsOrderly) (ls : List Listener) (o : Outcome) (now : Nat) :
    (e.report o now).engine =
      ((e.withListeners ls).report o now).engine.withListeners e.listeners := by
  by_cases hactive : e.isActive = true
  · have htidy : (e.informed o now).cache.IsTidy := (h.informed hactive o now).cache
    have hother : ((e.withListeners ls).informed o now).cache.IsTidy := by
      rw [informed_withListeners]
      exact htidy
    rw [report_engine hactive htidy, report_engine (e := e.withListeners ls) hactive hother,
      informed_withListeners]
    rfl
  · have hidle (d : Engine) (hd : d.isActive = e.isActive) : (d.report o now).engine = d := by
      unfold report
      rw [hd, if_neg hactive]
    rw [hidle e rfl, hidle (e.withListeners ls) rfl]
    rfl

/-! ## Every engine -/

/-- **A listener that fails is isolated.** Take an engine that was built with any listeners and has come
    through any operations, and that still does its work.
    * A tick never fails. Whatever the order in which it comes to the circuits, afterwards each of them
      is as evaluating it alone leaves it, with whatever listeners, silent ones for instance; and then
      what was not needed for too long is removed, if a sweep is due.
    * A report leaves the engine, and so its circuit, as the same report with other listeners does. -/
theorem tick_isolated {setup : EngineSetup} {start : Nat} {first : Engine}
    (hbuild : build? setup start = .ok first) (ops : List Op)
    (hactive : (first.run ops).1.isActive = true) (others : List Listener) (now : Nat) :
    let e := (first.run ops).1
    (e.step (.tick now)).2.1 = .nothing ∧
    (∀ order, order.Perm e.cache.trackedResources →
      let d := e.mapCircuits fun _ c => (c.watchedStep others (.evaluate now)).1
      (e.tickAlong order now).1 =
        if Clock.after e.lastSweep e.sweepPeriod ≤ now then
          { d with lastSweep := now, cache := (d.cache.expire now e.config.expireInterval).1 }
        else d) ∧
    ∀ o, (e.report o now).engine =
      ((e.withListeners others).report o now).engine.withListeners e.listeners := by
  intro e
  have h : e.IsOrderly := isOrderly_run_build? hbuild ops
  refine ⟨rfl, ?_, ?_⟩
  · intro order horder
    rw [tickAlong_engine hactive h.cache horder, sweepIfDue_eq]
    rfl
  · intro o
    exact report_with_listeners h others o now

/-- A new engine with the sample rule for two services, and a listener that fails over one of them. -/
def touchy : Engine where
  compile := standardCompiler
  source := .store (sampleStore.load sampleService [Circuit.sampleRule]).1 true
  listeners := [Listener.faulty "echo" .opened, Listener.faulty "echo" .halfOpen]
  patterns := PatternCache.ofCapacity 1024
  lastSweep := 0

/-- Two failures for each of the two services. -/
def touchyOps : List Op :=
  [Circuit.sample.resource, .service sampleService].flatMap fun resource =>
    [.report { resource, verdict := .fail } 5, .report { resource, verdict := .fail } 6]

/-- The listener fails over the report that opens the one circuit, and again when trial calls are let
    through. Still both circuits are open, and half open then. -/
theorem touchy_tick_isolated :
    build? touchy.toEngineSetup 0 = .ok touchy ∧ (touchy.run touchyOps).1.isActive = true ∧
    (let e := (touchy.run touchyOps).1
     (touchy.run touchyOps).2.map (fun a => a.1) =
        [.changed false, .fault "listener of echo failed", .changed false, .changed true] ∧
     e.cache.tracked.map Circuit.phase = [.opened, .opened] ∧
     (e.step (.tick 1006)).2.1 = .nothing ∧
     (e.tick 1006).1.cache.tracked.map Circuit.phase = [.halfOpen, .halfOpen] ∧
     (e.tickAlong e.cache.trackedResources.reverse 1006).1 =
       { e.mapCircuits (fun _ c => (c.watchedStep [] (.evaluate 1006)).1) with
          lastSweep := 1006
          cache := ((e.mapCircuits fun _ c =>
            (c.watchedStep [] (.evaluate 1006)).1).cache.expire 1006 60000).1 }) := by
  have hbuild : build? touchy.toEngineSetup 0 = .ok touchy := rfl
  have hactive : (touchy.run touchyOps).1.isActive = true := by decide
  obtain ⟨hanswer, htick, _⟩ := tick_isolated hbuild touchyOps hactive [] 1006
  refine ⟨hbuild, hactive, by decide, by decide, hanswer, by decide, ?_⟩
  rw [htick _ (List.reverse_perm _)]
  rfl

end CircuitBreaker.Engine

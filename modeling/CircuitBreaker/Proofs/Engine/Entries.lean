import CircuitBreaker.Engine.Run
import CircuitBreaker.Proofs.CircuitCache

/-!
# `Proofs.Engine.Entries` — where the entries of an engine come from

An operation on an engine may go through many circuits, but it adds an entry to the cache only if it is
a report on a resource that has none. Everything else leads to a **later** engine: the same but for
what was removed from the cache and for what happened to the circuits in it. There is one lemma for
each function of the engine that shows this.

A report is cut in two. First the engine looks for an entry and adds one if there is none
(`Engine.informed`); what it then does with the circuit leads to a later engine.

## Contents
- `Engine.Later`: everything but new entries.
- `later_acquire`, `later_tick`, `later_cleanup`, `later_ruleChanged`, `later_destroy`: the operations.
- `Engine.informed`, `later_report`: reports.
- `Engine.run_append`: sequences of operations.
-/

namespace CircuitBreaker.Engine

/-- **One engine comes after another** if it has the same rules, settings and compiled patterns, and a
    later cache. An engine that goes out of use has nothing left in its cache. -/
structure Later (e d : Engine) : Prop where
  setup : d.toEngineSetup = e.toEngineSetup
  patterns : d.patterns = e.patterns
  cache : e.cache.Later d.cache
  destroyed : d.isDestroyed = true → e.isDestroyed = true ∨ d.cache.entries = []

variable {e d : Engine}

theorem Later.refl (h : e.cache.IsTidy) : Later e e := ⟨rfl, rfl, .refl h, Or.inl⟩

theorem Later.trans {b : Engine} (hbe : Later b e) (hed : Later e d) : Later b d := by
  refine ⟨hed.setup.trans hbe.setup, hed.patterns.trans hbe.patterns, hbe.cache.trans hed.cache,
    fun hd => ?_⟩
  rcases hed.destroyed hd with he | hempty
  · exact (hbe.destroyed he).imp_right hed.cache.entries_eq_nil
  · exact Or.inr hempty

/-- Changing the cache alone. -/
theorem Later.ofCache {cache : CircuitCache} (h : e.cache.Later cache) : Later e { e with cache } :=
  ⟨rfl, rfl, h, Or.inl⟩

/-! ## One circuit -/

/-- **Settling** puts back a circuit after operations on it. -/
theorem later_settle (h : e.cache.IsTidy) {r : Resource} {circuit : Circuit}
    (hc : e.cache.circuit? r = some circuit) (ops : List Circuit.Op) (change : Option Transition) :
    Later e (e.settle (circuit.run ops).1 change).engine := by
  have hr : (circuit.run ops).1.resource = r := by
    rw [Circuit.resource_run]
    exact CircuitCache.resource_of_circuit? h hc
  refine .ofCache ?_
  rw [hr]
  exact CircuitCache.later_put h hc ops

theorem later_evaluate (h : e.cache.IsTidy) (r : Resource) (now : Nat) :
    Later e (e.evaluate r now).engine := by
  unfold evaluate
  cases hc : e.cache.circuit? r with
  | none => exact .refl h
  | some circuit => exact later_settle h hc [.evaluate now] _

/-! ## Permissions -/

theorem later_wake (h : e.cache.IsTidy) (now : Nat) (rs : List Resource) :
    Later e (e.wake now rs).engine := by
  induction rs generalizing e with
  | nil => exact .refl h
  | cons r rest ih =>
      unfold wake
      split
      · have hev := later_evaluate h r now
        cases hreply : e.evaluate r now with
        | mk engine result notices =>
            rw [hreply] at hev
            cases result with
            -- a listener that fails ends the round, but the circuit stays moved
            | error message => exact hev
            | ok moved => exact hev.trans (ih hev.cache.isTidy)
      · exact ih h

theorem later_giveBack {cache : CircuitCache} (h : cache.IsTidy) (taken : List Resource) :
    cache.Later (giveBack cache taken) := by
  unfold giveBack
  induction taken generalizing cache with
  | nil => exact .refl h
  | cons r rest ih =>
      rw [List.foldl_cons]
      cases hc : cache.circuit? r with
      | none => exact ih h
      | some circuit =>
          have hput := CircuitCache.later_put h hc [.releaseProbe]
          exact hput.trans (ih hput.isTidy)

theorem later_takeSlots {cache : CircuitCache} (h : cache.IsTidy) (taken rs : List Resource) :
    cache.Later (takeSlots cache taken rs).1 := by
  induction rs generalizing cache taken with
  | nil => exact .refl h
  | cons r rest ih =>
      unfold takeSlots
      cases hc : cache.circuit? r with
      | none => exact ih h taken
      | some circuit =>
          by_cases hp : circuit.phase = .halfOpen
          · simp only [if_pos hp]
            cases ha : circuit.acquireProbe? with
            | none => exact later_giveBack h taken
            | some next =>
                -- the slot is taken in the cache before the next resource is looked at
                have hrun : (circuit.run [.acquireProbe]).1 = next := by
                  simp [Circuit.run, Circuit.step, ha]
                have hput := CircuitCache.later_put h hc [.acquireProbe]
                rw [hrun] at hput
                exact hput.trans (ih hput.isTidy _)
          · simp only [if_neg hp]
            exact ih h taken

theorem later_acquire (h : e.cache.IsTidy) (r : Resource) (now : Nat) :
    Later e (e.acquire r now).engine := by
  unfold acquire
  split
  · have hwake := later_wake h now (r :: r.parents)
    cases hreply : e.wake now (r :: r.parents) with
    | mk engine result notices =>
        rw [hreply] at hwake
        cases result with
        | error message => exact hwake
        | ok u =>
            simp only
            split
            · exact hwake
            · exact hwake.trans (.ofCache (later_takeSlots hwake.cache.isTidy [] _))
  · exact .refl h

/-! ## Removing -/

theorem later_ruleChanged (h : e.cache.IsTidy) (service : ServiceKey) :
    Later e (e.ruleChanged service).1 := by
  unfold ruleChanged
  split
  · exact .refl h
  · exact .ofCache (CircuitCache.later_removeWhere h _)

theorem later_sweep (h : e.cache.IsTidy) (now : Nat) : Later e (e.sweep now).1 :=
  .ofCache (CircuitCache.later_removeWhere h _)

theorem later_cleanup (h : e.cache.IsTidy) (now : Nat) : Later e (e.cleanup now).1 := by
  unfold cleanup
  split
  · exact .refl h
  · exact later_sweep h now

theorem later_destroy (h : e.cache.IsTidy) : Later e e.destroy := by
  unfold destroy
  split
  · exact .refl h
  · refine ⟨rfl, rfl, CircuitCache.later_removeWhere h _, fun _ => Or.inr ?_⟩
    refine List.eq_nil_iff_forall_not_mem.mpr fun y hy => ?_
    have hstay : true = false := (CircuitCache.mem_removeWhere.mp hy).2
    cases hstay

/-! ## The passing of time -/

theorem later_evaluateAll (h : e.cache.IsTidy) (now : Nat) (rs : List Resource) :
    Later e (e.evaluateAll now rs).1 := by
  induction rs generalizing e with
  | nil => exact .refl h
  | cons r rest ih =>
      have hev := later_evaluate h r now
      exact hev.trans (ih hev.cache.isTidy)

theorem later_sweepIfDue (h : e.cache.IsTidy) (now : Nat) : Later e (e.sweepIfDue now) := by
  unfold sweepIfDue
  split
  · have hsweep := CircuitCache.later_removeWhere h fun x =>
      decide (e.config.expireInterval < now - x.lastAccess)
    exact ⟨rfl, rfl, hsweep, Or.inl⟩
  · exact .refl h

/-- The circuits may be looked at in any order. -/
theorem later_tickAlong (h : e.cache.IsTidy) (order : List Resource) (now : Nat) :
    Later e (e.tickAlong order now).1 := by
  unfold tickAlong
  split
  · have hall := later_evaluateAll h now order
    exact hall.trans (later_sweepIfDue hall.cache.isTidy now)
  · exact .refl h

theorem later_tick (h : e.cache.IsTidy) (now : Nat) : Later e (e.tick now).1 :=
  later_tickAlong h e.cache.trackedResources now

/-! ## Reports -/

/-- The engine once it has an entry for the resource of an outcome. -/
def informed (e : Engine) (o : Outcome) (now : Nat) : Engine :=
  let (cache, _, patterns, source) :=
    e.cache.fetch o.resource now (e.newCircuit? o.resource o.caller now) (e.patterns, e.source)
  { e with cache, patterns, source }

/-- A report is one on the circuit of the resource, if it has one by then. -/
theorem report_of_isActive (h : e.isActive = true) (o : Outcome) (now : Nat) :
    e.report o now =
      match (e.informed o now).cache.circuit? o.resource with
      | some circuit => (e.informed o now).settle (circuit.report o now).1 (circuit.report o now).2
      | none => { engine := e.informed o now, result := .ok false } := by
  unfold report
  rw [if_pos h]
  rfl

/-- What a report does once there is an entry. -/
theorem later_report {o : Outcome} {now : Nat} (hactive : e.isActive = true)
    (h : (e.informed o now).cache.IsTidy) : Later (e.informed o now) (e.report o now).engine := by
  rw [report_of_isActive hactive]
  cases hc : (e.informed o now).cache.circuit? o.resource with
  | none => exact .refl h
  | some circuit => exact later_settle h hc [.report o now] _

/-- Nothing is added for a resource that has an entry. -/
theorem informed_of_present {o : Outcome} {x : CacheEntry} (hx : e.cache.find? o.resource = some x)
    (now : Nat) : e.informed o now = { e with cache := e.cache.touch o.resource now } := by
  simp only [informed, CircuitCache.fetch, hx]

theorem later_informed (h : e.cache.IsTidy) {o : Outcome} {x : CacheEntry}
    (hx : e.cache.find? o.resource = some x) (now : Nat) : Later e (e.informed o now) := by
  rw [informed_of_present hx]
  exact .ofCache (CircuitCache.later_touch h o.resource now)

/-! ## Answers -/

section Answer

variable {α : Type} (answer : α → Answer) (r : Reply α)

@[simp]
theorem Answer.ofReply_engine : (Answer.ofReply answer r).1 = r.engine := by
  unfold ofReply
  split <;> rfl

@[simp]
theorem Answer.ofReply_notices : (Answer.ofReply answer r).2.2 = r.notices := by
  unfold ofReply
  split <;> rfl

end Answer

/-! ## Sequences of operations -/

@[simp]
theorem run_nil (e : Engine) : e.run [] = (e, []) := rfl

theorem run_cons (e : Engine) (op : Op) (ops : List Op) :
    e.run (op :: ops) = (((e.step op).1.run ops).1, (e.step op).2 :: ((e.step op).1.run ops).2) := rfl

/-- A run may be cut in two. -/
theorem run_append (e : Engine) (ops more : List Op) :
    e.run (ops ++ more) =
      (((e.run ops).1.run more).1, (e.run ops).2 ++ ((e.run ops).1.run more).2) := by
  induction ops generalizing e with
  | nil => rfl
  | cons op rest ih => simp only [List.cons_append, run_cons, ih]

end CircuitBreaker.Engine

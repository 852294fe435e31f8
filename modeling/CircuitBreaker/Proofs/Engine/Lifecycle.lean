import CircuitBreaker.Proofs.CircuitCache.Lifecycle
import CircuitBreaker.Proofs.Engine.Freshness
import CircuitBreaker.Proofs.Engine.Orderly
import CircuitBreaker.Proofs.Engine.Permission

/-!
# `Proofs.Engine.Lifecycle` — the circuits of an engine, from the first report to the end

A circuit is built by a report on a resource without an entry, if rules govern it (`Engine.builds?`). The
circuits that a run builds, in order, are its **births** (`Engine.births`). Whatever operations an engine
does, its cache accounts for its births (`accounts_step`, `accounts_run`): the circuits that rule changes,
expiry, sweeps and the end of the engine drop are destroyed, and these are all that are.

An engine that is destroyed does nothing any more. Its rules may still be loaded and cleared, but it asks
for none, and tells nobody anything (`step_of_isDestroyed`).

## Contents
- `Engine.builds?`, `Engine.births`: the circuits that are built, and by which operations.
- `accounts_report`, `accounts_acquire`, `accounts_tick`, `accounts_hear`: one lemma for each operation.
- `accounts_step`, `accounts_run`: the cache accounts for the births.
- `exists_birth_of_circuit?`: where a circuit in use comes from.
- `step_of_isDestroyed`: an engine out of use.
- `circuits_live_while_cached`: every circuit ever built.
-/

namespace CircuitBreaker

namespace Circuit

theorem runsOn_wakened (now : Nat) (c : Circuit) : c.RunsOn (c.wakened now) := by
  unfold wakened
  split
  · exact .single c (.evaluate now) (by simp)
  · exact .refl c

theorem runsOn_admitted (c : Circuit) : c.RunsOn c.admitted := by
  have hstep : (c.step .acquireProbe).1 = c.admitted := by
    unfold admitted step
    cases c.acquireProbe? <;> rfl
  rw [← hstep]
  exact .single c .acquireProbe (by simp)

end Circuit

namespace Engine

variable {e : Engine} {op : Op} {o : Outcome} {now : Nat}

/-! ## Births -/

/-- The circuit that an operation builds, if it builds one: for a resource that is reported on and has no
    entry, if rules govern it. -/
def builds? (e : Engine) (op : Op) : Option Circuit :=
  match op.report? with
  | some (o, now) =>
      if e.isActive && (e.cache.find? o.resource).isNone then
        (e.newCircuit? o.resource o.caller now (e.patterns, e.source)).1
      else
        none
  | none => none

/-- The circuits that some operations build, in order, each as it was then. -/
def births (e : Engine) : List Op → List Circuit
  | [] => []
  | op :: rest => (e.builds? op).toList ++ (e.step op).1.births rest

theorem builds?_of_silent (h : op.report? = none) (e : Engine) : e.builds? op = none := by
  unfold builds?
  rw [h]

/-- **What is built is built by a report**, for the caller of it. -/
theorem exists_of_builds? {c : Circuit} (hc : e.builds? op = some c) :
    ∃ o now, op.report? = some (o, now) ∧
      (e.newCircuit? o.resource o.caller now (e.patterns, e.source)).1 = some c := by
  unfold builds? at hc
  split at hc
  · rename_i o now hop
    split at hc
    · exact ⟨o, now, hop, hc⟩
    · cases hc
  · cases hc

/-- What is built is new: a closed circuit that counts nothing yet. -/
theorem exists_fresh_of_builds? (h : e.IsOrderly) {c : Circuit} (hc : e.builds? op = some c) :
    ∃ settings resource rule since blocks,
      c = Circuit.fresh settings resource rule since blocks := by
  obtain ⟨o, now, -, hmade⟩ := exists_of_builds? hc
  obtain ⟨rule, bs, rfl⟩ := exists_of_newCircuit? h.patterns hmade
  exact ⟨_, _, rule, _, bs, rfl⟩

/-- A birth is the work of one of the operations. -/
theorem exists_of_mem_births {ops : List Op} {c : Circuit} (hc : c ∈ e.births ops) :
    ∃ pre op post, ops = pre ++ op :: post ∧ (e.run pre).1.builds? op = some c := by
  induction ops generalizing e with
  | nil => cases hc
  | cons op rest ih =>
      rcases List.mem_append.mp hc with hc | hc
      · exact ⟨[], op, rest, rfl, Option.mem_toList.mp hc⟩
      · obtain ⟨pre, last, post, hrest, hbuilds⟩ := ih hc
        exact ⟨op :: pre, last, post, congrArg (op :: ·) hrest, hbuilds⟩

/-! ## One operation -/

section Account

variable {known : List Circuit}

/-- Getting an entry may build a circuit, and changes no other. -/
theorem accounts_informed (h : e.IsOrderly) (ha : e.cache.Accounts known)
    (hactive : e.isActive = true) (hop : op.report? = some (o, now)) :
    (e.informed o now).cache.Accounts (known ++ (e.builds? op).toList) := by
  unfold builds?
  rw [hop]
  cases hfind : e.cache.find? o.resource with
  | some x =>
      rw [informed_of_present hfind]
      simpa [hfind] using ha.touch o.resource now
  | none =>
      rw [informed_of_absent hfind]
      simp only [hactive, hfind, Option.isNone_none, Bool.and_self, if_true]
      refine ha.insert hfind now (fun x hx => ?_) fun x hx => ?_
      · exact resource_of_newCircuit? h.patterns hx
      · obtain ⟨rule, bs, rfl⟩ := exists_of_newCircuit? h.patterns hx
        rfl

theorem accounts_report (h : e.IsOrderly) (ha : e.cache.Accounts known)
    (hop : op.report? = some (o, now)) :
    (e.report o now).engine.cache.Accounts (known ++ (e.builds? op).toList) := by
  by_cases hactive : e.isActive = true
  · -- The entry is there by now, and the report runs its circuit on.
    have hinformed := accounts_informed h ha hactive hop
    rw [report_engine hactive hinformed.tidy]
    exact hinformed.mapCircuits_onAll _ fun x => .single x (.report o now) (by simp)
  · have hnone : e.builds? op = none := by
      unfold builds?
      rw [hop]
      simp [hactive]
    unfold report
    rw [if_neg hactive, hnone]
    simpa using ha

theorem accounts_acquire (h : e.IsOrderly) (ha : e.cache.Accounts known) (r : Resource) (now : Nat) :
    (e.acquire r now).engine.cache.Accounts known := by
  by_cases hactive : e.isActive = true
  · have hwoken : ∀ rs, (e.mapCircuits (onAll rs (Circuit.wakened now))).cache.Accounts known :=
      fun rs => ha.mapCircuits_onAll rs (Circuit.runsOn_wakened now)
    -- The call is answered, or a listener fails when only some of the circuits are awake.
    rcases acquire_cases h.cache hactive r now with ⟨-, hengine⟩ | ⟨_, woke, -, -, hengine, -⟩
    · rw [hengine, answered]
      split
      · exact (hwoken _).mapCircuits_onAll _ Circuit.runsOn_admitted
      · exact hwoken _
    · rw [hengine]
      exact hwoken woke
  · unfold acquire
    rw [if_neg hactive]
    exact ha

theorem accounts_tick (h : e.IsOrderly) (ha : e.cache.Accounts known) (now : Nat) :
    (e.tick now).1.cache.Accounts known := by
  by_cases hactive : e.isActive = true
  · have hevaluated : (e.mapCircuits fun _ c => (c.evaluate now).1).cache.Accounts known :=
      ha.mapCircuits fun _ x _ => .single x (.evaluate now) (by simp)
    have htick : (e.tick now).1 = (e.mapCircuits fun _ c => (c.evaluate now).1).sweepIfDue now :=
      tickAlong_engine hactive h.cache (List.Perm.refl _)
    rw [htick, sweepIfDue_eq]
    split
    · exact hevaluated.removeWhere _
    · exact hevaluated
  · unfold tick tickAlong
    rw [if_neg hactive]
    exact ha

theorem accounts_ruleChanged (ha : e.cache.Accounts known) (service : ServiceKey) :
    (e.ruleChanged service).1.cache.Accounts known := by
  unfold ruleChanged
  split
  · exact ha
  · exact ha.removeWhere _

theorem accounts_cleanup (ha : e.cache.Accounts known) (now : Nat) :
    (e.cleanup now).1.cache.Accounts known := by
  unfold cleanup
  split
  · exact ha
  · exact ha.removeWhere _

/-- Whether or not the engine hears of a change of its rules. -/
theorem accounts_hear (ha : e.cache.Accounts known) (source : RuleSource)
    (change : Option RuleChange) :
    (({ e with source } : Engine).hear change).1.cache.Accounts known := by
  unfold hear
  cases change with
  | none => exact ha
  | some change =>
      simp only
      split
      · exact accounts_ruleChanged (e := { e with source }) ha change.service
      · exact ha

theorem accounts_destroy (ha : e.cache.Accounts known) : e.destroy.cache.Accounts known := by
  unfold destroy
  split
  · exact ha
  · exact ha.removeWhere _

/-- **Every operation keeps the account**, with the circuit that it builds. -/
theorem accounts_step (h : e.IsOrderly) (ha : e.cache.Accounts known) (op : Op) :
    (e.step op).1.cache.Accounts (known ++ (e.builds? op).toList) := by
  -- Only reports build a circuit.
  have silent {d : Engine} (hop : op.report? = none) (hd : d.cache.Accounts known) :
      d.cache.Accounts (known ++ (e.builds? op).toList) := by
    rw [builds?_of_silent hop]
    simpa using hd
  cases op with
  | report o now =>
      simp only [step, Answer.ofReply_engine]
      exact accounts_report h ha rfl
  | reportSeen o now =>
      simp only [step, Answer.ofReply_engine, reportSeen]
      exact accounts_report h ha rfl
  | check r => exact silent rfl ha
  | acquire r now =>
      simp only [step, Answer.ofReply_engine]
      exact silent rfl (accounts_acquire h ha r now)
  | tick now => exact silent rfl (accounts_tick h ha now)
  | cleanup now => exact silent rfl (accounts_cleanup ha now)
  | ruleChanged service => exact silent rfl (accounts_ruleChanged ha service)
  | load service rules => exact silent rfl (accounts_hear ha _ _)
  | clear service => exact silent rfl (accounts_hear ha _ _)
  | destroy => exact silent rfl (accounts_destroy ha)

/-- **Every run keeps the account**, with its births. -/
theorem accounts_run (h : e.IsOrderly) (ha : e.cache.Accounts known) (ops : List Op) :
    (e.run ops).1.cache.Accounts (known ++ e.births ops) := by
  induction ops generalizing e known with
  | nil => simpa [births] using ha
  | cons op rest ih =>
      have hrest := ih (isOrderly_step h op) (accounts_step h ha op)
      rw [List.append_assoc] at hrest
      exact hrest

end Account

/-- The cache of an engine that was built accounts for all circuits since. -/
theorem accounts_run_build? {setup : EngineSetup} {first : Engine}
    (hbuild : build? setup now = .ok first) (ops : List Op) :
    (first.run ops).1.cache.Accounts (first.births ops) := by
  have hfirst : first.cache.Accounts [] := by
    obtain ⟨-, rfl⟩ := eq_of_build? hbuild
    exact CircuitCache.accounts_empty
  simpa using accounts_run (isOrderly_build? hbuild) hfirst ops

/-- **Every circuit in use was built** by one of the operations, and has been run since. -/
theorem exists_birth_of_circuit? {setup : EngineSetup} {start : Nat} {first : Engine}
    (hbuild : build? setup start = .ok first) {ops : List Op} {r : Resource} {c : Circuit}
    (hc : (first.run ops).1.cache.circuit? r = some c) :
    ∃ pre op post birth done, ops = pre ++ op :: post ∧
      (first.run pre).1.builds? op = some birth ∧ c = (birth.run done).1 := by
  have haccounts := accounts_run_build? hbuild ops
  obtain ⟨x, hx, serial, -, hslot⟩ := CircuitCache.exists_of_circuit? haccounts.tidy.isPlaced hc
  obtain ⟨birth, done, hbirth, hrun⟩ :=
    haccounts.origin (serial, c) (CircuitCache.Accounts.mem_lives hx hslot)
  obtain ⟨pre, op, post, hops, hbuilds⟩ := exists_of_mem_births (List.mem_of_getElem? hbirth)
  exact ⟨pre, op, post, birth, done, hops, hbuilds, hrun⟩

/-! ## Out of use -/

/-- The rules after an operation: some operations load or clear them. -/
def Op.reload (op : Op) (source : RuleSource) : RuleSource :=
  match op with
  | .load service rules => (source.load service rules).1
  | .clear service => (source.clear service).1
  | _ => source

/-- Loading and clearing rules is not asking for any. -/
theorem lookups?_reload (op : Op) (source : RuleSource) :
    (op.reload source).lookups? = source.lookups? := by
  cases op <;> cases source <;> rfl

/-- An engine that is out of use does not mind what it hears. -/
theorem hear_of_isDestroyed (h : e.isDestroyed = true) (source : RuleSource)
    (change : Option RuleChange) :
    (({ e with source } : Engine).hear change).1 = { e with source } := by
  unfold hear
  cases change with
  | none => rfl
  | some change =>
      simp only [ruleChanged, h, if_true]
      split <;> rfl

/-- **An engine out of use does nothing**: an operation may change its rules, and that is all. -/
theorem step_of_isDestroyed (h : e.isDestroyed = true) (op : Op) :
    (e.step op).1 = { e with source := op.reload e.source } ∧ (e.step op).2.2 = [] := by
  have hidle : e.isActive = false := isActive_eq_false_iff.mpr (Or.inr h)
  have hworking : ¬e.isActive = true := by simp [hidle]
  have hreport : ∀ o now, e.report o now = { engine := e, result := .ok false } :=
    fun o now => if_neg hworking
  have unchanged {a : Answer} (hstep : e.step op = (e, a, []))
      (hreload : op.reload e.source = e.source) :
      (e.step op).1 = { e with source := op.reload e.source } ∧ (e.step op).2.2 = [] := by
    rw [hstep, hreload]
    exact ⟨rfl, rfl⟩
  cases op with
  | report o now => exact unchanged (by rw [step, hreport]; rfl) rfl
  | reportSeen o now => exact unchanged (by rw [step, reportSeen, hreport]; rfl) rfl
  | check r => exact ⟨rfl, rfl⟩
  | acquire r now =>
      have hacquire : e.acquire r now = { engine := e, result := .ok {} } := if_neg hworking
      exact unchanged (by rw [step, hacquire]; rfl) rfl
  | tick now =>
      have htick : e.tick now = (e, []) := if_neg hworking
      exact unchanged (by rw [step, htick]) rfl
  | cleanup now =>
      have hcleanup : e.cleanup now = (e, 0) := if_pos h
      exact unchanged (by rw [step, hcleanup]) rfl
  | ruleChanged service =>
      have hchanged : e.ruleChanged service = (e, 0) := if_pos h
      exact unchanged (by rw [step, hchanged]) rfl
  | load service rules => exact ⟨hear_of_isDestroyed h _ _, rfl⟩
  | clear service => exact ⟨hear_of_isDestroyed h _ _, rfl⟩
  | destroy =>
      have hdestroy : e.destroy = e := if_pos h
      exact unchanged (by rw [step, hdestroy]) rfl

/-- What is destroyed stays destroyed, and a destroyed engine is. -/
theorem isDestroyed_step (hop : e.isDestroyed = true ∨ op = .destroy) :
    (e.step op).1.isDestroyed = true := by
  by_cases h : e.isDestroyed = true
  · rw [(step_of_isDestroyed h op).1]
    exact h
  · rcases hop with hd | rfl
    · exact absurd hd h
    · simp [step, destroy, h]

theorem isDestroyed_run (ops : List Op) (h : e.isDestroyed = true ∨ .destroy ∈ ops) :
    (e.run ops).1.isDestroyed = true := by
  induction ops generalizing e with
  | nil => simpa using h
  | cons op rest ih =>
      refine ih ?_
      rcases h with h | hmem
      · exact Or.inl (isDestroyed_step (Or.inl h))
      · rcases List.mem_cons.mp hmem with heq | hrest
        · exact Or.inl (isDestroyed_step (Or.inr heq.symm))
        · exact Or.inr hrest

/-! ## Every circuit ever built -/

/-- **A circuit lives exactly while it is in the cache.** Take an engine that was built, on any rules and
    with any listeners, and any operations. Then each of the circuits that were built meanwhile is known
    by its number, once, as what operations made of it, and

    * it is destroyed if and only if no entry of the cache holds it;
    * an entry is in the table of its resource's level, and has a circuit of its resource;
    * no resource has two circuits that are not destroyed;
    * once the engine is destroyed, the cache is empty and every circuit is destroyed, and no operation
      tells the listeners anything or asks for rules, whatever listeners and rules there are. -/
theorem circuits_live_while_cached {setup : EngineSetup} {start : Nat} {first : Engine}
    (hbuild : build? setup start = .ok first) (ops : List Op) :
    let d := (first.run ops).1
    (d.cache.lives.map fun l => l.1).Perm (List.range (first.births ops).length) ∧
    (∀ n c, (n, c) ∈ d.cache.lives →
      (∃ birth done, (first.births ops)[n]? = some birth ∧ c = (birth.run done).1) ∧
      (c.isDestroyed = true ↔ ∀ y ∈ d.cache.entries, ∀ b, y.slot ≠ .tracking n b)) ∧
    (∀ l, ∀ y ∈ d.cache.level l, y.resource.level = l ∧
      ∀ c, y.slot.circuit? = some c → c.resource = y.resource) ∧
    (∀ m b n c, (m, b) ∈ d.cache.lives → (n, c) ∈ d.cache.lives → b.isDestroyed = false →
      c.isDestroyed = false → b.resource = c.resource → m = n) ∧
    (.destroy ∈ ops →
      d.cache.entries = [] ∧ (∀ l ∈ d.cache.lives, l.2.isDestroyed = true) ∧
      ∀ (listeners : List Listener) (source : RuleSource) (op : Op),
        (({ d with listeners, source } : Engine).step op).2.2 = [] ∧
        (({ d with listeners, source } : Engine).step op).1.source.lookups? = source.lookups?) := by
  intro d
  have horderly : d.IsOrderly := isOrderly_run_build? hbuild ops
  have haccounts : d.cache.Accounts (first.births ops) := accounts_run_build? hbuild ops
  refine ⟨haccounts.serials, fun n c hc => ⟨haccounts.origin (n, c) hc, haccounts.isDestroyed_iff hc⟩,
    fun l y hy => ⟨horderly.cache.placed l y hy, fun c hc => ?_⟩,
    fun m b n c hb hc hblive hclive hr => haccounts.serial_eq hb hc hblive hclive hr,
    fun hdestroy => ?_⟩
  · exact horderly.cache.owned y (CircuitCache.mem_entries_iff.mpr ⟨l, hy⟩) c hc
  · have hd : d.isDestroyed = true := isDestroyed_run ops (Or.inr hdestroy)
    have hempty : d.cache.entries = [] := horderly.idle (isActive_eq_false_iff.mpr (Or.inr hd))
    refine ⟨hempty, fun l hl => ?_, fun listeners source op => ?_⟩
    · rw [haccounts.isDestroyed_iff hl, hempty]
      intro y hy
      cases hy
    · -- What is registered or loaded does not bring a destroyed engine back to work.
      have hrewired : ({ d with listeners, source } : Engine).isDestroyed = true := hd
      obtain ⟨hengine, hnotices⟩ := step_of_isDestroyed hrewired op
      refine ⟨hnotices, ?_⟩
      rw [hengine]
      exact lookups?_reload op source

/-- A circuit is built, goes when the rules of its service change, and is built again. Then the engine
    is destroyed, and another failure is reported. -/
def fullLife : List Op :=
  [.report (Circuit.sampleOutcome .fail) 5, .ruleChanged Circuit.sample.resource.key,
    .report (Circuit.sampleOutcome .fail) 6, .destroy, .report (Circuit.sampleOutcome .fail) 7]

/-- Of the two circuits that were built none is left. -/
theorem sample_circuits_live_while_cached :
    build? plainSetup 0 = .ok sample ∧ .destroy ∈ fullLife ∧
    (let d := (sample.run fullLife).1
     (d.cache.lives.map fun l => l.1).Perm (List.range 2) ∧ d.cache.entries = [] ∧
      ∀ l ∈ d.cache.lives, l.2.isDestroyed = true) := by
  have hbuild : build? plainSetup 0 = .ok sample := rfl
  have hdestroy : Op.destroy ∈ fullLife := by simp [fullLife]
  have hbirths : (sample.births fullLife).length = 2 := by decide
  obtain ⟨hserials, -, -, -, hend⟩ := circuits_live_while_cached hbuild fullLife
  obtain ⟨hempty, hgone, -⟩ := hend hdestroy
  exact ⟨hbuild, hdestroy, hbirths ▸ hserials, hempty, hgone⟩

end Engine

end CircuitBreaker

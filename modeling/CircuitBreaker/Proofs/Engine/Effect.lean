import CircuitBreaker.Proofs.Engine.Entries
import CircuitBreaker.Proofs.RuleStore
import CircuitBreaker.Proofs.Transparency

/-!
# `Proofs.Engine.Effect` — what one operation can do to an engine with a store

An engine that hears of the changes in its rule store can be changed in three ways. A report on a
resource without an entry adds one. A change of the rules of a service removes the entries of that
service. Everything else leads to a later engine.

The invariant that goes with this is `Engine.WellKept`: the rules come from a store, the compiled
patterns are those that the compiler gives, the cache is tidy, and an engine out of use has nothing
in its cache.

## Contents
- `Engine.WellKept`, `wellKept_build?`: the invariant.
- `Engine.Effect`, `effect_step`: the three effects.
- `wellKept_effect`, `wellKept_run`: the invariant holds after every run.
-/

namespace CircuitBreaker.Engine

/-- **An engine is well kept** if what it keeps is in order. -/
structure WellKept (e : Engine) : Prop where
  buckets : e.config.bucketCount ≠ 0
  source : ∃ s : RuleStore, e.source = .store s true ∧ s.Reachable
  patterns : e.patterns.Faithful e.compile
  cache : e.cache.IsTidy
  destroyed : e.isDestroyed = true → e.cache.entries = []

variable {e d : Engine} {op : Op} {o : Outcome} {now : Nat} {service : ServiceKey}

/-- A new engine has settings that pass their check, and nothing in its cache. -/
theorem eq_of_build? {setup : EngineSetup} (h : build? setup now = .ok e) :
    setup.config.check = .ok () ∧
      e = {
        toEngineSetup := setup
        patterns := PatternCache.ofCapacity setup.config.patternCapacity
        lastSweep := now } := by
  unfold build? at h
  cases hcheck : setup.config.check with
  | error err => rw [hcheck] at h; cases h
  | ok u =>
      rw [hcheck] at h
      cases h
      exact ⟨rfl, rfl⟩

theorem wellKept_build? {setup : EngineSetup} {s : RuleStore} (hsource : setup.source = .store s true)
    (hs : s.Reachable) (h : build? setup now = .ok e) : e.WellKept := by
  obtain ⟨hcheck, rfl⟩ := eq_of_build? h
  exact ⟨((Config.check_eq_ok_iff _).mp hcheck).1, ⟨s, hsource, hs⟩,
    PatternCache.faithful_ofCapacity _ _, CircuitCache.isTidy_empty, fun _ => rfl⟩

/-! ## Circuits for resources -/

/-- The rule that governs a resource for a caller, and its block rules in whose scope the resource is.
    This is what a circuit is built from. -/
def decision (e : Engine) (r : Resource) (caller : Option ServiceKey) : Option (Rule × List BlockRule) :=
  match (e.source.rules? r.key).bind (Resolution.governing e.compile e.precedence r caller) with
  | none => none
  | some rule =>
      match rule.blocksFor e.compile r with
      | [] => none
      | b :: rest => some (rule, b :: rest)

/-- What is decided: the rule that governs, and those of its block rules that are in scope. -/
theorem of_decision {e : Engine} {r : Resource} {caller : Option ServiceKey}
    {a : Rule × List BlockRule} (h : e.decision r caller = some a) :
    ∃ rules, e.source.rules? r.key = some rules ∧
      Resolution.governing e.compile e.precedence r caller rules = some a.1 ∧
      a.2 = a.1.blocksFor e.compile r ∧ a.2 ≠ [] := by
  unfold decision at h
  split at h
  · cases h
  · rename_i rule hgoverned
    obtain ⟨rules, hrules, hgoverns⟩ := Option.bind_eq_some_iff.mp hgoverned
    split at h
    · cases h
    · rename_i b rest hblocks
      cases h
      exact ⟨rules, hrules, hgoverns, hblocks.symm, List.cons_ne_nil b rest⟩

/-- **An engine builds what the rules decide**, whatever patterns it has compiled. -/
theorem newCircuit?_spec (h : e.patterns.Faithful e.compile) (r : Resource)
    (caller : Option ServiceKey) (now : Nat) :
    (e.newCircuit? r caller now (e.patterns, e.source)).1 =
        (e.decision r caller).bind (fun a =>
          (Circuit.build? e.compile e.settings r a.1 a.2 now e.patterns).1.toOption) ∧
      (e.newCircuit? r caller now (e.patterns, e.source)).2.1.Faithful e.compile ∧
      (e.newCircuit? r caller now (e.patterns, e.source)).2.2 = e.source.asked := by
  simp only [newCircuit?, decision, RuleSource.lookup]
  -- the cases of the function; each step leaves a faithful cache to the next
  cases e.source.rules? r.key with
  | none => exact ⟨rfl, h, rfl⟩
  | some rules =>
      obtain ⟨hrule, hp⟩ := Resolution.answers_resolve e.compile e.precedence r caller rules _ h
      simp only [Option.bind_some, ← hrule]
      cases hresolve : Resolution.resolve e.compile e.precedence r caller rules e.patterns with
      | mk found p =>
          rw [hresolve] at hp
          cases found with
          | none => exact ⟨rfl, hp, rfl⟩
          | some rule =>
              obtain ⟨hblocks, hq⟩ := Rule.answers_activeBlocks e.compile rule r p hp
              simp only [← hblocks]
              cases hactive : rule.activeBlocks e.compile r p with
              | mk blocks q =>
                  rw [hactive] at hq
                  cases blocks with
                  | nil => exact ⟨rfl, hq, rfl⟩
                  | cons b rest =>
                      have built :=
                        Circuit.answers_build? e.compile e.settings r rule (b :: rest) now
                      refine ⟨?_, (built q hq).2, rfl⟩
                      simp only [Option.bind_some, (built q hq).1, (built _ h).1]

/-- What is built was decided. -/
theorem decision_of_newCircuit? (h : e.patterns.Faithful e.compile) {r : Resource}
    {caller : Option ServiceKey} {c : Circuit}
    (hc : (e.newCircuit? r caller now (e.patterns, e.source)).1 = some c) :
    ∃ a, e.decision r caller = some a ∧
      (Circuit.build? e.compile e.settings r a.1 a.2 now e.patterns).1 = .ok c := by
  rw [(newCircuit?_spec h r caller now).1] at hc
  obtain ⟨a, ha, hbuild⟩ := Option.bind_eq_some_iff.mp hc
  refine ⟨a, ha, ?_⟩
  cases hresult : (Circuit.build? e.compile e.settings r a.1 a.2 now e.patterns).1 with
  | error err => rw [hresult] at hbuild; cases hbuild
  | ok d => rw [hresult] at hbuild; cases hbuild; rfl

/-- **Where a new circuit comes from**: a rule that the source has for the service, and the block rules of
    it in whose scope the resource is. -/
theorem built_of_newCircuit? (h : e.patterns.Faithful e.compile) {r : Resource}
    {caller : Option ServiceKey} {c : Circuit}
    (hc : (e.newCircuit? r caller now (e.patterns, e.source)).1 = some c) :
    ∃ rules rule, e.source.rules? r.key = some rules ∧ rule ∈ rules ∧
      (Circuit.build? e.compile e.settings r rule (rule.blocksFor e.compile r) now e.patterns).1 =
        .ok c := by
  obtain ⟨a, ha, hbuilt⟩ := decision_of_newCircuit? h hc
  obtain ⟨rules, hrules, hgoverns, hblocks, -⟩ := of_decision ha
  rw [hblocks] at hbuilt
  exact ⟨rules, a.1, hrules, Resolution.mem_of_governing hgoverns, hbuilt⟩

/-- A new circuit is closed, counts nothing yet, and is one for its resource. -/
theorem exists_of_newCircuit? (h : e.patterns.Faithful e.compile) {r : Resource}
    {caller : Option ServiceKey} {c : Circuit}
    (hc : (e.newCircuit? r caller now (e.patterns, e.source)).1 = some c) :
    ∃ rule bs, c = Circuit.fresh e.settings r rule now bs := by
  obtain ⟨_, rule, _, _, hbuilt⟩ := built_of_newCircuit? h hc
  obtain ⟨bs, _, rfl⟩ := Circuit.exists_of_build? hbuilt
  exact ⟨rule, bs, rfl⟩

theorem resource_of_newCircuit? (h : e.patterns.Faithful e.compile) {r : Resource}
    {caller : Option ServiceKey} {c : Circuit}
    (hc : (e.newCircuit? r caller now (e.patterns, e.source)).1 = some c) : c.resource = r := by
  obtain ⟨rule, bs, rfl⟩ := exists_of_newCircuit? h hc
  rfl

/-- The engine that was informed of a resource that it had no entry for. -/
theorem informed_of_absent (habsent : e.cache.find? o.resource = none) :
    e.informed o now =
      { e with
        cache := e.cache.insert o.resource now
          (e.newCircuit? o.resource o.caller now (e.patterns, e.source)).1
        patterns := (e.newCircuit? o.resource o.caller now (e.patterns, e.source)).2.1
        source := (e.newCircuit? o.resource o.caller now (e.patterns, e.source)).2.2 } := by
  simp only [informed, CircuitCache.fetch, habsent]

/-- A new entry leaves the cache tidy. -/
theorem isTidy_informed (hp : e.patterns.Faithful e.compile) (hc : e.cache.IsTidy)
    (habsent : e.cache.find? o.resource = none) : (e.informed o now).cache.IsTidy := by
  rw [informed_of_absent habsent]
  exact CircuitCache.isTidy_insert hc habsent fun c hmade => resource_of_newCircuit? hp hmade

/-- Looking for a circuit does not change a store. -/
theorem source_informed (h : e.WellKept) (habsent : e.cache.find? o.resource = none) :
    (e.informed o now).source = e.source := by
  obtain ⟨_, _, hasked⟩ := newCircuit?_spec h.patterns o.resource o.caller now
  obtain ⟨s, hs, _⟩ := h.source
  rw [informed_of_absent habsent]
  exact hasked.trans (by rw [hs]; rfl)

/-! ## The effects -/

/-- The outcome that an operation reports, and the time of the report. -/
def Op.report? : Op → Option (Outcome × Nat)
  | .report o now => some (o, now)
  | .reportSeen o now => some (o, min o.timestamp now)
  | _ => none

/-- **What an operation can do to an engine.** -/
inductive Effect (e : Engine) : Op → Engine → Prop where
  | later {op : Op} {d : Engine} (hl : e.Later d) : Effect e op d
  /-- A report on a resource that has no entry adds one. -/
  | learned {op : Op} {d : Engine} (o : Outcome) (now : Nat) (hop : op.report? = some (o, now))
      (hactive : e.isDestroyed = false) (habsent : e.cache.find? o.resource = none)
      (hl : (e.informed o now).Later d) : Effect e op d
  /-- The rules of a service changed, and its entries are removed. -/
  | reloaded {op : Op} {d : Engine} (s next : RuleStore) (service : ServiceKey)
      (hs : e.source = .store s true) (hnext : next.Reachable)
      (hothers : ∀ other, other ≠ service → next.get? other = s.get? other)
      (hl : Later { e with source := .store next true } d)
      (hgone : ∀ y ∈ d.cache.entries, y.resource.key ≠ service) : Effect e op d

/-- What the engine is after a report, whether or not there was an entry. -/
theorem effect_report (h : e.WellKept) (hop : op.report? = some (o, now)) :
    Effect e op (e.report o now).engine := by
  by_cases hactive : e.isActive = true
  · cases hfind : e.cache.find? o.resource with
    | some x =>
        have hinformed := later_informed h.cache hfind now
        exact .later (hinformed.trans (later_report hactive hinformed.cache.isTidy))
    | none =>
        have hlive : e.isDestroyed = false := by
          simp only [isActive, Bool.and_eq_true, Bool.not_eq_true'] at hactive
          exact hactive.2
        have htidy : (e.informed o now).cache.IsTidy := isTidy_informed h.patterns h.cache hfind
        exact .learned o now hop hlive hfind (later_report hactive htidy)
  · unfold report
    rw [if_neg hactive]
    exact .later (.refl h.cache)

/-- After the rules of a service changed, no entry of it is left. -/
theorem key_ne_of_mem_ruleChanged (h : e.isDestroyed = true → e.cache.entries = []) :
    ∀ y ∈ (e.ruleChanged service).1.cache.entries, y.resource.key ≠ service := by
  unfold ruleChanged
  split
  · rename_i hd
    intro y hy
    rw [h hd] at hy
    cases hy
  · exact fun y hy => CircuitCache.key_ne_of_mem_removeService hy

/-- An engine hears of every change in its store. -/
theorem effect_hear (h : e.WellKept) {s : RuleStore} (hs : e.source = .store s true)
    {r : RuleStore × Option RuleChange} (hr : s.ChangesOnly service r) (hnext : r.1.Reachable) :
    Effect e op (hear { e with source := .store r.1 true } r.2).1 := by
  rcases hr with rfl | ⟨next, change, rfl, rfl, hothers⟩
  -- nothing changed, so that nothing is announced
  · have hsame : { e with source := .store s true } = e := by rw [← hs]
    simp only [hsame]
    exact .later (.refl h.cache)
  · have hheard : (hear { e with source := .store next true } (some change)).1 =
        (ruleChanged { e with source := .store next true } change.service).1 := rfl
    rw [hheard]
    exact .reloaded s next change.service hs hnext hothers
      (later_ruleChanged (e := { e with source := .store next true }) h.cache _)
      (key_ne_of_mem_ruleChanged (e := { e with source := .store next true }) h.destroyed)

/-- **Every operation has one of the effects.** -/
theorem effect_step (h : e.WellKept) (op : Op) : Effect e op (e.step op).1 := by
  obtain ⟨s, hs, hreach⟩ := h.source
  cases op with
  | report o now =>
      simp only [step, Answer.ofReply_engine]
      exact effect_report h rfl
  | reportSeen o now =>
      simp only [step, Answer.ofReply_engine]
      exact effect_report h rfl
  | check r => exact .later (.refl h.cache)
  | acquire r now =>
      simp only [step, Answer.ofReply_engine]
      exact .later (later_acquire h.cache r now)
  | tick now => exact .later (later_tick h.cache now)
  | cleanup now => exact .later (later_cleanup h.cache now)
  | ruleChanged service => exact .later (later_ruleChanged h.cache service)
  | load service rules =>
      simp only [step, load, hs, RuleSource.load]
      exact effect_hear h hs (s.changesOnly_load service rules) (hreach.load service rules)
  | clear service =>
      simp only [step, clear, hs, RuleSource.clear]
      exact effect_hear h hs (s.changesOnly_clear service) (hreach.clear service)
  | destroy => exact .later (later_destroy h.cache)

/-! ## The invariant -/

theorem WellKept.later (h : e.WellKept) (hl : e.Later d) : d.WellKept := by
  have hconfig : d.config = e.config := congrArg EngineSetup.config hl.setup
  have hsource : d.source = e.source := congrArg EngineSetup.source hl.setup
  have hcompile : d.compile = e.compile := congrArg EngineSetup.compile hl.setup
  refine ⟨hconfig ▸ h.buckets, hsource ▸ h.source, ?_, hl.cache.isTidy, fun hd => ?_⟩
  · rw [hl.patterns, hcompile]
    exact h.patterns
  · rcases hl.destroyed hd with he | hempty
    · exact hl.cache.entries_eq_nil (h.destroyed he)
    · exact hempty

theorem WellKept.informed (h : e.WellKept) (hactive : e.isDestroyed = false)
    (habsent : e.cache.find? o.resource = none) : (e.informed o now).WellKept := by
  obtain ⟨_, hpatterns, _⟩ := newCircuit?_spec h.patterns o.resource o.caller now
  obtain ⟨s, hs, hreach⟩ := h.source
  have hsource : (e.informed o now).source = .store s true := (source_informed h habsent).trans hs
  have htidy : (e.informed o now).cache.IsTidy :=
    isTidy_informed h.patterns h.cache habsent
  rw [informed_of_absent habsent] at hsource htidy ⊢
  refine ⟨h.buckets, ⟨s, hsource, hreach⟩, hpatterns, htidy, fun hd => ?_⟩
  rw [hactive] at hd
  cases hd

/-- **Every effect keeps an engine in order.** -/
theorem wellKept_effect (h : e.WellKept) (he : Effect e op d) : d.WellKept := by
  cases he with
  | later hl => exact h.later hl
  | learned o now hop hactive habsent hl => exact (h.informed hactive habsent).later hl
  | reloaded s next service hs hnext hothers hl hgone =>
      have hnew : WellKept { e with source := .store next true } :=
        ⟨h.buckets, ⟨next, rfl, hnext⟩, h.patterns, h.cache, h.destroyed⟩
      exact hnew.later hl

theorem wellKept_run (h : e.WellKept) (ops : List Op) : (e.run ops).1.WellKept := by
  induction ops generalizing e with
  | nil => exact h
  | cons op rest ih => exact ih (wellKept_effect h (effect_step h op))

/-! ## Where an entry comes from -/

/-- **An entry was there before**, and the rules of its service stayed, **or it is new**: then it was
    reported on for the first time, and made under the rules of that time. -/
theorem before_effect (h : e.WellKept) (he : Effect e op d) {y : CacheEntry}
    (hy : y ∈ d.cache.entries) :
    (∃ x ∈ e.cache.entries, x.resource = y.resource ∧ x.slot.Grows y.slot ∧
      d.source.rules? y.resource.key = e.source.rules? y.resource.key) ∨
    ∃ o now, op.report? = some (o, now) ∧ o.resource = y.resource ∧
      e.cache.find? o.resource = none ∧ d.source = e.source ∧
      (Slot.ofCircuit? e.cache.built
        (e.newCircuit? o.resource o.caller now (e.patterns, e.source)).1).Grows y.slot := by
  cases he with
  | later hl =>
      have hsource : d.source = e.source := congrArg EngineSetup.source hl.setup
      obtain ⟨x, hx, hxy, hg⟩ := hl.cache.before y hy
      exact Or.inl ⟨x, hx, hxy, hg, by rw [hsource]⟩
  | learned o now hop hactive habsent hl =>
      have hsource : d.source = e.source :=
        (congrArg EngineSetup.source hl.setup).trans (source_informed h habsent)
      obtain ⟨x, hx, hxy, hg⟩ := hl.cache.before y hy
      rw [informed_of_absent habsent] at hx
      rcases CircuitCache.mem_insert hx with hx | rfl
      · exact Or.inl ⟨x, hx, hxy, hg, by rw [hsource]⟩
      · exact Or.inr ⟨o, now, hop, hxy, habsent, hsource, hg⟩
  | reloaded s next service hs hnext hothers hl hgone =>
      have hsource : d.source = .store next true := congrArg EngineSetup.source hl.setup
      obtain ⟨x, hx, hxy, hg⟩ := hl.cache.before y hy
      refine Or.inl ⟨x, hx, hxy, hg, ?_⟩
      -- the entry is still there, so its service is another one
      rw [hsource, hs]
      exact congrArg (Option.map fun set => set.rules) (hothers _ (hgone y hy))

end CircuitBreaker.Engine

import Mathlib.Data.List.Induction
import CircuitBreaker.Proofs.Engine.Effect

/-!
# `Proofs.Engine.Freshness` — no entry outlives the rules that it was made under

An entry is made by a report, from the rules of that time, and stays while the rules of other services
change. So it could be out of date only if the rules of its own service changed and it was still there.
That is what removing the entries of a service on every change rules out.

`IsCurrent` says that an entry is what the rules decide **now**, for the caller of the report that the
entry comes from (`CreatedBy`). It holds of a new entry, of an entry whose circuit is run, and as long
as the rules of its service stay (`isCurrent_congr`). By induction it holds after every run
(`exists_createdBy`), and `cached_under_current_rules` spells out what that means for what is tracked
and what is not.
-/

namespace CircuitBreaker.Engine

variable {e d : Engine} {op : Op} {ops : List Op} {r : Resource} {o : Outcome}
  {caller : Option ServiceKey} {now : Nat}

/-! ## What stays the same -/

/-- An engine keeps its settings, its precedence and its compiler; only the rules may change. -/
theorem setup_effect (he : Effect e op d) :
    d.toEngineSetup = { e.toEngineSetup with source := d.source } := by
  have later {b : Engine} (hl : b.Later d)
      (hb : b.toEngineSetup = { e.toEngineSetup with source := b.source }) :
      d.toEngineSetup = { e.toEngineSetup with source := d.source } := by
    rw [show d.source = b.source from congrArg EngineSetup.source hl.setup, hl.setup]
    exact hb
  cases he with
  | later hl => exact later hl rfl
  | learned o now hop hactive habsent hl =>
      exact later hl (by rw [informed_of_absent habsent])
  | reloaded s next service hs hnext hothers hl hgone => exact later hl rfl

theorem setup_run (h : e.WellKept) (ops : List Op) :
    (e.run ops).1.toEngineSetup = { e.toEngineSetup with source := (e.run ops).1.source } := by
  induction ops generalizing e with
  | nil => rfl
  | cons op rest ih =>
      have he := effect_step h op
      rw [run_cons, ih (wellKept_effect h he), setup_effect he]

/-! ## Entries that are current -/

/-- **An entry is current** if it is what the rules decide for a caller: nothing, or a circuit that was
    built from the rule and the block rules at some time and has been run since. -/
def IsCurrent (e : Engine) (r : Resource) (caller : Option ServiceKey) (since : Nat) : Slot → Prop
  | .notConfigured => e.decision r caller = none
  | .tracking _ c => ∃ a first done, e.decision r caller = some a ∧
      (Circuit.build? e.compile e.settings r a.1 a.2 since e.patterns).1 = .ok first ∧
      c = (first.run done).1

/-- Running the circuit keeps an entry current. -/
theorem isCurrent_grows {s t : Slot} (h : e.IsCurrent r caller now s) (hg : s.Grows t) :
    e.IsCurrent r caller now t := by
  cases hg with
  | notConfigured => exact h
  | tracking serial c ops =>
      obtain ⟨a, first, done, ha, hfirst, rfl⟩ := h
      exact ⟨a, first, done ++ ops, ha, hfirst, by rw [Circuit.run_append]⟩

/-- **An entry stays current** as long as the rules of its service stay. -/
theorem isCurrent_congr (he : e.WellKept) (hd : d.WellKept)
    (hsetup : d.toEngineSetup = { e.toEngineSetup with source := d.source })
    (hrules : d.source.rules? r.key = e.source.rules? r.key) {s : Slot}
    (h : e.IsCurrent r caller now s) : d.IsCurrent r caller now s := by
  have hcompile : d.compile = e.compile := by rw [hsetup]
  have hprecedence : d.precedence = e.precedence := by rw [hsetup]
  have hconfig : d.config = e.config := by rw [hsetup]
  have hsettings : d.settings = e.settings := by unfold settings; rw [hconfig]
  have hdecision : d.decision r caller = e.decision r caller := by
    unfold decision
    rw [hrules, hcompile, hprecedence]
  cases s with
  | notConfigured => exact hdecision.trans h
  | tracking serial c =>
      obtain ⟨a, first, done, ha, hfirst, hc⟩ := h
      refine ⟨a, first, done, hdecision.trans ha, ?_, hc⟩
      -- the two engines may have compiled different patterns by now
      have built := Circuit.answers_build? e.compile e.settings r a.1 a.2 now
      rw [hcompile, hsettings, (built d.patterns (hcompile ▸ hd.patterns)).1,
        ← (built e.patterns he.patterns).1]
      exact hfirst

/-- A decision is about a rule of the rule set, and block rules of that rule. -/
theorem decision_eq_some (h : e.WellKept) {a : Rule × List BlockRule}
    (ha : e.decision r caller = some a) :
    ∃ s set, e.source = .store s true ∧ s.get? r.key = some set ∧ set.IsSound s.compile ∧
      Resolution.governing e.compile e.precedence r caller set.rules = some a.1 ∧
      a.1 ∈ set.rules ∧ a.2 = a.1.blocksFor e.compile r ∧ a.2 ≠ [] := by
  obtain ⟨s, hs, hreach⟩ := h.source
  obtain ⟨rules, hrules, hgoverns, hblocks, hsome⟩ := of_decision ha
  rw [hs] at hrules
  obtain ⟨set, hset, rfl⟩ := Option.map_eq_some_iff.mp hrules
  exact ⟨s, set, hs, hset, RuleStore.isSound_of_get? hreach hset, hgoverns,
    Resolution.mem_of_governing hgoverns, hblocks, hsome⟩

/-- **What the rules decide on can be built**, since the rules in a store are valid. -/
theorem build?_of_decision (h : e.WellKept) {a : Rule × List BlockRule}
    (ha : e.decision r caller = some a) (now : Nat) :
    ∃ first, (Circuit.build? e.compile e.settings r a.1 a.2 now e.patterns).1 = .ok first := by
  obtain ⟨s, set, _, _, hsound, _, hmem, hblocks, _⟩ := decision_eq_some h ha
  have hchecks : ∀ b ∈ a.2, b.check s.compile = .ok () := by
    rw [hblocks]
    exact Rule.check_of_mem_blocksFor (hsound.valid a.1 hmem)
  exact Circuit.exists_build? h.buckets hchecks

/-- **A new entry is current.** -/
theorem isCurrent_newCircuit? (h : e.WellKept) (r : Resource) (caller : Option ServiceKey)
    (now serial : Nat) :
    e.IsCurrent r caller now
      (.ofCircuit? serial (e.newCircuit? r caller now (e.patterns, e.source)).1) := by
  rw [(newCircuit?_spec h.patterns r caller now).1]
  cases ha : e.decision r caller with
  | none => exact ha
  | some a =>
      obtain ⟨first, hfirst⟩ := build?_of_decision h ha now
      rw [Option.bind_some, hfirst]
      exact ⟨a, first, [], ha, hfirst, rfl⟩

/-! ## Where an entry comes from -/

/-- **The report that the entry of a resource comes from**, among some operations: there was no entry
    before it, and there has been one ever since. -/
def CreatedBy (e : Engine) (ops : List Op) (r : Resource) (o : Outcome) (now : Nat) : Prop :=
  ∃ pre op post, ops = pre ++ op :: post ∧ op.report? = some (o, now) ∧ o.resource = r ∧
    (e.run pre).1.cache.find? r = none ∧
    ∀ mid, mid <+: post → ((e.run (pre ++ op :: mid)).1.cache.find? r).isSome

theorem createdBy_last (hop : op.report? = some (o, now))
    (habsent : (e.run ops).1.cache.find? o.resource = none)
    (hthere : ((e.run (ops ++ [op])).1.cache.find? o.resource).isSome) :
    e.CreatedBy (ops ++ [op]) o.resource o now := by
  refine ⟨ops, op, [], rfl, hop, rfl, habsent, fun mid hmid => ?_⟩
  rw [List.prefix_nil.mp hmid]
  exact hthere

theorem CreatedBy.snoc (h : e.CreatedBy ops r o now)
    (hthere : ((e.run (ops ++ [op])).1.cache.find? r).isSome) :
    e.CreatedBy (ops ++ [op]) r o now := by
  obtain ⟨pre, report, post, rfl, hop, hr, habsent, hsince⟩ := h
  have hsnoc : pre ++ report :: post ++ [op] = pre ++ report :: (post ++ [op]) := by simp
  refine ⟨pre, report, post ++ [op], hsnoc, hop, hr, habsent, fun mid hmid => ?_⟩
  -- either all operations, or those before the last
  rcases List.prefix_concat_iff.mp hmid with rfl | hmid
  · rw [← hsnoc]
    exact hthere
  · exact hsince mid hmid

theorem run_snoc (e : Engine) (ops : List Op) (op : Op) :
    (e.run (ops ++ [op])).1 = ((e.run ops).1.step op).1 := by
  rw [run_append]
  rfl

/-- **Every entry comes from a report and is current.** -/
theorem exists_createdBy (h : e.WellKept) (hempty : e.cache.entries = []) (ops : List Op) :
    ∀ y ∈ (e.run ops).1.cache.entries, ∃ o now, e.CreatedBy ops y.resource o now ∧
      (e.run ops).1.IsCurrent y.resource o.caller now y.slot := by
  -- the cases are about the last operation, so the induction is from the end
  induction ops using List.reverseRecOn with
  | nil =>
      intro y hy
      rw [run_nil, hempty] at hy
      cases hy
  | append_singleton ops op ih =>
      have hold := wellKept_run h ops
      have heffect := effect_step hold op
      have hnew := wellKept_effect hold heffect
      have hsetup := setup_effect heffect
      intro y hy
      have hthere : ((e.run (ops ++ [op])).1.cache.find? y.resource).isSome := by
        rw [run_snoc] at hy ⊢
        exact CircuitCache.find?_isSome_of_mem hnew.cache.isPlaced hy
      rw [run_snoc] at hy ⊢
      rcases before_effect hold heffect hy with
        ⟨x, hx, hxy, hg, hrules⟩ | ⟨o, now, hop, hoy, habsent, hsource, hg⟩
      · obtain ⟨o, now, hcreated, hcurrent⟩ := ih x hx
        rw [hxy] at hcreated hcurrent
        exact ⟨o, now, hcreated.snoc hthere,
          isCurrent_grows (isCurrent_congr hold hnew hsetup hrules hcurrent) hg⟩
      · rw [← hoy] at hthere ⊢
        have hcurrent := isCurrent_newCircuit? hold o.resource o.caller now
        exact ⟨o, now, createdBy_last hop habsent hthere,
          isCurrent_grows (isCurrent_congr hold hnew hsetup (by rw [hsource]) (hcurrent _)) hg⟩

/-! ## In terms of the rules -/

/-- The rule that the engine finds for a resource and a caller in a rule set. -/
def resolved? (e : Engine) (r : Resource) (caller : Option ServiceKey) (set : RuleSet) :
    Option Rule :=
  (Resolution.resolve e.compile e.precedence r caller set.rules e.patterns).1

/-- The block rules of a rule that the engine finds active for a resource. -/
def active (e : Engine) (r : Resource) (rule : Rule) : List BlockRule :=
  (rule.activeBlocks e.compile r e.patterns).1

theorem resolved?_eq (h : e.WellKept) (r : Resource) (caller : Option ServiceKey) (set : RuleSet) :
    e.resolved? r caller set =
      Resolution.governing e.compile e.precedence r caller set.rules :=
  (Resolution.answers_resolve _ _ r caller set.rules _ h.patterns).1

theorem active_eq (h : e.WellKept) (r : Resource) (rule : Rule) :
    e.active r rule = rule.blocksFor e.compile r :=
  (Rule.answers_activeBlocks _ rule r _ h.patterns).1

/-- **Nothing is decided** without a rule set, without a rule, or without an active block rule. -/
theorem decision_eq_none_iff (h : e.WellKept) {s : RuleStore} (hs : e.source = .store s true) :
    e.decision r caller = none ↔
      s.get? r.key = none ∨
      (∃ set, s.get? r.key = some set ∧ e.resolved? r caller set = none) ∨
      ∃ set rule, s.get? r.key = some set ∧ e.resolved? r caller set = some rule ∧
        e.active r rule = [] := by
  simp only [resolved?_eq h, active_eq h, decision, hs, RuleSource.rules?]
  cases s.get? r.key with
  | none => simp
  | some set =>
      simp only [Option.map_some, Option.bind_some]
      cases hrule : Resolution.governing e.compile e.precedence r caller set.rules with
      | none => simp [hrule]
      | some rule => cases hblocks : rule.blocksFor e.compile r <;> simp [hrule, hblocks]

/-- A current entry is empty exactly if nothing is decided. -/
theorem slot_eq_notConfigured_iff {slot : Slot} (h : e.IsCurrent r caller now slot) :
    slot = .notConfigured ↔ e.decision r caller = none := by
  cases slot with
  | notConfigured => exact iff_of_true rfl h
  | tracking serial c =>
      obtain ⟨a, _, _, ha, _⟩ := h
      rw [ha]
      exact iff_of_false (by simp) (by simp)

/-- **The cache never holds a decision made under rules that are out of date.** Take an engine that
    hears of the changes in its rule store, and any operations on it. Every entry that is then in its
    cache comes from a report, and for the caller of that report
    * it says that there is no circuit exactly if there is no rule set, no rule that governs the
      resource, or no active block rule;
    * otherwise it has a circuit that was built, when that report came, from the rule that governs the
      resource in the rule set as it is now, guarded by the block rules that are active now. -/
theorem cached_under_current_rules {setup : EngineSetup} {s : RuleStore} {start : Nat}
    (hs : s.Reachable) (hsource : setup.source = .store s true)
    (hbuild : build? setup start = .ok e) (ops : List Op) :
    let d := (e.run ops).1
    ∃ store : RuleStore, d.toEngineSetup = { setup with source := .store store true } ∧
      ∀ y ∈ d.cache.entries, ∃ o now, e.CreatedBy ops y.resource o now ∧
        (y.slot = .notConfigured ↔
          store.get? y.resource.key = none ∨
          (∃ set, store.get? y.resource.key = some set ∧
            d.resolved? y.resource o.caller set = none) ∨
          ∃ set rule, store.get? y.resource.key = some set ∧
            d.resolved? y.resource o.caller set = some rule ∧ d.active y.resource rule = []) ∧
        ∀ serial c, y.slot = .tracking serial c → ∃ set rule first done,
          store.get? y.resource.key = some set ∧
          d.resolved? y.resource o.caller set = some rule ∧
          rule ∈ set.rules ∧ rule.revision = set.revision ∧ c.rule = rule ∧
          (Circuit.build? d.compile d.settings y.resource rule (d.active y.resource rule) now
            d.patterns).1 = .ok first ∧
          c = (first.run done).1 := by
  intro d
  have h := wellKept_build? hsource hs hbuild
  have hd : d.WellKept := wellKept_run h ops
  obtain ⟨store, hstore, _⟩ := hd.source
  obtain ⟨hsetup, hempty⟩ : e.toEngineSetup = setup ∧ e.cache.entries = [] := by
    obtain ⟨_, rfl⟩ := eq_of_build? hbuild
    exact ⟨rfl, rfl⟩
  refine ⟨store, by rw [← hsetup, ← hstore]; exact setup_run h ops, fun y hy => ?_⟩
  obtain ⟨o, now, hcreated, hcurrent⟩ := exists_createdBy h hempty ops y hy
  refine ⟨o, now, hcreated,
    (slot_eq_notConfigured_iff hcurrent).trans (decision_eq_none_iff hd hstore), ?_⟩
  intro serial c hslot
  rw [hslot] at hcurrent
  obtain ⟨a, first, done, ha, hfirst, rfl⟩ := hcurrent
  obtain ⟨store', set, hstore', hset, hsound, hgoverns, hmem, hblocks, _⟩ := decision_eq_some hd ha
  obtain rfl : store' = store := by
    rw [hstore] at hstore'
    cases hstore'
    rfl
  have hrule : (first.run done).1.rule = a.1 :=
    (Circuit.rule_run first done).trans (Circuit.rule_of_build? hfirst)
  refine ⟨set, a.1, first, done, hset, (resolved?_eq hd _ _ set).trans hgoverns, hmem,
    hsound.revision a.1 hmem, hrule, ?_, rfl⟩
  rw [active_eq hd, ← hblocks]
  exact hfirst

/-- A service that no rule is loaded for at first. -/
def sampleService : ServiceKey := { realm := "default", name := "other" }

/-- A store with `sampleRule` for the service of the sample circuit. -/
def sampleStore : RuleStore :=
  ((RuleStore.empty standardCompiler toString).load Circuit.sample.resource.key
    [Circuit.sampleRule]).1

/-- The settings for an engine on `sampleStore`, with nothing else set. -/
def plainSetup : EngineSetup := { compile := standardCompiler, source := .store sampleStore true }

/-- A new engine on `sampleStore`. -/
def sample : Engine where
  compile := standardCompiler
  source := .store sampleStore true
  patterns := PatternCache.ofCapacity 1024
  lastSweep := 0

/-- Reports on a service with rules and on one without, which then gets some. -/
def sampleOps : List Op :=
  [.report (Circuit.sampleOutcome .fail) 5,
    .report { resource := .service sampleService, verdict := .fail } 6,
    .load sampleService [Circuit.sampleRule]]

/-- The note that the other service has no circuit is gone, and the circuit that is left comes from a
    report and has the current revision. -/
theorem sample_cached_under_current_rules :
    sampleStore.Reachable ∧ build? plainSetup 0 = .ok sample ∧
    (let d := (sample.run sampleOps).1
     d.cache.entries.map (fun y => y.resource) = [Circuit.sample.resource] ∧
     ∃ store : RuleStore, d.source = .store store true ∧
       ∀ y ∈ d.cache.entries, (∃ o now, sample.CreatedBy sampleOps y.resource o now) ∧
         ∀ serial c, y.slot = .tracking serial c → ∃ set,
           store.get? y.resource.key = some set ∧ c.rule.revision = set.revision) := by
  have hs : sampleStore.Reachable := .load _ _ (.empty _ _)
  have hbuild : build? plainSetup 0 = .ok sample := rfl
  obtain ⟨store, hsetup, hall⟩ := cached_under_current_rules hs rfl hbuild sampleOps
  refine ⟨hs, hbuild, by decide, store, congrArg EngineSetup.source hsetup, fun y hy => ?_⟩
  obtain ⟨o, now, hcreated, _, htracked⟩ := hall y hy
  refine ⟨⟨o, now, hcreated⟩, fun serial c hslot => ?_⟩
  obtain ⟨set, rule, _, _, hset, _, _, hrevision, rfl, _⟩ := htracked serial c hslot
  exact ⟨set, hset, hrevision⟩

end CircuitBreaker.Engine

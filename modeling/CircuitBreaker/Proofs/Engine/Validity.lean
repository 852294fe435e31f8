import CircuitBreaker.Proofs.Engine.OneResource

/-!
# `Proofs.Engine.Validity` — the circuits of an engine follow valid rules

A store lets no rule in that does not pass its check. Fixed rules are taken as they are, and whoever
gives them to an engine has to see to it. A source is **valid** if all rules that it has are; loading
and clearing keep it so (`RuleSource.IsValid.load`, `RuleSource.IsValid.clear`).

A circuit keeps the rule that it was built from, and an engine builds circuits from the rules of its
source only. So with a valid source every circuit follows a valid rule, and goes on doing so when the
rules change under it (`validRules_run_build?`).
-/

namespace CircuitBreaker

/-! ## Sources -/

namespace RuleStore

variable {s : RuleStore} {service other : ServiceKey} {rules : List Rule} {set : RuleSet}

/-- What a store holds after a load, it held before, or the load put it in place. -/
theorem get?_load_cases (h : (s.load service rules).1.get? other = some set) :
    s.get? other = some set ∨ s.nextSet? rules = some set := by
  rw [load_eq] at h
  split at h
  · exact Or.inl h
  · by_cases hother : other = service
    · subst hother
      rw [get?_replace_self] at h
      exact Or.inr h
    · rw [get?_replace_of_ne _ hother] at h
      exact Or.inl h

/-- What a store holds after its rules for a service were cleared, it held before. -/
theorem get?_of_clear (h : (s.clear service).1.get? other = some set) : s.get? other = some set := by
  by_cases hother : other = service
  · subst hother
    rw [(get?_clear s other).1] at h
    cases h
  · rcases s.changesOnly_clear service with heq | ⟨next, change, heq, _, hothers⟩
    · rw [heq] at h
      exact h
    · rw [heq] at h
      exact (hothers other hother).symm.trans h

end RuleStore

namespace RuleSource

/-- **A source is valid** for a compiler if all its rules are, and if what is loaded into it is tried with
    that compiler too. -/
structure IsValid (f : Compiler) (s : RuleSource) : Prop where
  checker : ∀ g, s.checker? = some g → g = f
  rules : ∀ service rules, s.rules? service = some rules → ∀ rule ∈ rules, rule.isValid f = true

variable {f : Compiler} {s : RuleSource}

/-- A store that comes of loading and clearing is a valid source. -/
theorem isValid_store {store : RuleStore} (h : store.Reachable) (hcompile : store.compile = f)
    (subscribed : Bool) : (RuleSource.store store subscribed).IsValid f := by
  subst hcompile
  refine ⟨fun g hg => (Option.some.inj hg).symm, fun service rules hrules => ?_⟩
  obtain ⟨set, hset, rfl⟩ := Option.map_eq_some_iff.mp hrules
  exact (RuleStore.isSound_of_get? h hset).valid

theorem IsValid.asked (h : s.IsValid f) : s.asked.IsValid f := by
  cases s <;> exact ⟨h.checker, h.rules⟩

theorem IsValid.load (h : s.IsValid f) (service : ServiceKey) (rules : List Rule) :
    (s.load service rules).1.IsValid f := by
  constructor
  case checker =>
    rw [checker?_load]
    exact h.checker
  case rules =>
    cases s with
    | fixed sets lookups => exact h.rules
    | store s subscribed =>
        intro other found hfound
        obtain ⟨set, hset, rfl⟩ := Option.map_eq_some_iff.mp hfound
        rcases RuleStore.get?_load_cases hset with hold | hnew
        · exact h.rules other set.rules (congrArg (Option.map RuleSet.rules) hold)
        · rw [← h.checker s.compile rfl]
          exact (RuleStore.isSound_nextSet? hnew).valid

theorem IsValid.clear (h : s.IsValid f) (service : ServiceKey) :
    (s.clear service).1.IsValid f := by
  constructor
  case checker =>
    rw [checker?_clear]
    exact h.checker
  case rules =>
    cases s with
    | fixed sets lookups => exact h.rules
    | store s subscribed =>
        intro other found hfound
        obtain ⟨set, hset, rfl⟩ := Option.map_eq_some_iff.mp hfound
        have hold := RuleStore.get?_of_clear hset
        exact h.rules other set.rules (congrArg (Option.map RuleSet.rules) hold)

end RuleSource

namespace Circuit

theorem rule_wakened (c : Circuit) (now : Nat) : (c.wakened now).rule = c.rule := by
  obtain ⟨ops, hrun⟩ := wakened_eq_run now c
  rw [hrun, rule_run]

theorem rule_admitted (c : Circuit) : c.admitted.rule = c.rule := by
  obtain ⟨ops, hrun⟩ := admitted_eq_run c
  rw [hrun, rule_run]

end Circuit

namespace Engine

variable {f : Compiler} {e : Engine} {op : Op} {r : Resource} {c : Circuit}

/-! ## Circuits -/

/-- A new circuit follows a rule that the source has for its service. -/
theorem rule_of_newCircuit? (h : e.patterns.Faithful e.compile) {caller : Option ServiceKey} {now : Nat}
    (hc : (e.newCircuit? r caller now (e.patterns, e.source)).1 = some c) :
    ∃ rules, e.source.rules? r.key = some rules ∧ c.rule ∈ rules := by
  obtain ⟨rules, rule, hrules, hmem, hbuilt⟩ := built_of_newCircuit? h hc
  exact ⟨rules, hrules, (Circuit.rule_of_build? hbuilt).symm ▸ hmem⟩

/-- **An engine follows valid rules** if its source is valid and so is the rule of every circuit. -/
structure ValidRules (f : Compiler) (e : Engine) : Prop where
  source : e.source.IsValid f
  circuit : ∀ r c, e.cache.circuit? r = some c → c.rule.isValid f = true

theorem validRules_build? {setup : EngineSetup} {start : Nat} (h : build? setup start = .ok e)
    (hsource : setup.source.IsValid f) : e.ValidRules f := by
  obtain ⟨_, rfl⟩ := eq_of_build? h
  refine ⟨hsource, fun r c hc => ?_⟩
  have hempty : ({} : CircuitCache).find? r = none :=
    (CircuitCache.find?_eq_none_iff CircuitCache.isTidy_empty.isPlaced).mpr fun x hx => by cases hx
  have hnone : ({} : CircuitCache).circuit? r = none := by
    unfold CircuitCache.circuit?
    rw [hempty]
    rfl
  rw [hnone] at hc
  cases hc

/-- The rules that an operation leaves behind. -/
theorem isValid_source_step (h : e.IsOrderly) (hsource : e.source.IsValid f) (op : Op) :
    (e.step op).1.source.IsValid f := by
  have later {d : Engine} (hl : e.Later d) : d.source.IsValid f := by
    rw [congrArg EngineSetup.source hl.setup]
    exact hsource
  have reported (o : Outcome) (now : Nat) : (e.report o now).engine.source.IsValid f := by
    by_cases hactive : e.isActive = true
    · rw [report_engine hactive (h.informed hactive o now).cache]
      show (e.informed o now).source.IsValid f
      cases hfind : e.cache.find? o.resource with
      | some x =>
          rw [informed_of_present hfind]
          exact hsource
      | none =>
          rw [informed_of_absent hfind]
          show (e.newCircuit? o.resource o.caller now (e.patterns, e.source)).2.2.IsValid f
          rw [(newCircuit?_spec h.patterns o.resource o.caller now).2.2]
          exact hsource.asked
    · unfold report
      rw [if_neg hactive]
      exact hsource
  have heard (source : RuleSource) (hvalid : source.IsValid f) (change : Option RuleChange) :
      (({ e with source } : Engine).hear change).1.source.IsValid f := by
    have hl := later_hear (e := { e with source }) h.cache change
    rw [congrArg EngineSetup.source hl.setup]
    exact hvalid
  cases op with
  | report o now =>
      simp only [step, Answer.ofReply_engine]
      exact reported o now
  | reportSeen o now =>
      simp only [step, Answer.ofReply_engine]
      exact reported o (min o.timestamp now)
  | check r => exact hsource
  | acquire r now =>
      simp only [step, Answer.ofReply_engine]
      exact later (later_acquire h.cache r now)
  | tick now => exact later (later_tick h.cache now)
  | cleanup now => exact later (later_cleanup h.cache now)
  | ruleChanged service => exact later (later_ruleChanged h.cache service)
  | load service rules => exact heard _ (hsource.load service rules) _
  | clear service => exact heard _ (hsource.clear service) _
  | destroy => exact later (later_destroy h.cache)

/-- The rule that the circuit of an entry follows. -/
def followed? (x : Option CacheEntry) : Option Rule :=
  (x.bind fun x => x.slot.circuit?).map fun c => c.rule

theorem followed?_map {f : Circuit → Circuit} (hf : ∀ c, (f c).rule = c.rule)
    (x : Option CacheEntry) :
    followed? (x.map (CacheEntry.mapCircuit f)) = followed? x := by
  cases x with
  | none => rfl
  | some x =>
      have hslot : (x.mapCircuit f).slot.circuit? = x.slot.circuit?.map f :=
        Slot.circuit?_mapCircuit f x.slot
      simp only [followed?, Option.map_some, Option.bind_some, hslot, Option.map_map]
      exact congrArg (fun g => x.slot.circuit?.map g) (funext hf)

/-- **A resource keeps the rule that its circuit follows**, or has no circuit any more, or gets one that
    was just built. -/
theorem followed?_of_entryEffect {x y : Option CacheEntry} (he : EntryEffect e op r x y) :
    followed? y = followed? x ∨ followed? y = none ∨ ∃ caller now c,
      (e.newCircuit? r caller now (e.patterns, e.source)).1 = some c ∧
        followed? y = some c.rule := by
  have hreport (o : Outcome) (now : Nat) (c : Circuit) : (c.report o now).1.rule = c.rule :=
    Circuit.rule_run c [.report o now]
  cases he with
  | passed _ hop => exact Or.inl rfl
  | absent => exact Or.inl rfl
  | reported o now hop hr x =>
      exact Or.inl (followed?_map (hreport o now) (some { x with lastAccess := _ }))
  | learned o now hop hr =>
      refine Or.inr ?_
      have hrule := followed?_map (hreport o now) (some (e.cache.added r now
        (e.newCircuit? r o.caller now (e.patterns, e.source)).1))
      rw [Option.map_some] at hrule
      rw [hrule]
      cases hnew : (e.newCircuit? r o.caller now (e.patterns, e.source)).1 with
      | none => exact Or.inl rfl
      | some c => exact Or.inr ⟨o.caller, now, c, hnew, rfl⟩
  | woken q now hop hq => exact Or.inl (followed?_map (fun c => c.rule_wakened now) x)
  | admitted q now hop hq hgranted =>
      refine Or.inl (followed?_map (fun c => ?_) x)
      rw [Circuit.rule_admitted, Circuit.rule_wakened]
  | evaluated now hop =>
      exact Or.inl (followed?_map (fun c => Circuit.rule_run c [.evaluate now]) x)
  | swept now hop x hidle => exact Or.inr (Or.inl rfl)
  | dropped hop => exact Or.inr (Or.inl rfl)

/-- **Every operation leaves circuits of valid rules behind.** -/
theorem validRules_step (h : e.IsOrderly) (hvalid : e.ValidRules f) (op : Op) :
    (e.step op).1.ValidRules f := by
  refine ⟨isValid_source_step h hvalid.source op, fun r c hc => ?_⟩
  have hrule : followed? ((e.step op).1.cache.find? r) = some c.rule :=
    congrArg (Option.map Circuit.rule) hc
  rcases followed?_of_entryEffect (entryEffect_step h op r) with hsame | hnone | hnew
  · -- it was there before, with the same rule
    rw [hsame] at hrule
    obtain ⟨b, hb, hbc⟩ := Option.map_eq_some_iff.mp hrule
    exact hbc ▸ hvalid.circuit r b hb
  · rw [hnone] at hrule
    cases hrule
  · obtain ⟨caller, now, b, hb, hbc⟩ := hnew
    rw [hbc, Option.some.injEq] at hrule
    obtain ⟨rules, hrules, hmem⟩ := rule_of_newCircuit? h.patterns hb
    rw [← hrule]
    exact hvalid.source.rules r.key rules hrules b.rule hmem

/-- **The circuits of every engine that can be reached follow valid rules**, if its source is valid. -/
theorem validRules_run_build? {setup : EngineSetup} {start : Nat} {first : Engine}
    (hbuild : build? setup start = .ok first) (hsource : setup.source.IsValid f) (ops : List Op) :
    (first.run ops).1.ValidRules f := by
  have run {e : Engine} (ops : List Op) (h : e.IsOrderly) (hvalid : e.ValidRules f) :
      (e.run ops).1.ValidRules f := by
    induction ops generalizing e with
    | nil => exact hvalid
    | cons op rest ih => exact ih (isOrderly_step h op) (validRules_step h hvalid op)
  exact run ops (isOrderly_build? hbuild) (validRules_build? hbuild hsource)

end Engine

end CircuitBreaker

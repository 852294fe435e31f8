import CircuitBreaker.Proofs.Circuit.Soundness
import CircuitBreaker.Proofs.Engine.Lifecycle
import CircuitBreaker.Proofs.Engine.Validity

/-!
# `Proofs.Engine.Soundness` — a valid rule never fails

A circuit that cannot be built leaves its resource without protection, and nobody is told but the log.
With the rules of a store this does not happen: a resource has no circuit only because no rule guards it
(`newCircuit?_eq_none_iff`). And the circuits that are built are sound, and stay so
(`isSound_of_circuit?`): each was born in an engine whose rules are valid, as every engine is that comes
of such a one. If the rules of the store fit at all times, so does the rule of every circuit
(`fits_of_circuit?`).

Together with what is known of a single rule this is the last theorem, `valid_rule_never_fails`.
-/

namespace CircuitBreaker.Engine

variable {f : Compiler} {e first : Engine} {op : Op} {r : Resource} {caller : Option ServiceKey} {now : Nat}
  {c : Circuit} {setup : EngineSetup}

/-! ## Resources without a circuit -/

/-- **No rule guards a resource** for a caller: there are none for its service, or none of them applies,
    or no block rule of the one that governs has the resource in scope. -/
def IsUnguarded (e : Engine) (r : Resource) (caller : Option ServiceKey) : Prop :=
  ∀ rules, e.source.rules? r.key = some rules →
    let governed := Resolution.resolve e.compile e.precedence r caller rules e.patterns
    ∀ rule, governed.1 = some rule → (rule.activeBlocks e.compile r governed.2).1 = []

/-- No rule guards a resource exactly if the rules decide on no circuit for it. -/
theorem decision_eq_none_iff_isUnguarded (h : e.patterns.Faithful e.compile) :
    e.decision r caller = none ↔ e.IsUnguarded r caller := by
  unfold decision IsUnguarded
  cases hrules : e.source.rules? r.key with
  | none => simp
  | some rules =>
      obtain ⟨hgoverning, hp⟩ :=
        Resolution.answers_resolve e.compile e.precedence r caller rules e.patterns h
      simp only [Option.bind_some, Option.some.injEq, forall_eq', hgoverning]
      cases hrule : Resolution.governing e.compile e.precedence r caller rules with
      | none => simp
      | some rule =>
          simp only [Option.some.injEq, forall_eq', (Rule.answers_activeBlocks e.compile rule r _ hp).1]
          cases rule.blocksFor e.compile r <;> simp

/-- **Building does not fail.** With valid rules a resource gets no circuit only if no rule guards it. -/
theorem newCircuit?_eq_none_iff (h : e.patterns.Faithful e.compile) (hsource : e.source.IsValid f)
    (hbuckets : e.config.bucketCount ≠ 0) :
    (e.newCircuit? r caller now (e.patterns, e.source)).1 = none ↔ e.IsUnguarded r caller := by
  rw [← decision_eq_none_iff_isUnguarded h, (newCircuit?_spec h r caller now).1]
  cases hdecision : e.decision r caller with
  | none => simp
  | some a =>
      obtain ⟨rules, hrules, hgoverns, hblocks, -⟩ := of_decision hdecision
      have hvalid : a.1.isValid f = true :=
        hsource.rules r.key rules hrules a.1 (Resolution.mem_of_governing hgoverns)
      have hchecks : ∀ b ∈ a.2, b.check f = .ok () := by
        rw [hblocks]
        exact Rule.check_of_mem_blocksFor hvalid
      have hbuilt : ∃ c, (Circuit.build? e.compile e.settings r a.1 a.2 now e.patterns).1 = .ok c :=
        Circuit.exists_build? hbuckets hchecks
      obtain ⟨c, hc⟩ := hbuilt
      simp only [Option.bind_some, hc, reduceCtorEq, iff_false]
      exact Option.some_ne_none c

/-! ## Circuits in use -/

theorem isSound_of_builds? (h : e.IsOrderly) (hsource : e.source.IsValid f)
    (hc : e.builds? op = some c) : c.IsSound f e.compile e.config.bucketCount := by
  obtain ⟨o, now, -, hmade⟩ := exists_of_builds? hc
  obtain ⟨rules, rule, hrules, hmem, hbuilt⟩ := built_of_newCircuit? h.patterns hmade
  have hvalid : rule.isValid f = true := hsource.rules _ rules hrules rule hmem
  exact Circuit.isSound_build? h.patterns (Rule.check_of_mem_blocksFor hvalid) hbuilt

/-- **The circuits in use are sound**, in every engine that can be reached on valid rules. -/
theorem isSound_of_circuit? {start : Nat} (hbuild : build? setup start = .ok first)
    (hsource : setup.source.IsValid f) (ops : List Op)
    (hc : (first.run ops).1.cache.circuit? r = some c) :
    c.IsSound f setup.compile setup.config.bucketCount := by
  obtain ⟨pre, op, -, birth, done, -, hbuilds, rfl⟩ := exists_birth_of_circuit? hbuild hc
  have hborn := isSound_of_builds? (isOrderly_run_build? hbuild pre)
    (validRules_run_build? hbuild hsource pre).source hbuilds
  -- the compiler and the number of buckets are those of the settings all along
  have hsame := sameSetup_run (isOrderly_build? hbuild) pre
  obtain ⟨-, rfl⟩ := eq_of_build? hbuild
  rw [hsame.compile, hsame.config] at hborn
  exact hborn.run done

/-- **The rules of a source fit** with some number of buckets, all of them. -/
def FitsAll (count : Nat) (s : RuleSource) : Prop :=
  ∀ service rules, s.rules? service = some rules → ∀ rule ∈ rules, rule.WindowsFit count

/-- **The rules of the circuits in use fit**, if those of the source did at every time. -/
theorem fits_of_circuit? {start count : Nat} (hbuild : build? setup start = .ok first) {ops : List Op}
    (hfits : ∀ done, done <+: ops → FitsAll count (first.run done).1.source)
    (hc : (first.run ops).1.cache.circuit? r = some c) : c.rule.WindowsFit count := by
  obtain ⟨pre, op, post, birth, done, rfl, hbuilds, rfl⟩ := exists_birth_of_circuit? hbuild hc
  obtain ⟨o, now, -, hmade⟩ := exists_of_builds? hbuilds
  obtain ⟨rules, hrules, hmem⟩ :=
    rule_of_newCircuit? (isOrderly_run_build? hbuild pre).patterns hmade
  rw [Circuit.rule_run]
  exact hfits pre (List.prefix_append _ _) _ rules hrules birth.rule hmem

/-! ## Valid rules -/

/-- **An engine on a store never fails to build**, whatever is done to it. -/
theorem newCircuit?_run_eq_none_iff {start : Nat} (hbuild : build? setup start = .ok first)
    (hsource : setup.source.IsValid f) (ops : List Op) (r : Resource) (caller : Option ServiceKey)
    (now : Nat) :
    ((first.run ops).1.newCircuit? r caller now ((first.run ops).1.patterns,
      (first.run ops).1.source)).1 = none ↔ (first.run ops).1.IsUnguarded r caller := by
  have horderly : (first.run ops).1.IsOrderly := isOrderly_run_build? hbuild ops
  have hsame : SameSetup first (first.run ops).1 := sameSetup_run (isOrderly_build? hbuild) ops
  have hbuckets : (first.run ops).1.config.bucketCount ≠ 0 := by
    obtain ⟨hcheck, rfl⟩ := eq_of_build? hbuild
    rw [hsame.config]
    exact ((Config.check_eq_ok_iff _).mp hcheck).1
  exact newCircuit?_eq_none_iff horderly.patterns (validRules_run_build? hbuild hsource ops).source
    hbuckets

/-- **A valid rule never fails.** Under settings that pass their check, and whatever the compiler, a valid
    rule whose windows fit into 64 bits gives every resource, in whatever cache its patterns are looked up,

    * an expression for each pattern that needs one,
    * windows that are made without a fault,
    * a circuit over the block rules in scope, on which no operation at any time divides by zero or looks
      outside of a ring, and which stays sound all the while: its windows are rings of as many buckets as
      the settings say, and its tests have their expressions.

    The same goes for an engine on a store that tries its rules with this compiler, whatever is done to the
    engine, as long as the rules of the store fit. A resource is left without a circuit only if no rule
    guards it; the windows of the rules in the store, and those of the circuits in use, are made without a
    fault; and these circuits are sound and will not fault. -/
theorem valid_rule_never_fails (f : Compiler) {config : Config} (hconfig : config.check = .ok ()) :
    (∀ rule : Rule, rule.isValid f = true → rule.WindowsFit config.bucketCount →
      ∀ (r : Resource) (now probes : Nat) (cache : PatternCache), cache.Faithful f →
        (∀ p ∈ rule.patterns, p.expression?.isSome = true →
          (p.compile f cache).1.isSome = true) ∧
        (∀ l ∈ rule.limits, ∃ w,
          Window.checkedOfInterval config.bucketCount l.interval = .ok (.ok w)) ∧
        let active := rule.activeBlocks f r cache
        ∃ c, (Circuit.build? f { buckets := config.bucketCount, probes } r rule
            active.1 now active.2).1 = .ok c ∧
          ∀ ops, (c.run ops).1.IsSound f f config.bucketCount ∧
            c.checkedRun ops = .ok (c.run ops)) ∧
    (∀ (setup : EngineSetup) (store : RuleStore) (subscribed : Bool), setup.config = config →
      setup.source = .store store subscribed → store.Reachable → store.compile = f →
      ∀ start, ∃ first, build? setup start = .ok first ∧ ∀ ops,
        (∀ done, done <+: ops → FitsAll config.bucketCount (first.run done).1.source) →
        let e := (first.run ops).1
        (∀ r caller now, (e.newCircuit? r caller now (e.patterns, e.source)).1 = none ↔
          e.IsUnguarded r caller) ∧
        (∀ service rules, e.source.rules? service = some rules → ∀ rule ∈ rules, ∀ l ∈ rule.limits,
          ∃ w, Window.checkedOfInterval config.bucketCount l.interval = .ok (.ok w)) ∧
        ∀ r c, e.cache.circuit? r = some c →
          (∀ l ∈ c.rule.limits, ∃ w,
            Window.checkedOfInterval config.bucketCount l.interval = .ok (.ok w)) ∧
          c.IsSound f setup.compile config.bucketCount ∧
          ∀ more, c.checkedRun more = .ok (c.run more)) := by
  obtain ⟨hbuckets, -⟩ := (Config.check_eq_ok_iff config).mp hconfig
  constructor
  · intro rule hvalid hfits r now probes cache hcache
    refine ⟨fun p hp => Rule.isSome_compile hvalid hcache hp,
      fun l => Rule.exists_window hvalid hbuckets hfits, ?_⟩
    obtain ⟨c, hc, hsound⟩ :=
      Rule.exists_circuit (s := ⟨config.bucketCount, probes⟩) hvalid hbuckets hcache r now
    exact ⟨c, hc, fun ops => ⟨hsound.run ops, Circuit.checkedRun_eq hsound.onRings ops⟩⟩
  · rintro setup store subscribed rfl hstore hreachable hcompile start
    have hsource : setup.source.IsValid f := by
      rw [hstore]
      exact RuleSource.isValid_store hreachable hcompile subscribed
    have hbuild : ∃ first, build? setup start = .ok first := by
      unfold build?
      rw [hconfig]
      exact ⟨_, rfl⟩
    obtain ⟨first, hfirst⟩ := hbuild
    refine ⟨first, hfirst, fun ops hfits => ?_⟩
    intro e
    have hrules : e.ValidRules f := validRules_run_build? hfirst hsource ops
    refine ⟨newCircuit?_run_eq_none_iff hfirst hsource ops, ?_, fun r c hc => ?_⟩
    · intro service rules hfound rule hmem l
      have hvalid : rule.isValid f = true := hrules.source.rules service rules hfound rule hmem
      exact Rule.exists_window hvalid hbuckets (hfits ops List.prefix_rfl service rules hfound rule hmem)
    · have hsound := isSound_of_circuit? hfirst hsource ops hc
      have hrule : c.rule.WindowsFit setup.config.bucketCount := fits_of_circuit? hfirst hfits hc
      exact ⟨fun l => Rule.exists_window (hrules.circuit r c hc) hbuckets hrule, hsound,
        fun more => Circuit.checkedRun_eq hsound.onRings more⟩

/-- A rule for users, with a regular expression in each place where there can be one. -/
def userRule : Rule where
  name := "users"
  level := .method
  matcher := { destination := { method := some { kind := .regex, value := "/users/.+" } } }
  blocks := [{
    name := "server"
    api := some { kind := .regex, value := "/users/.*" }
    errors := [.code { kind := .regex, value := "5.." }]
    triggers := [.errorRate ⟨0.5, 1000, 4⟩, .consecutiveError 3] }]

/-- A user whom `userRule` is about. -/
def user : Resource := .method sampleService "/users/7"

/-- Two calls, the second of them long after its window, and a tick in between. -/
def userOps : List Circuit.Op :=
  [.report { resource := user, verdict := .fail, code := 503 } 1200, .evaluate 1300,
    .report { resource := user, verdict := .fail, code := 404 } 999999]

/-- A store with `userRule`. -/
def userStore : RuleStore :=
  ((RuleStore.empty standardCompiler toString).load sampleService [userRule]).1

/-- A new engine on `userStore`. -/
def userEngine : Engine where
  compile := standardCompiler
  source := .store userStore true
  patterns := PatternCache.ofCapacity 1024
  lastSweep := 0

/-- What an engine does about the first of the calls. -/
def userReports : List Op := [.report { resource := user, verdict := .fail, code := 503 } 1200]

/-- The rules of `userStore` fit, and a report does not change them. -/
theorem fitsAll_userEngine (done : List Op) (h : done <+: userReports) :
    FitsAll 10 (userEngine.run done).1.source := by
  have hsource : (userEngine.run done).1.source = .store userStore true := by
    rcases List.prefix_cons_iff.mp h with rfl | ⟨more, rfl, hmore⟩
    · rfl
    · rw [List.prefix_nil.mp hmore]
      rfl
  have hall : ∀ e ∈ userStore.sets, ∀ rule ∈ e.2.rules, ∀ l ∈ rule.limits,
      l.interval + 10 < UInt64.size := by
    decide
  rw [hsource]
  intro service rules hrules rule hmem l hl
  obtain ⟨set, hset, rfl⟩ := Option.map_eq_some_iff.mp hrules
  obtain ⟨e, he, rfl⟩ := Option.map_eq_some_iff.mp hset
  exact hall e (List.mem_of_find?_eq_some he) rule hmem l hl

/-- All expressions of `userRule` are there, and its circuit does not fault. An engine on `userStore` that
    has seen a failure has such a circuit, and leaves those resources alone that no rule guards. -/
theorem user_rule_never_fails :
    ({} : Config).check = .ok () ∧ userRule.isValid standardCompiler = true ∧ userRule.WindowsFit 10 ∧
    userStore.Reachable ∧
    (∀ p ∈ userRule.patterns,
      (p.compile standardCompiler (.ofCapacity 2)).1.isSome = true) ∧
    (let active := userRule.activeBlocks standardCompiler user (.ofCapacity 2)
     ∃ c, (Circuit.build? standardCompiler { buckets := 10, probes := 3 } user userRule active.1 0
        active.2).1 = .ok c ∧
      (c.run userOps).1.IsSound standardCompiler standardCompiler 10 ∧
      c.checkedRun userOps = .ok (c.run userOps)) ∧
    build? userEngine.toEngineSetup 0 = .ok userEngine ∧
    (∀ done, done <+: userReports → FitsAll 10 (userEngine.run done).1.source) ∧
    let e := (userEngine.run userReports).1
    (∀ r caller now, (e.newCircuit? r caller now (e.patterns, e.source)).1 = none ↔
      e.IsUnguarded r caller) ∧
    ∃ c, e.cache.circuit? user = some c ∧ c.IsSound standardCompiler standardCompiler 10 ∧
      c.checkedRun userOps = .ok (c.run userOps) := by
  have hconfig : ({} : Config).check = .ok () := rfl
  have hvalid : userRule.isValid standardCompiler = true := by decide
  have hfits : userRule.WindowsFit 10 := by
    intro l hl
    have honly : userRule.limits = [⟨0.5, 1000, 4⟩] := rfl
    rw [honly, List.mem_singleton] at hl
    rw [hl]
    decide
  have hneeds : ∀ p ∈ userRule.patterns, p.expression?.isSome = true := by decide
  have hstore : userStore.Reachable := .load _ _ (.empty _ _)
  have hbuild : build? userEngine.toEngineSetup 0 = .ok userEngine := rfl
  have hcache := PatternCache.faithful_ofCapacity standardCompiler 2
  obtain ⟨hrules, hengines⟩ := valid_rule_never_fails standardCompiler hconfig
  obtain ⟨hcompiled, -, c, hc, hruns⟩ := hrules userRule hvalid hfits user 0 3 _ hcache
  obtain ⟨first, hfirst, hreached⟩ :=
    hengines userEngine.toEngineSetup userStore true rfl rfl hstore rfl 0
  obtain rfl : userEngine = first := Except.ok.inj (hbuild.symm.trans hfirst)
  obtain ⟨hguarded, -, hinuse⟩ := hreached userReports fitsAll_userEngine
  have hcircuit : ((userEngine.run userReports).1.cache.circuit? user).isSome = true := by decide
  obtain ⟨d, hd⟩ := Option.isSome_iff_exists.mp hcircuit
  obtain ⟨-, hsound, hchecked⟩ := hinuse user d hd
  exact ⟨hconfig, hvalid, hfits, hstore, fun p hp => hcompiled p hp (hneeds p hp),
    ⟨c, hc, hruns userOps⟩, hbuild, fitsAll_userEngine, hguarded, d, hd, hsound, hchecked userOps⟩

end CircuitBreaker.Engine

import CircuitBreaker.Proofs.Circuit.Checked
import CircuitBreaker.Proofs.Circuit.Rate
import CircuitBreaker.Proofs.Rule.Acceptance
import CircuitBreaker.Proofs.Transparency

/-!
# `Proofs.Circuit.Soundness` — circuits of valid rules have all that they need

What a rule needs is checked before it is used, and never again. So a valid rule has to give a circuit
that works, with the compiler that it was checked with. Each pattern that is to be compiled compiles
(`Rule.isSome_compile`), and each window can be made, if its numbers fit (`Rule.exists_window`). The
circuit that is built is **sound**: its windows are rings, and no test is without its expression
(`Rule.exists_circuit`). A sound circuit stays sound (`Circuit.IsSound.run`).

## Contents
- `Rule.isSome_compile`, `Rule.exists_window`: the patterns and the windows of a valid rule.
- `ErrorTest.IsCompiled`, `Circuit.IsCompiled`: tests with their expressions.
- `Circuit.IsSound`, `isSound_build?`, `IsSound.run`: sound circuits.
- `Rule.exists_circuit`: the circuits of a valid rule.
-/

namespace CircuitBreaker

/-! ## Patterns -/

/-- A pattern that passes its check compiles, if there is anything to compile. -/
theorem Pattern.isSome_of_check {f : Compiler} {p : Pattern} (h : p.check f = .ok ()) {e : String}
    (he : p.expression? = some e) : (f e).isSome = true :=
  isUsable_iff.mp (isUsable_of_check h) e he

/-- **No expression of a valid rule is left out**: the matcher finds each of them compiled, in whatever
    cache it looks. -/
theorem Rule.isSome_compile {f : Compiler} {rule : Rule} (h : rule.isValid f = true)
    {cache : PatternCache} (hcache : cache.Faithful f) {p : Pattern} (hp : p ∈ rule.patterns)
    (hneeds : p.expression?.isSome = true) : (p.compile f cache).1.isSome = true := by
  obtain ⟨-, -, -, -, hpatterns⟩ := isValid_iff_parts.mp h
  obtain ⟨e, he⟩ := Option.isSome_iff_exists.mp hneeds
  rw [(Pattern.answers_compile f p cache hcache).1, he]
  exact Pattern.isSome_of_check (hpatterns p hp) he

/-! ## Windows -/

/-- The limits of a rule on shares of recent calls. Each of them needs a window. -/
def Rule.limits (r : Rule) : List RateLimit :=
  r.blocks.flatMap fun b => b.triggers.filterMap TriggerCondition.limit?

/-- **The windows of a rule fit** with some number of buckets: no interval is so long that adding the
    number of buckets to it leaves 64 bits. -/
def Rule.WindowsFit (count : Nat) (r : Rule) : Prop := ∀ l ∈ r.limits, l.interval + count < UInt64.size

/-- The interval of a limit is part of the check of its condition. -/
theorem TriggerCondition.interval_ne_zero {c : TriggerCondition} (h : c.check = .ok ())
    {l : RateLimit} (hl : c.limit? = some l) : l.interval ≠ 0 := by
  cases c with
  | consecutiveError count => cases hl
  | errorRate limit =>
      cases hl
      exact (RateLimit.check_eq_ok_iff.mp h).2
  | slowRate least limit =>
      cases hl
      exact (RateLimit.check_eq_ok_iff.mp h).2

/-- A limit of a valid rule has an interval. -/
theorem Rule.interval_ne_zero {f : Compiler} {rule : Rule} (h : rule.isValid f = true) {l : RateLimit}
    (hl : l ∈ rule.limits) : l.interval ≠ 0 := by
  obtain ⟨b, hb, hlimit⟩ := List.mem_flatMap.mp hl
  obtain ⟨cond, hcond, hlimit⟩ := List.mem_filterMap.mp hlimit
  obtain ⟨-, -, htriggers, -⟩ := isValid_iff_parts.mp h
  have hcheck : cond.check = .ok () := (htriggers b hb).2 cond hcond
  exact TriggerCondition.interval_ne_zero hcheck hlimit

/-- **The windows of a valid rule can be made**, without a fault if they fit. -/
theorem Rule.exists_window {f : Compiler} {rule : Rule} (h : rule.isValid f = true) {count : Nat}
    (hcount : count ≠ 0) (hfits : rule.WindowsFit count) {l : RateLimit} (hl : l ∈ rule.limits) :
    ∃ w, Window.checkedOfInterval count l.interval = .ok (.ok w) := by
  obtain ⟨w, hw⟩ := Window.ofInterval?_eq_ok hcount (interval_ne_zero h hl)
  exact ⟨w, Window.checkedOfInterval_eq_ok hw (hfits l hl)⟩

/-- **The window of a new trigger is a ring**, of as many buckets as were asked for. -/
theorem Trigger.onRing_ofCondition? {count : Nat} {cond : TriggerCondition} {t : Trigger}
    (h : ofCondition? count cond = .ok t) : t.OnRing count := by
  intro w hw
  obtain ⟨l, -, hmade⟩ := exists_limit_of_window? h hw
  exact Window.isRing_ofInterval? hmade

/-! ## Tests -/

/-- **A test has its expression**, if its pattern needs one. -/
def ErrorTest.IsCompiled : ErrorTest → Prop
  | .code p => p.pattern.expression?.isSome = true → p.regex.isSome = true
  | .delay _ => True

/-- The tests of a block have their expressions. -/
def Block.IsCompiled (b : Block) : Prop := ∀ t ∈ b.tests, t.IsCompiled

/-- **The tests of a circuit have their expressions.** -/
def Circuit.IsCompiled (c : Circuit) : Prop := ∀ b ∈ c.blocks, b.IsCompiled

/-- The test for a condition that passes its check has its expression. -/
theorem ErrorTest.isCompiled_of {f : Compiler} {c : ErrorCondition} (h : c.check f = .ok ()) :
    (ErrorTest.of f c).IsCompiled := by
  cases c with
  | delay least => trivial
  | code p =>
      intro hneeds
      obtain ⟨e, he⟩ := Option.isSome_iff_exists.mp hneeds
      show (p.expression?.bind f).isSome = true
      have hexpression : p.expression? = some e := he
      rw [hexpression]
      exact Pattern.isSome_of_check h hexpression

namespace Block

variable {f : Compiler} {count : Nat}

/-- Every block that was built is that of one of the block rules. -/
theorem mem_ofRules? {rs : List BlockRule} {bs : List Block} (h : ofRules? f count rs = .ok bs)
    {b : Block} (hb : b ∈ bs) : ∃ r ∈ rs, ofRule? f count r = .ok b := by
  induction rs generalizing bs with
  | nil =>
      cases h
      cases hb
  | cons r rest ih =>
      unfold ofRules? at h
      split at h
      · cases h
      · rename_i first hfirst
        obtain ⟨blocks, hblocks, rfl⟩ := exists_of_map_ok h
        rcases List.mem_cons.mp hb with rfl | hmem
        · exact ⟨r, List.mem_cons_self, hfirst⟩
        · obtain ⟨q, hq, hbuilt⟩ := ih hblocks hmem
          exact ⟨q, List.mem_cons_of_mem r hq, hbuilt⟩

/-- **The windows of a new block are rings**, of as many buckets as were asked for. -/
theorem onRings_ofRule? {r : BlockRule} {b : Block} (h : ofRule? f count r = .ok b) :
    b.OnRings count := by
  obtain ⟨triggers, htriggers, rfl⟩ := exists_of_map_ok h
  intro t ht
  obtain ⟨cond, -, hmade⟩ := mem_triggersOf? htriggers ht
  exact Trigger.onRing_ofCondition? hmade

/-- The tests of a new block have their expressions, if its conditions pass their checks. -/
theorem isCompiled_ofRule? {r : BlockRule} {b : Block} (hr : r.check f = .ok ())
    (h : ofRule? f count r = .ok b) : b.IsCompiled := by
  obtain ⟨triggers, -, rfl⟩ := exists_of_map_ok h
  obtain ⟨-, -, -, herrors⟩ := BlockRule.check_eq_ok_iff.mp hr
  intro t ht
  obtain ⟨c, hc, rfl⟩ := List.mem_map.mp ht
  exact ErrorTest.isCompiled_of (herrors c hc)

end Block

/-! ## Circuits -/

namespace Circuit

variable {f g : Compiler} {count now : Nat} {s : CircuitSettings} {resource : Resource} {rule : Rule}
  {blocks : List BlockRule} {cache : PatternCache} {c : Circuit}

/-- **A circuit is sound** if its windows are rings and its tests have their expressions. The latter is
    known if it was built with the compiler `f` that its rule was checked with. -/
structure IsSound (f g : Compiler) (count : Nat) (c : Circuit) : Prop where
  onRings : c.OnRings count
  isCompiled : g = f → c.IsCompiled

theorem isCompiled_blank_iff : c.blank.IsCompiled ↔ c.IsCompiled := by
  unfold IsCompiled blank
  rw [List.forall_mem_map]
  exact Iff.rfl

/-- **A sound circuit stays sound**, whatever is done to it. -/
theorem IsSound.run (h : c.IsSound f g count) (ops : List Op) : (c.run ops).1.IsSound f g count where
  onRings := h.onRings.run ops
  isCompiled hg := by
    rw [← isCompiled_blank_iff, blank_run, isCompiled_blank_iff]
    exact h.isCompiled hg

/-- **What is built is sound**, from block rules that pass their checks. -/
theorem isSound_build? (hcache : cache.Faithful g) (hblocks : ∀ b ∈ blocks, b.check f = .ok ())
    (h : (build? g s resource rule blocks now cache).1 = .ok c) : c.IsSound f g s.buckets := by
  rw [(answers_build? g s resource rule blocks now cache hcache).1] at h
  obtain ⟨bs, hbs, rfl⟩ := exists_of_map_ok h
  constructor
  case onRings =>
    intro b hb
    obtain ⟨r, -, hr⟩ := Block.mem_ofRules? hbs hb
    exact Block.onRings_ofRule? hr
  case isCompiled =>
    rintro rfl b hb
    obtain ⟨r, hmem, hr⟩ := Block.mem_ofRules? hbs hb
    exact Block.isCompiled_ofRule? (hblocks r hmem) hr

end Circuit

/-- **A valid rule gives every resource a circuit**, and a sound one. -/
theorem Rule.exists_circuit {f : Compiler} {rule : Rule} (h : rule.isValid f = true)
    {s : CircuitSettings} (hbuckets : s.buckets ≠ 0) {cache : PatternCache} (hcache : cache.Faithful f)
    (r : Resource) (now : Nat) :
    ∃ c, (Circuit.build? f s r rule (rule.activeBlocks f r cache).1 now
      (rule.activeBlocks f r cache).2).1 = .ok c ∧ c.IsSound f f s.buckets := by
  obtain ⟨hactive, hleft⟩ := answers_activeBlocks f rule r cache hcache
  have hchecks : ∀ b ∈ (rule.activeBlocks f r cache).1, b.check f = .ok () := by
    rw [hactive]
    exact check_of_mem_blocksFor h
  obtain ⟨c, hc⟩ := Circuit.exists_build? hbuckets hchecks
  exact ⟨c, hc, Circuit.isSound_build? hleft hchecks hc⟩

end CircuitBreaker

import CircuitBreaker.Pattern.Matching
import CircuitBreaker.Proofs.Binary64
import CircuitBreaker.Proofs.Rule.Validity
import CircuitBreaker.Regex.Reader
import CircuitBreaker.Resolution

/-!
# `Proofs.Rule.Acceptance` — which rules the check lets through

A rule is **usable** if all of it can be put to work: it has what a circuit needs, its triggers can be
reached, and the matcher can apply each of its patterns (`Rule.IsUsable`). The matcher takes two values
for wildcards, the empty one and the lone star. It compiles neither, also where the pattern is one by
regular expression, so that such a pattern is usable whatever the compiler says (`Pattern.isUsable_iff`).

The check of a pattern knows nothing of wildcards and compiles every expression. All that has to be
known of the compiler is what it makes of the two wildcards: the empty expression compiles, and a lone
star, which repeats nothing, does not. So the check accepts the usable rules, except those in which some
expression is a lone star (`Rule.isValid_iff_isUsable`).

## Contents
- `RateLimit.isShare_iff`, `TriggerCondition.IsReachable`: triggers.
- `Pattern.IsUsable`, `Pattern.IsLoneStar`, `Rule.patterns`: patterns.
- `Rule.IsUsable`, `Rule.isValid_iff_isUsable`: rules.
- `Rule.lone_star_refused`: a usable rule that is refused.
-/

namespace CircuitBreaker

variable {f : Compiler}

/-! ## Triggers -/

namespace RateLimit

/-- A share is a number above zero and at most one. -/
theorem isShare_iff {x : Float} : isShare x = true ↔ 0 < x ∧ x ≤ 1 := by
  unfold isShare
  simp only [Bool.not_eq_true', Bool.or_eq_false_iff, decide_eq_false_iff_not]
  have hzero : (0 : Float).isNaN = false := by decide
  have hone : (1 : Float).isNaN = false := by decide
  cases hx : x.isNaN with
  | true => simp [Binary64.not_lt_of_isNaN hx]
  | false =>
      have hupper : ¬1 < x ↔ x ≤ 1 := by
        rw [← Binary64.not_le_iff hone hx, not_not]
      simp only [true_and, Binary64.not_le_iff hzero hx, hupper]

/-- **The limit can be reached**: its share lies above zero and not above one, and calls count for some
    time. -/
structure IsReachable (l : RateLimit) : Prop where
  above : 0 < l.threshold
  atMost : l.threshold ≤ 1
  interval : 0 < l.interval

theorem check_eq_ok_iff_isReachable {share : Share} {l : RateLimit} :
    l.check share = .ok () ↔ l.IsReachable := by
  rw [check_eq_ok_iff, isShare_iff]
  constructor
  · rintro ⟨⟨habove, hmost⟩, hinterval⟩
    exact ⟨habove, hmost, Nat.pos_of_ne_zero hinterval⟩
  · intro h
    exact ⟨⟨h.above, h.atMost⟩, Nat.ne_of_gt h.interval⟩

end RateLimit

namespace TriggerCondition

/-- **The trigger can be reached**, by one error at least or by a limit that can be. -/
def IsReachable : TriggerCondition → Prop
  | consecutiveError count => 0 < count
  | errorRate l => l.IsReachable
  | slowRate _ l => l.IsReachable

theorem check_eq_ok_iff {c : TriggerCondition} : c.check = .ok () ↔ c.IsReachable := by
  cases c with
  | consecutiveError count =>
      unfold check IsReachable
      by_cases hcount : count = 0 <;> simp [hcount, Nat.pos_iff_ne_zero]
  | errorRate l => exact RateLimit.check_eq_ok_iff_isReachable
  | slowRate least l => exact RateLimit.check_eq_ok_iff_isReachable

end TriggerCondition

/-! ## Patterns -/

namespace Pattern

/-- **The matcher can apply the pattern**: if it is one by regular expression, its value is a wildcard or
    compiles. -/
def IsUsable (f : Compiler) (p : Pattern) : Prop :=
  p.kind = .regex → Text.isWildcard p.value = true ∨ (f p.value).isSome = true

/-- The pattern asks for the regular expression that is a lone star. -/
def IsLoneStar (p : Pattern) : Prop := p.kind = .regex ∧ p.value = "*"

/-- A usable pattern is one whose expression, if it needs one compiled, does compile. -/
theorem isUsable_iff {p : Pattern} :
    p.IsUsable f ↔ ∀ e, p.expression? = some e → (f e).isSome = true := by
  unfold IsUsable expression?
  by_cases hkind : p.kind = .regex
  · cases hwild : Text.isWildcard p.value <;> simp [hkind]
  · simp [hkind]

/-- The check of a pattern tries its expression, be it a wildcard or not. -/
theorem check_eq_ok_iff_compiles {p : Pattern} :
    p.check f = .ok () ↔ (p.kind = .regex → (f p.value).isSome = true) := by
  unfold check
  by_cases hkind : p.kind = .regex
  · cases f p.value <;> simp [hkind]
  · simp [hkind]

/-- What passes the check is usable, whatever the compiler. -/
theorem isUsable_of_check {p : Pattern} (h : p.check f = .ok ()) : p.IsUsable f :=
  fun hkind => Or.inr (check_eq_ok_iff_compiles.mp h hkind)

/-- **The check of a pattern** refuses lone stars beside what is not usable. -/
theorem check_eq_ok_iff {p : Pattern} (hempty : f "" ≠ none) (hstar : f "*" = none) :
    p.check f = .ok () ↔ p.IsUsable f ∧ ¬p.IsLoneStar := by
  rw [check_eq_ok_iff_compiles]
  unfold IsUsable IsLoneStar
  by_cases hkind : p.kind = .regex
  · -- of the two wildcards, one compiles and the other does not
    simp only [hkind, true_and, forall_const, Text.isWildcard, Bool.or_eq_true, beq_iff_eq,
      Option.isSome_iff_ne_none]
    constructor
    · intro hcompiles
      exact ⟨Or.inr hcompiles, fun hlone => hcompiles (hlone ▸ hstar)⟩
    · rintro ⟨(hvalue | hvalue) | hcompiles, hlone⟩
      · exact hvalue ▸ hempty
      · exact absurd hvalue hlone
      · exact hcompiles
  · simp [hkind]

end Pattern

/-- The pattern of an error condition, if it has one. -/
def ErrorCondition.pattern? : ErrorCondition → Option Pattern
  | .code p => some p
  | .delay _ => none

/-- The patterns of a block rule. -/
def BlockRule.patterns (b : BlockRule) : List Pattern :=
  b.api.toList ++ b.errors.filterMap ErrorCondition.pattern?

/-- **All patterns of a rule**: those of its block rules, and the one for methods. -/
def Rule.patterns (r : Rule) : List Pattern :=
  r.blocks.flatMap BlockRule.patterns ++ r.matcher.destination.method.toList

theorem checkPattern?_eq_ok_iff {p : Option Pattern} :
    checkPattern? f p = .ok () ↔ ∀ q ∈ p.toList, q.check f = .ok () := by
  cases p <;> simp [checkPattern?]

theorem ErrorCondition.check_eq_ok_iff {c : ErrorCondition} :
    c.check f = .ok () ↔ ∀ p, c.pattern? = some p → p.check f = .ok () := by
  cases c <;> simp [check, pattern?]

/-- The patterns of a block rule are checked one and all. -/
theorem BlockRule.check_patterns_iff {b : BlockRule} :
    (checkPattern? f b.api = .ok () ∧ ∀ c ∈ b.errors, c.check f = .ok ()) ↔
      ∀ p ∈ b.patterns, p.check f = .ok () := by
  unfold patterns
  rw [List.forall_mem_append, checkPattern?_eq_ok_iff]
  refine and_congr_right fun _ => ?_
  simp only [ErrorCondition.check_eq_ok_iff, List.mem_filterMap]
  constructor
  · rintro h p ⟨c, hc, hp⟩
    exact h c hc p hp
  · intro h c hc p hp
    exact h p ⟨c, hc, hp⟩

/-! ## Rules -/

namespace Rule

/-- The check looks at all parts of a rule, and at all its patterns. -/
theorem isValid_iff_parts {r : Rule} :
    r.isValid f = true ↔ r.name ≠ "" ∧ r.blocks ≠ [] ∧
      (∀ b ∈ r.blocks, b.triggers ≠ [] ∧ ∀ c ∈ b.triggers, c.check = .ok ()) ∧
      r.recovery.check = .ok () ∧ ∀ p ∈ r.patterns, p.check f = .ok () := by
  have hpatterns : (∀ p ∈ r.patterns, p.check f = .ok ()) ↔
      (∀ b ∈ r.blocks, ∀ p ∈ b.patterns, p.check f = .ok ()) ∧
        checkPattern? f r.matcher.destination.method = .ok () := by
    unfold patterns
    simp only [List.forall_mem_append, List.forall_mem_flatMap, checkPattern?_eq_ok_iff]
  rw [isValid_iff, hpatterns]
  constructor
  · rintro ⟨hname, hblocks, hchecks, hrecovery, hmethod⟩
    have hparts := fun b hb => BlockRule.check_eq_ok_iff.mp (hchecks b hb)
    exact ⟨hname, hblocks, fun b hb => ⟨(hparts b hb).1, (hparts b hb).2.1⟩, hrecovery,
      fun b hb => BlockRule.check_patterns_iff.mp (hparts b hb).2.2, hmethod⟩
  · rintro ⟨hname, hblocks, htriggers, hrecovery, hpatterns, hmethod⟩
    refine ⟨hname, hblocks, fun b hb => ?_, hrecovery, hmethod⟩
    obtain ⟨hsome, hchecks⟩ := htriggers b hb
    exact BlockRule.check_eq_ok_iff.mpr
      ⟨hsome, hchecks, BlockRule.check_patterns_iff.mpr (hpatterns b hb)⟩

/-- **A rule is usable** if all of it can be put to work. -/
structure IsUsable (f : Compiler) (r : Rule) : Prop where
  named : r.name ≠ ""
  guarded : r.blocks ≠ []
  triggered : ∀ b ∈ r.blocks, b.triggers ≠ []
  reachable : ∀ b ∈ r.blocks, ∀ c ∈ b.triggers, c.IsReachable
  sleeps : 0 < r.recovery.sleepWindow
  recovers : 0 < r.recovery.successes
  probes : r.recovery.probes ≠ some 0
  patterns : ∀ p ∈ r.patterns, p.IsUsable f

/-- **The check accepts the usable rules**, except those with a lone star for a regular expression. The
    compiler is any that takes the empty expression and refuses a lone star. -/
theorem isValid_iff_isUsable (hempty : f "" ≠ none) (hstar : f "*" = none) (r : Rule) :
    r.isValid f = true ↔ r.IsUsable f ∧ ∀ p ∈ r.patterns, ¬p.IsLoneStar := by
  rw [isValid_iff_parts, Recovery.check_eq_ok_iff]
  constructor
  · rintro ⟨hname, hblocks, htriggers, ⟨hsleep, hsuccesses, hprobes⟩, hpatterns⟩
    have hall := fun p hp => (Pattern.check_eq_ok_iff hempty hstar).mp (hpatterns p hp)
    refine ⟨?_, fun p hp => (hall p hp).2⟩
    constructor
    case named => exact hname
    case guarded => exact hblocks
    case triggered => exact fun b hb => (htriggers b hb).1
    case reachable =>
      intro b hb c hc
      exact TriggerCondition.check_eq_ok_iff.mp ((htriggers b hb).2 c hc)
    case sleeps => exact Nat.pos_of_ne_zero hsleep
    case recovers => exact Nat.pos_of_ne_zero hsuccesses
    case probes => exact hprobes
    case patterns => exact fun p hp => (hall p hp).1
  · rintro ⟨h, hstars⟩
    refine ⟨h.named, h.guarded, fun b hb => ⟨h.triggered b hb, fun c hc => ?_⟩,
      ⟨Nat.ne_of_gt h.sleeps, Nat.ne_of_gt h.recovers, h.probes⟩, fun p hp => ?_⟩
    · exact TriggerCondition.check_eq_ok_iff.mpr (h.reachable b hb c hc)
    · exact (Pattern.check_eq_ok_iff hempty hstar).mpr ⟨h.patterns p hp, hstars p hp⟩

/-- A rule about some methods, by a regular expression, and about some codes of errors, by another. -/
def pathRule (codes : String) : Rule where
  name := "errors"
  level := .method
  matcher := { destination := { method := some { kind := .regex, value := "/echo/.*" } } }
  blocks := [{
    name := "failure"
    errors := [.code { kind := .regex, value := codes }]
    triggers := [.consecutiveError 2] }]

/-- With codes that start with a five the rule is usable and accepted. With an expression that is not
    closed it is neither. -/
theorem pathRule_isValid :
    standardCompiler "" ≠ none ∧ standardCompiler "*" = none ∧
    (pathRule "5..").isValid standardCompiler = true ∧
    (pathRule "5..").IsUsable standardCompiler ∧
    (pathRule "(").isValid standardCompiler = false ∧
    ¬(pathRule "(").IsUsable standardCompiler := by
  have hempty : standardCompiler "" ≠ none := by decide
  have hstar : standardCompiler "*" = none := by decide
  have haccepted : (pathRule "5..").isValid standardCompiler = true := by decide
  have hrefused : (pathRule "(").isValid standardCompiler = false := by decide
  have hiff := isValid_iff_isUsable hempty hstar
  obtain ⟨husable, -⟩ := (hiff (pathRule "5..")).mp haccepted
  refine ⟨hempty, hstar, haccepted, husable, hrefused, fun hopen => ?_⟩
  have hvalues : ∀ p ∈ (pathRule "(").patterns, p.value ≠ "*" := by decide
  have hvalid := (hiff (pathRule "(")).mpr ⟨hopen, fun p hp hlone => hvalues p hp hlone.2⟩
  rw [hrefused] at hvalid
  cases hvalid

/-! ## What the check does not promise -/

/-- The promise that the check accepts just what can be put to work. -/
def AcceptsUsable (f : Compiler) : Prop := ∀ r : Rule, r.isValid f = true ↔ r.IsUsable f

/-- A rule for all methods there are, by the regular expression that stands for every text. -/
def anyMethod : Rule where
  name := "errors"
  level := .method
  matcher := { destination := { method := some { kind := .regex, value := "*" } } }
  blocks := [{ name := "failure", triggers := [.consecutiveError 2] }]

/-- The matcher can apply the rule for all methods, whatever the compiler. -/
theorem isUsable_anyMethod (f : Compiler) : anyMethod.IsUsable f := by
  constructor
  case named => decide
  case guarded => exact List.cons_ne_nil _ _
  case triggered => simp [anyMethod]
  case reachable => simp [anyMethod, TriggerCondition.IsReachable]
  case sleeps => decide
  case recovers => decide
  case probes => decide
  case patterns =>
    have honly : anyMethod.patterns = [{ kind := .regex, value := "*" }] := by decide
    intro p hp _
    rw [honly, List.mem_singleton] at hp
    rw [hp]
    exact Or.inl (by decide)

/-- **A lone star is refused.** There are compilers that refuse a lone star, and with each of them
    `anyMethod` is usable and applies to every method, but the check says that its expression is none. -/
theorem lone_star_refused :
    standardCompiler "*" = none ∧ ∀ f : Compiler, f "*" = none →
      anyMethod.IsUsable f ∧ anyMethod.check f = .error (.badPattern "*") ∧
      (∀ key path caller cache,
        (anyMethod.isApplicable f (.method key path) caller cache).1 = true) ∧
      ¬AcceptsUsable f := by
  refine ⟨by decide, fun f hstar => ?_⟩
  have hcheck : anyMethod.check f = .error (.badPattern "*") := by
    -- nothing is found before the method pattern is looked at, which comes last
    show Pattern.check f { kind := .regex, value := "*" } = .error (.badPattern "*")
    exact if_pos ⟨rfl, hstar⟩
  refine ⟨isUsable_anyMethod f, hcheck, fun key path caller cache => ?_, fun hall => ?_⟩
  · cases caller <;> rfl
  · have hvalid := (hall anyMethod).mpr (isUsable_anyMethod f)
    unfold isValid at hvalid
    rw [hcheck] at hvalid
    cases hvalid

end Rule

end CircuitBreaker

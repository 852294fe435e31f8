import CircuitBreaker.Rule.Validity

/-!
# `Proofs.Rule.Validity` — when a check passes

The checks of a rule stop at the first fault. Read backwards, a check passes exactly if every part of
what it looks at is right; each `check_eq_ok_iff` says so for one part, and `isValid_iff` for the rule.
The compiler is any, here and wherever validity is spoken of.
-/

namespace CircuitBreaker

variable {f : Compiler}

namespace RateLimit

theorem check_eq_ok_iff {share : Share} {l : RateLimit} :
    l.check share = .ok () ↔ isShare l.threshold = true ∧ l.interval ≠ 0 := by
  unfold check
  cases isShare l.threshold with
  | false => simp
  | true => by_cases hi : l.interval = 0 <;> simp [hi]

end RateLimit

namespace Recovery

theorem check_eq_ok_iff {r : Recovery} :
    r.check = .ok () ↔ r.sleepWindow ≠ 0 ∧ r.successes ≠ 0 ∧ r.probes ≠ some 0 := by
  unfold check
  by_cases hw : r.sleepWindow = 0
  · simp [hw]
  · by_cases hs : r.successes = 0
    · simp [hw, hs]
    · by_cases hp : r.probes = some 0 <;> simp [hw, hs, hp]

end Recovery

namespace BlockRule

theorem check_eq_ok_iff {b : BlockRule} :
    b.check f = .ok () ↔ b.triggers ≠ [] ∧ (∀ c ∈ b.triggers, c.check = .ok ()) ∧
      checkPattern? f b.api = .ok () ∧ ∀ c ∈ b.errors, c.check f = .ok () := by
  rw [← checkAll_eq_ok_iff, ← checkAll_eq_ok_iff]
  unfold check
  by_cases ht : b.triggers = []
  · simp [ht]
  · cases hall : checkAll TriggerCondition.check b.triggers with
    | error e => simp [ht]
    | ok u => cases hp : checkPattern? f b.api <;> simp [ht]

end BlockRule

namespace Rule

theorem check_eq_ok_iff {r : Rule} :
    r.check f = .ok () ↔ r.name ≠ "" ∧ r.blocks ≠ [] ∧ (∀ b ∈ r.blocks, b.check f = .ok ()) ∧
      r.recovery.check = .ok () ∧ checkPattern? f r.matcher.destination.method = .ok () := by
  rw [← checkAll_eq_ok_iff]
  unfold check
  by_cases hn : r.name = ""
  · simp [hn]
  · by_cases hb : r.blocks = []
    · simp [hn, hb]
    · cases hall : checkAll (BlockRule.check f) r.blocks with
      | error e => simp [hn, hb]
      | ok u => cases hr : r.recovery.check <;> simp [hn, hb]

/-- **A rule is valid** if it has a name and block rules, and if its block rules, its recovery and its
    method pattern pass their checks. -/
theorem isValid_iff {r : Rule} :
    r.isValid f = true ↔ r.name ≠ "" ∧ r.blocks ≠ [] ∧ (∀ b ∈ r.blocks, b.check f = .ok ()) ∧
      r.recovery.check = .ok () ∧ checkPattern? f r.matcher.destination.method = .ok () := by
  rw [← check_eq_ok_iff]
  unfold isValid
  cases r.check f <;> simp

end Rule

end CircuitBreaker

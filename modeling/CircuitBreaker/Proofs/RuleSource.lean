import CircuitBreaker.Proofs.Circuit.Bare

/-!
# `Proofs.RuleSource` — what a rule source holds for one service

Two sources **agree on a service** if they are of the same kind, try rules with the same compiler and
give the service the same rules, revisions aside. What is loaded or cleared for another service keeps a
source in agreement with itself (`agreeOn_load_of_other`, `agreeOn_clear_of_other`), and what is loaded
or cleared for the service itself does the same to sources that agree, down to the answer
(`AgreeOn.load`, `AgreeOn.clear`). A change that a source announces is always one of the service that it
was asked to change (`service_of_load`).
-/

namespace CircuitBreaker

namespace RuleStore

variable {s : RuleStore} {service : ServiceKey}

/-- **What a load does to the rules of its service**: nothing, if they stay the same; else the valid ones
    take their place. -/
theorem get?_load (s : RuleStore) (service : ServiceKey) (rules : List Rule) :
    ((s.load service rules).1.get? service).map (fun set => set.rules.map Rule.bare) =
        (if sameItems Rule.sameAs (s.rulesOf service) (rules.filter (Rule.isValid s.compile)) then
          (s.get? service).map fun set => set.rules.map Rule.bare
        else if (rules.filter (Rule.isValid s.compile)).isEmpty then none
        else some ((rules.filter (Rule.isValid s.compile)).map Rule.bare)) ∧
      (s.load service rules).2.isSome =
        !sameItems Rule.sameAs (s.rulesOf service) (rules.filter (Rule.isValid s.compile)) := by
  rw [load_eq]
  cases hsame : sameItems Rule.sameAs (s.rulesOf service) (rules.filter (Rule.isValid s.compile)) with
  | true => exact ⟨rfl, rfl⟩
  | false =>
      refine ⟨?_, rfl⟩
      show ((s.replace service (s.nextSet? rules)).get? service).map _ = _
      rw [get?_replace_self]
      by_cases hnil : rules.filter (Rule.isValid s.compile) = [] <;> simp [nextSet?, hnil, Rule.bare_stamp]

theorem get?_clear (s : RuleStore) (service : ServiceKey) :
    (s.clear service).1.get? service = none ∧ (s.clear service).2.isSome = (s.get? service).isSome := by
  unfold clear
  cases hget : s.get? service with
  | none => exact ⟨hget, rfl⟩
  | some set =>
      refine ⟨?_, rfl⟩
      simp only [get?, find?_without_self, Option.map_none]

end RuleStore

namespace RuleSource

/-- The rules of a service, without revisions. -/
def bareRules? (s : RuleSource) (service : ServiceKey) : Option (List Rule) :=
  (s.rules? service).map (List.map Rule.bare)

/-- Whether changes of the rules are heard of; fixed rules have none. -/
def hearing? : RuleSource → Option Bool
  | fixed _ _ => none
  | store _ subscribed => some subscribed

/-- What rules are tried with before they are loaded; fixed rules are taken as they are. -/
def checker? : RuleSource → Option Compiler
  | fixed _ _ => none
  | store s _ => some s.compile

/-- **Two sources agree on a service.** -/
structure AgreeOn (service : ServiceKey) (s t : RuleSource) : Prop where
  hearing : s.hearing? = t.hearing?
  checker : s.checker? = t.checker?
  rules : s.bareRules? service = t.bareRules? service

variable {s t u : RuleSource} {service other : ServiceKey} {rules : List Rule}

theorem AgreeOn.refl (service : ServiceKey) (s : RuleSource) : s.AgreeOn service s := ⟨rfl, rfl, rfl⟩

theorem AgreeOn.symm (h : AgreeOn service s t) : AgreeOn service t s :=
  ⟨h.hearing.symm, h.checker.symm, h.rules.symm⟩

theorem AgreeOn.trans (h : AgreeOn service s t) (hu : AgreeOn service t u) : AgreeOn service s u :=
  ⟨h.hearing.trans hu.hearing, h.checker.trans hu.checker, h.rules.trans hu.rules⟩

/-- Asking for rules does not change them. -/
theorem agreeOn_asked (service : ServiceKey) (s : RuleSource) : AgreeOn service s s.asked := by
  cases s <;> exact ⟨rfl, rfl, rfl⟩

theorem AgreeOn.isSubscribed (h : AgreeOn service s t) : s.isSubscribed = t.isSubscribed := by
  have heard (s : RuleSource) : s.isSubscribed = s.hearing?.getD false := by cases s <;> rfl
  rw [heard, heard, h.hearing]

/-- A source that announces a change says whose rules changed. -/
theorem service_of_load {change : RuleChange} (h : (s.load service rules).2 = some change) :
    change.service = service := by
  cases s with
  | fixed sets lookups => cases h
  | store s subscribed =>
      rcases s.changesOnly_load service rules with heq | ⟨next, told, heq, htold, _⟩
      · simp only [load, heq] at h
        cases h
      · simp only [load, heq] at h
        cases h
        exact htold

theorem service_of_clear {change : RuleChange} (h : (s.clear service).2 = some change) :
    change.service = service := by
  cases s with
  | fixed sets lookups => cases h
  | store s subscribed =>
      rcases s.changesOnly_clear service with heq | ⟨next, told, heq, htold, _⟩
      · simp only [clear, heq] at h
        cases h
      · simp only [clear, heq] at h
        cases h
        exact htold

/-- Loading and clearing keep the compiler of a source. -/
theorem checker?_load (s : RuleSource) (service : ServiceKey) (rules : List Rule) :
    (s.load service rules).1.checker? = s.checker? := by
  cases s with
  | fixed sets lookups => rfl
  | store s subscribed => exact congrArg some (RuleStore.sameOutside_load s service rules).compile

theorem checker?_clear (s : RuleSource) (service : ServiceKey) :
    (s.clear service).1.checker? = s.checker? := by
  cases s with
  | fixed sets lookups => rfl
  | store s subscribed => exact congrArg some (RuleStore.sameOutside_clear s service).compile

/-! ## Other services -/

theorem bareRules?_eq_of_changesOnly {s : RuleStore} {subscribed : Bool}
    {r : RuleStore × Option RuleChange} (h : s.ChangesOnly other r) (hne : service ≠ other) :
    (store r.1 subscribed).bareRules? service = (store s subscribed).bareRules? service := by
  rcases h with rfl | ⟨next, change, rfl, _, hothers⟩
  · rfl
  · simp only [bareRules?, rules?, hothers service hne]

theorem agreeOn_load_of_other (hne : service ≠ other) (s : RuleSource) (rules : List Rule) :
    AgreeOn service s (s.load other rules).1 := by
  cases s with
  | fixed sets lookups => exact .refl service _
  | store s subscribed =>
      have hrules : (store (s.load other rules).1 subscribed).bareRules? service =
          (store s subscribed).bareRules? service :=
        bareRules?_eq_of_changesOnly (s.changesOnly_load other rules) hne
      exact ⟨rfl, (checker?_load (.store s subscribed) other rules).symm, hrules.symm⟩

theorem agreeOn_clear_of_other (hne : service ≠ other) (s : RuleSource) :
    AgreeOn service s (s.clear other).1 := by
  cases s with
  | fixed sets lookups => exact .refl service _
  | store s subscribed =>
      have hrules : (store (s.clear other).1 subscribed).bareRules? service =
          (store s subscribed).bareRules? service :=
        bareRules?_eq_of_changesOnly (s.changesOnly_clear other) hne
      exact ⟨rfl, (checker?_clear (.store s subscribed) other).symm, hrules.symm⟩

/-! ## The service itself -/

theorem bareRules?_store (s : RuleStore) (subscribed : Bool) (service : ServiceKey) :
    (store s subscribed).bareRules? service =
      (s.get? service).map fun set => set.rules.map Rule.bare := by
  simp only [bareRules?, rules?, Option.map_map]
  rfl

/-- The rules of a service, as a list, are compared without revisions. -/
theorem sameItems_rulesOf (s : RuleStore) (service : ServiceKey) (rules : List Rule) :
    sameItems Rule.sameAs (s.rulesOf service) rules =
      sameItems Rule.sameAs
        (((s.get? service).map fun set => set.rules.map Rule.bare).getD []) rules := by
  unfold RuleStore.rulesOf
  cases s.get? service with
  | none => rfl
  | some set => exact (Rule.sameItems_bare set.rules rules).symm

/-- **A load does the same** to the rules of its service in sources that agree on it. -/
theorem AgreeOn.load (h : AgreeOn service s t) (rules : List Rule) :
    AgreeOn service (s.load service rules).1 (t.load service rules).1 ∧
      (s.load service rules).2.isSome = (t.load service rules).2.isSome := by
  cases s with
  | fixed sets lookups =>
      cases t with
      | fixed sets lookups => exact ⟨h, rfl⟩
      | store t subscribed => cases h.hearing
  | store s subscribed =>
      cases t with
      | fixed sets lookups => cases h.hearing
      | store t heard =>
          have hcompile : s.compile = t.compile := Option.some.inj h.checker
          have hrules := h.rules
          rw [bareRules?_store, bareRules?_store] at hrules
          obtain ⟨hs, hstold⟩ := s.get?_load service rules
          obtain ⟨ht, httold⟩ := t.get?_load service rules
          rw [sameItems_rulesOf, hrules, hcompile] at hs hstold
          rw [sameItems_rulesOf] at ht httold
          have hchecker := (checker?_load (.store s subscribed) service rules).trans
            (h.checker.trans (checker?_load (.store t heard) service rules).symm)
          refine ⟨⟨h.hearing, hchecker, ?_⟩, hstold.trans httold.symm⟩
          exact (bareRules?_store _ _ _).trans ((hs.trans ht.symm).trans (bareRules?_store _ _ _).symm)

theorem AgreeOn.clear (h : AgreeOn service s t) :
    AgreeOn service (s.clear service).1 (t.clear service).1 ∧
      (s.clear service).2.isSome = (t.clear service).2.isSome := by
  cases s with
  | fixed sets lookups =>
      cases t with
      | fixed sets lookups => exact ⟨h, rfl⟩
      | store t subscribed => cases h.hearing
  | store s subscribed =>
      cases t with
      | fixed sets lookups => cases h.hearing
      | store t heard =>
          have hrules := congrArg Option.isSome h.rules
          rw [bareRules?_store, bareRules?_store, Option.isSome_map, Option.isSome_map] at hrules
          obtain ⟨hs, hstold⟩ := s.get?_clear service
          obtain ⟨ht, httold⟩ := t.get?_clear service
          have hchecker := (checker?_clear (.store s subscribed) service).trans
            (h.checker.trans (checker?_clear (.store t heard) service).symm)
          refine ⟨⟨h.hearing, hchecker, ?_⟩, hstold.trans (hrules.trans httold.symm)⟩
          have hnone (s : RuleStore) (subscribed : Bool) (hs : s.get? service = none) :
              (store s subscribed).bareRules? service = none := by
            rw [bareRules?_store, hs]
            rfl
          exact (hnone _ _ hs).trans (hnone _ _ ht).symm

end RuleSource

end CircuitBreaker

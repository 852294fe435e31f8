import CircuitBreaker.RuleSource
import CircuitBreaker.Proofs.Rule.Validity

/-!
# `Proofs.RuleStore` — the rule sets that a store can hold

A store starts empty, and its rules change one service at a time. A load does one of two things: nothing,
or it replaces the rule set of its service (`load_eq`). What the store has from outside stays as it is.
Two facts carry over to the engines that work with a store.
* Every rule set is **sound**: it has rules, all of them valid, all under the revision of the set
  (`isSound_of_get?`).
* Loading and clearing change the rules of the service that they are about, and say so whenever they
  change anything (`changesOnly_load`, `changesOnly_clear`).
-/

namespace CircuitBreaker

/-- A rule set is **sound** if it is what a store with a compiler makes of the rules that it is given. -/
structure RuleSet.IsSound (f : Compiler) (set : RuleSet) : Prop where
  nonempty : set.rules ≠ []
  valid : ∀ r ∈ set.rules, r.isValid f = true
  revision : ∀ r ∈ set.rules, r.revision = set.revision

namespace RuleStore

/-- The stores that come of loading and clearing. -/
inductive Reachable : RuleStore → Prop where
  | empty (compile : Compiler) (revisions : Nat → String) : Reachable (.empty compile revisions)
  | listen {s : RuleStore} (mark : String) : Reachable s → Reachable (s.listen mark)
  | load {s : RuleStore} (service : ServiceKey) (rules : List Rule) :
      Reachable s → Reachable (s.load service rules).1
  | clear {s : RuleStore} (service : ServiceKey) : Reachable s → Reachable (s.clear service).1

variable {s : RuleStore} {service other : ServiceKey} {rules : List Rule} {set : RuleSet}

/-! ## Removing a service -/

/-- Removing a service keeps only sets that were there. -/
theorem mem_of_mem_without {e : ServiceKey × RuleSet} (h : e ∈ s.without service) : e ∈ s.sets :=
  (List.mem_filter.mp h).1

/-- Nothing is left of a service that is removed. -/
theorem find?_without_self (s : RuleStore) (service : ServiceKey) :
    (s.without service).find? (fun e => e.1 == service) = none := by
  refine List.find?_eq_none.mpr fun e he => ?_
  simpa [bne] using (List.mem_filter.mp he).2

/-- Removing a service does not touch another. -/
theorem find?_without (h : other ≠ service) :
    (s.without service).find? (fun e => e.1 == other) = s.sets.find? fun e => e.1 == other := by
  unfold without
  rw [List.find?_filter]
  congr 1
  funext e
  by_cases he : e.1 = other
  · simp [he, h]
  · simp [he]

/-! ## The two ways that a load can go -/

/-- The store with another rule set for a service, or none, under one revision more. -/
def replace (s : RuleStore) (service : ServiceKey) (set : Option RuleSet) : RuleStore :=
  { s with
    sets := (set.map fun set => (service, set)).toList ++ s.without service
    issued := s.issued + 1 }

/-- The rule set that a load puts in place: the valid ones of some rules under the next revision. -/
def nextSet? (s : RuleStore) (rules : List Rule) : Option RuleSet :=
  let valid := rules.filter (Rule.isValid s.compile)
  let revision := s.revisions s.issued
  if valid = [] then none else some { revision, rules := stamp revision valid }

/-- **A load does nothing, or it replaces the rule set of its service.** -/
theorem load_eq (s : RuleStore) (service : ServiceKey) (rules : List Rule) :
    s.load service rules =
      if sameItems Rule.sameAs (s.rulesOf service) (rules.filter (Rule.isValid s.compile)) then
        (s, none)
      else
        (s.replace service (s.nextSet? rules),
          some { service, before := s.get? service, after := s.nextSet? rules }) := by
  simp only [load, nextSet?, replace]
  split
  · rfl
  · by_cases hnil : rules.filter (Rule.isValid s.compile) = [] <;> simp [hnil]

theorem get?_replace_self (set : Option RuleSet) : (s.replace service set).get? service = set := by
  unfold get? replace
  cases set with
  | none => simp [find?_without_self]
  | some set => simp

theorem get?_replace_of_ne (set : Option RuleSet) (h : other ≠ service) :
    (s.replace service set).get? other = s.get? other := by
  unfold get? replace
  cases set with
  | none => simp [find?_without h]
  | some set => simp [find?_without h, h.symm]

/-- A rule set is the new one, or was there. -/
theorem mem_replace {next : Option RuleSet} {e : ServiceKey × RuleSet}
    (h : e ∈ (s.replace service next).sets) :
    (∃ set, next = some set ∧ e = (service, set)) ∨ e ∈ s.sets := by
  rcases List.mem_append.mp h with hnew | hold
  · obtain ⟨set, hset, rfl⟩ := Option.map_eq_some_iff.mp (Option.mem_toList.mp hnew)
    exact Or.inl ⟨set, hset, rfl⟩
  · exact Or.inr (mem_of_mem_without hold)

/-! ## What comes from outside -/

/-- **Two stores share what they have from outside.** -/
structure SameOutside (s t : RuleStore) : Prop where
  compile : t.compile = s.compile
  revisions : t.revisions = s.revisions

theorem sameOutside_load (s : RuleStore) (service : ServiceKey) (rules : List Rule) :
    SameOutside s (s.load service rules).1 := by
  rw [load_eq]
  split <;> exact ⟨rfl, rfl⟩

theorem sameOutside_clear (s : RuleStore) (service : ServiceKey) :
    SameOutside s (s.clear service).1 := by
  unfold clear
  split <;> exact ⟨rfl, rfl⟩

/-! ## Every rule set is sound -/

/-- What a load puts in place is sound. -/
theorem isSound_nextSet? (h : s.nextSet? rules = some set) : set.IsSound s.compile := by
  simp only [nextSet?] at h
  split at h
  · cases h
  · rename_i hsome
    cases h
    refine ⟨fun hnil => hsome (List.map_eq_nil_iff.mp hnil), fun r hr => ?_, fun r hr => ?_⟩
    · obtain ⟨q, hq, rfl⟩ := List.mem_map.mp hr
      -- validity does not look at the revision
      exact (List.mem_filter.mp hq).2
    · obtain ⟨q, _, rfl⟩ := List.mem_map.mp hr
      rfl

theorem isSound_load (h : ∀ e ∈ s.sets, e.2.IsSound s.compile) (service : ServiceKey)
    (rules : List Rule) : ∀ e ∈ (s.load service rules).1.sets, e.2.IsSound s.compile := by
  rw [load_eq]
  split
  · exact h
  · intro e he
    rcases mem_replace he with ⟨set, hset, rfl⟩ | hold
    · exact isSound_nextSet? hset
    · exact h e hold

theorem isSound_clear (h : ∀ e ∈ s.sets, e.2.IsSound s.compile) :
    ∀ e ∈ (s.clear service).1.sets, e.2.IsSound s.compile := by
  unfold clear
  split
  · exact h
  · exact fun e he => h e (mem_of_mem_without he)

theorem isSound_of_reachable (h : Reachable s) : ∀ e ∈ s.sets, e.2.IsSound s.compile := by
  induction h with
  | empty compile revisions => exact fun e he => by cases he
  | listen mark _ ih => exact ih
  | load service rules _ ih =>
      rw [(sameOutside_load _ service rules).compile]
      exact isSound_load ih service rules
  | clear service _ ih =>
      rw [(sameOutside_clear _ service).compile]
      exact isSound_clear ih

/-- **The rule set of a service is sound.** -/
theorem isSound_of_get? (h : Reachable s) (hget : s.get? service = some set) :
    set.IsSound s.compile := by
  obtain ⟨e, he, rfl⟩ := Option.map_eq_some_iff.mp hget
  exact isSound_of_reachable h e (List.mem_of_find?_eq_some he)

/-! ## What a change changes -/

/-- **A change is about one service**: either nothing changes and nobody is told, or the change is told
    as one of that service and the others keep their rules. -/
def ChangesOnly (s : RuleStore) (service : ServiceKey) (r : RuleStore × Option RuleChange) : Prop :=
  r = (s, none) ∨
    ∃ next change, r = (next, some change) ∧ change.service = service ∧
      ∀ other, other ≠ service → next.get? other = s.get? other

theorem changesOnly_load (s : RuleStore) (service : ServiceKey) (rules : List Rule) :
    s.ChangesOnly service (s.load service rules) := by
  rw [load_eq]
  split
  · exact Or.inl rfl
  · exact Or.inr ⟨_, _, rfl, rfl, fun other h => get?_replace_of_ne _ h⟩

theorem changesOnly_clear (s : RuleStore) (service : ServiceKey) :
    s.ChangesOnly service (s.clear service) := by
  unfold clear
  split
  · exact Or.inl rfl
  · refine Or.inr ⟨_, _, rfl, rfl, fun other h => ?_⟩
    exact congrArg (Option.map fun e => e.2) (find?_without h)

end RuleStore

end CircuitBreaker

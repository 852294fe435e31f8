import CircuitBreaker.Rule.Validity

/-!
# `CircuitBreaker.RuleStore` — the rules that are loaded

Rules are loaded one service at a time. Rules that are not valid are left out, a load that changes
nothing is no load, and every change stamps the new rules with a revision of its own.

Two things come from outside: the compiler that the expressions of the rules are tried with, and the
revisions, which are drawn one after the other from a generator of unique texts.

## Contents
- `RuleSet`, `RuleChange`: the rules of a service, and a change of them.
- `RuleStore`, `RuleStore.empty`: the rules of all services; `get?`, `rulesOf`.
- `RuleStore.load`, `RuleStore.clear`: changing them.
- `RuleStore.announce`: who hears of a change.
-/

namespace CircuitBreaker

/-- The rules of one service, in order, under one revision. -/
structure RuleSet where
  revision : String
  rules : List Rule
deriving Repr

/-- A change of the rules of one service. -/
structure RuleChange where
  service : ServiceKey
  before : Option RuleSet
  after : Option RuleSet
deriving Repr

/-- The rules of all services. -/
structure RuleStore where
  /-- What the expressions of the rules are tried with. -/
  compile : Compiler
  /-- The revisions, in the order in which they are drawn. -/
  revisions : Nat → String
  /-- The rule sets, at most one for each service. -/
  sets : List (ServiceKey × RuleSet) := []
  /-- How many revisions were drawn. -/
  issued : Nat := 0
  /-- The marks of those who want to hear of changes. -/
  listeners : List String := []

namespace RuleStore

/-- A store without rules. -/
def empty (compile : Compiler) (revisions : Nat → String) : RuleStore := { compile, revisions }

/-- The rule set of a service. -/
def get? (s : RuleStore) (service : ServiceKey) : Option RuleSet :=
  (s.sets.find? fun e => e.1 == service).map fun e => e.2

/-- The rules of a service. -/
def rulesOf (s : RuleStore) (service : ServiceKey) : List Rule :=
  match s.get? service with
  | some set => set.rules
  | none => []

/-- The sets without that of one service. -/
def without (s : RuleStore) (service : ServiceKey) : List (ServiceKey × RuleSet) :=
  s.sets.filter fun e => e.1 != service

/-- Let someone hear of changes. -/
def listen (s : RuleStore) (mark : String) : RuleStore :=
  { s with listeners := s.listeners ++ [mark] }

/-- Who hears of a change: every listener, in the order of registration. -/
def announce (s : RuleStore) (c : RuleChange) : List (String × RuleChange) :=
  s.listeners.map fun mark => (mark, c)

/-- The given rules under a revision. -/
def stamp (revision : String) (rules : List Rule) : List Rule :=
  rules.map fun r => { r with revision }

/-- Replace the rules of a service by those of the given ones that are valid. -/
def load (s : RuleStore) (service : ServiceKey) (rules : List Rule) :
    RuleStore × Option RuleChange :=
  let valid := rules.filter (Rule.isValid s.compile)
  if sameItems Rule.sameAs (s.rulesOf service) valid then
    (s, none)
  else
    let revision := s.revisions s.issued
    let before := s.get? service
    if valid.isEmpty then
      ({ s with sets := s.without service, issued := s.issued + 1 },
        some { service, before, after := none })
    else
      let set : RuleSet := { revision, rules := stamp revision valid }
      ({ s with sets := (service, set) :: s.without service, issued := s.issued + 1 },
        some { service, before, after := some set })

/-- Remove the rules of a service. -/
def clear (s : RuleStore) (service : ServiceKey) : RuleStore × Option RuleChange :=
  match s.get? service with
  | none => (s, none)
  | some set =>
      ({ s with sets := s.without service }, some { service, before := some set, after := none })

end RuleStore

end CircuitBreaker

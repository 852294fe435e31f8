import CircuitBreaker.RuleStore

/-!
# `CircuitBreaker.RuleSource` — where an engine finds its rules

The rules are fixed, or they come from a store and change while the engine runs. An engine that
subscribed to the store hears of each change.

## Contents
- `RuleSource`: the two kinds.
- `RuleSource.lookup`: the rules of a service.
- `RuleSource.load`, `RuleSource.clear`: changing the rules of a store.
-/

namespace CircuitBreaker

/-- Where an engine finds its rules. -/
inductive RuleSource where
  /-- Rules that never change and are taken as they are; `lookups` counts how often they were asked
      for. -/
  | fixed (sets : List (ServiceKey × List Rule)) (lookups : Nat)
  /-- A store, and whether the engine hears of its changes. -/
  | store (rules : RuleStore) (subscribed : Bool)

namespace RuleSource

/-- Fixed rules: for a service that comes more than once, the last ones. -/
def ofSets (sets : List (ServiceKey × List Rule)) : RuleSource := fixed sets.reverse 0

/-- The rules of a service, if there are any. -/
def rules? : RuleSource → ServiceKey → Option (List Rule)
  | fixed sets _, service => (sets.find? fun e => e.1 == service).map fun e => e.2
  | store s _, service => (s.get? service).map fun set => set.rules

/-- The source after it was asked for rules once more. -/
def asked : RuleSource → RuleSource
  | fixed sets lookups => fixed sets (lookups + 1)
  | store s subscribed => store s subscribed

/-- Ask for the rules of a service. -/
def lookup (s : RuleSource) (service : ServiceKey) : Option (List Rule) × RuleSource :=
  (s.rules? service, s.asked)

/-- How often fixed rules were asked for. -/
def lookups? : RuleSource → Option Nat
  | fixed _ lookups => some lookups
  | store _ _ => none

/-- Whether the engine hears of changes. -/
def isSubscribed : RuleSource → Bool
  | fixed _ _ => false
  | store _ subscribed => subscribed

/-- Load rules into a store. Fixed rules stay as they are. -/
def load (s : RuleSource) (service : ServiceKey) (rules : List Rule) :
    RuleSource × Option RuleChange :=
  match s with
  | fixed sets lookups => (fixed sets lookups, none)
  | store s subscribed =>
      let (s, change) := s.load service rules
      (store s subscribed, change)

/-- Remove the rules of a service from a store. Fixed rules stay as they are. -/
def clear (s : RuleSource) (service : ServiceKey) : RuleSource × Option RuleChange :=
  match s with
  | fixed sets lookups => (fixed sets lookups, none)
  | store s subscribed =>
      let (s, change) := s.clear service
      (store s subscribed, change)

end RuleSource

end CircuitBreaker

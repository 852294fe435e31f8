import CircuitBreaker.Pattern.Matching
import CircuitBreaker.Rule

/-!
# `CircuitBreaker.Resolution` — the rule that governs a resource

Of the rules of a service one governs the calls from a caller to a resource: the first that applies,
or the most specific one. Patterns are looked up in the cache only where everything else applies.

## Contents
- `Precedence`, `Rule.specificity`: which of several rules wins.
- `Rule.covers`, `Rule.isApplicable`: whether a rule applies.
- `Resolution.resolve`: the rule that wins.
- `Rule.activeBlocks`: the block rules in whose scope a resource is.
-/

namespace CircuitBreaker

/-- Which of several applicable rules wins. -/
inductive Precedence where
  /-- The first. -/
  | firstMatch
  /-- The first of the most specific ones. -/
  | mostSpecific
deriving DecidableEq, Repr

namespace Precedence

/-- The name of the precedence. -/
def text : Precedence → String
  | firstMatch => "FirstMatch"
  | mostSpecific => "MostSpecific"

/-- The precedences. -/
def all : List Precedence := [firstMatch, mostSpecific]

end Precedence

/-- Whether a name matches: the name is the one asked for, or that is a wildcard. -/
def nameMatches (asked name : String) : Bool := Text.isWildcard asked || asked == name

namespace NameMatcher

/-- Whether the matcher is about every service. -/
def isWildcard (m : NameMatcher) : Bool := Text.isWildcard m.realm && Text.isWildcard m.name

/-- Whether the matcher is about the caller; about one that is unknown only if it is about all. -/
def accepts (m : NameMatcher) : Option ServiceKey → Bool
  | some k => nameMatches m.realm k.realm && nameMatches m.name k.name
  | none => m.isWildcard

end NameMatcher

namespace Rule

/-- Whether the rule applies as far as level and names go. -/
def covers (r : Rule) (resource : Resource) (caller : Option ServiceKey) : Bool :=
  r.enabled && r.level == resource.level
    && nameMatches r.matcher.destination.realm resource.key.realm
    && nameMatches r.matcher.destination.name resource.key.name
    && r.matcher.source.accepts caller

/-- A pattern for methods and the method to match it with, if there are both. -/
def scope? (p : Option Pattern) (resource : Resource) : Option (Pattern × String) :=
  match p, resource.path? with
  | some p, some path => some (p, path)
  | _, _ => none

/-- Whether a resource is in scope. Only methods can be out of it. -/
def inScope (f : Compiler) (p : Option Pattern) (resource : Resource) (cache : PatternCache) :
    Bool × PatternCache :=
  match scope? p resource with
  | some (p, path) => p.matchesIn f path cache
  | none => (true, cache)

/-- Whether the rule applies to calls from a caller to a resource. -/
def isApplicable (f : Compiler) (r : Rule) (resource : Resource) (caller : Option ServiceKey)
    (cache : PatternCache) : Bool × PatternCache :=
  if r.covers resource caller then inScope f r.matcher.destination.method resource cache
  else (false, cache)

/-- Whether the rule asks for particular methods. -/
def hasMethod (r : Rule) : Bool :=
  r.matcher.destination.method.any fun p => !Text.isWildcard p.value

/-- Whether the rule asks for particular callers. -/
def hasSource (r : Rule) : Bool := !r.matcher.source.isWildcard

/-- How specific the rule is: methods count more than callers. -/
def specificity (r : Rule) : Nat :=
  (if r.hasMethod then 2 else 0) + (if r.hasSource then 1 else 0)

/-- The block rules of some in whose scope a resource is. -/
def activeBlocksOf (f : Compiler) (resource : Resource) (bs : List BlockRule)
    (cache : PatternCache) : List BlockRule × PatternCache :=
  match bs with
  | [] => ([], cache)
  | b :: rest =>
      let (here, cache) := inScope f b.api resource cache
      let (more, cache) := activeBlocksOf f resource rest cache
      (if here then b :: more else more, cache)

/-- The block rules in whose scope a resource is. -/
def activeBlocks (f : Compiler) (r : Rule) (resource : Resource) (cache : PatternCache) :
    List BlockRule × PatternCache :=
  activeBlocksOf f resource r.blocks cache

end Rule

namespace Resolution

/-- The first rule that applies; those after it are not looked at. -/
def firstApplicable (f : Compiler) (resource : Resource) (caller : Option ServiceKey)
    (rules : List Rule) (cache : PatternCache) : Option Rule × PatternCache :=
  match rules with
  | [] => (none, cache)
  | r :: rest =>
      let (applies, cache) := r.isApplicable f resource caller cache
      if applies then (some r, cache) else firstApplicable f resource caller rest cache

/-- All rules that apply. -/
def applicable (f : Compiler) (resource : Resource) (caller : Option ServiceKey)
    (rules : List Rule) (cache : PatternCache) : List Rule × PatternCache :=
  match rules with
  | [] => ([], cache)
  | r :: rest =>
      let (applies, cache) := r.isApplicable f resource caller cache
      let (more, cache) := applicable f resource caller rest cache
      (if applies then r :: more else more, cache)

/-- The first of the most specific rules. -/
def mostSpecific? : List Rule → Option Rule
  | [] => none
  | r :: rest =>
      match mostSpecific? rest with
      | none => some r
      | some s => if s.specificity ≤ r.specificity then some r else some s

/-- The rule that governs calls from a caller to a resource. -/
def resolve (f : Compiler) (p : Precedence) (resource : Resource) (caller : Option ServiceKey)
    (rules : List Rule) (cache : PatternCache) : Option Rule × PatternCache :=
  match p with
  | .firstMatch => firstApplicable f resource caller rules cache
  | .mostSpecific =>
      let (rs, cache) := applicable f resource caller rules cache
      (mostSpecific? rs, cache)

end Resolution

end CircuitBreaker

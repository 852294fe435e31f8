import CircuitBreaker.Pattern
import CircuitBreaker.Resource
import CircuitBreaker.Rule.Headers

/-!
# `CircuitBreaker.Rule` — circuit breaking rules

A rule says which resources a circuit guards, what counts as an error there, when the circuit opens
and how it recovers.

## Contents
- `NameMatcher`, `DestinationMatcher`, `RuleMatcher`: whom a rule is about.
- `ErrorCondition`, `RateLimit`, `TriggerCondition`, `BlockRule`: when a circuit opens.
- `Recovery`, `Response`, `Fallback`: what happens while it is open.
- `Rule`, `Rule.fallback?`, `Rule.sameAs`: the rule as a whole.
-/

namespace CircuitBreaker

/-- A service by name; an empty name or a star stands for every one. -/
structure NameMatcher where
  realm : String := ""
  name : String := ""
deriving DecidableEq, Repr, Inhabited

/-- The service that is called, and which of its methods. -/
structure DestinationMatcher where
  realm : String := ""
  name : String := ""
  method : Option Pattern := none
deriving DecidableEq, Repr, Inhabited

/-- Who calls whom. -/
structure RuleMatcher where
  source : NameMatcher := {}
  destination : DestinationMatcher := {}
deriving DecidableEq, Repr, Inhabited

/-- What makes an outcome an error. -/
inductive ErrorCondition where
  /-- The return code, written in decimal, matches a pattern. -/
  | code (pattern : Pattern)
  /-- The call took at least so many milliseconds. -/
  | delay (least : Nat)
deriving DecidableEq, Repr

/-- A share of recent calls that must not be reached. -/
structure RateLimit where
  /-- The share, of one. -/
  threshold : Float
  /-- How far back calls count, in milliseconds. -/
  interval : Nat
  /-- How many calls there have to be. -/
  minimum : Nat
deriving Repr

/-- When a circuit opens. -/
inductive TriggerCondition where
  /-- So many errors came in a row. -/
  | consecutiveError (count : Nat)
  /-- Too large a share of calls were errors. -/
  | errorRate (limit : RateLimit)
  /-- Too large a share of calls took `least` milliseconds or more. -/
  | slowRate (least : Nat) (limit : RateLimit)
deriving Repr

/-- Error and trigger conditions for the calls of one scope. -/
structure BlockRule where
  name : String := ""
  /-- The methods in scope; without a pattern, all resources. -/
  api : Option Pattern := none
  /-- Without conditions, failed and timed out calls are errors. -/
  errors : List ErrorCondition := []
  triggers : List TriggerCondition := []
deriving Repr, Inhabited

/-- How an open circuit recovers. -/
structure Recovery where
  /-- How long the circuit stays open before trial calls are let through, in milliseconds. -/
  sleepWindow : Nat := 60000
  /-- How many trial calls in a row have to succeed. -/
  successes : Nat := 3
  /-- How many trial calls may be under way at a time, where the rule says so. -/
  probes : Option Nat := none
deriving DecidableEq, Repr, Inhabited

/-- What a caller may answer with while the circuit is open. -/
structure Response where
  code : Int := 0
  headers : Headers := {}
  body : String := ""
deriving DecidableEq, Repr, Inhabited

/-- An answer, and whether it is in use. -/
structure Fallback where
  enabled : Bool := false
  response : Response := {}
deriving DecidableEq, Repr, Inhabited

/-- A circuit breaking rule. -/
structure Rule where
  id : String := ""
  name : String := ""
  /-- A rule that is not enabled applies to nothing. -/
  enabled : Bool := true
  level : Level := .service
  matcher : RuleMatcher := {}
  blocks : List BlockRule := []
  recovery : Recovery := {}
  fallback : Option Fallback := none
  /-- The stamp of the rule set that the rule came with. -/
  revision : String := ""
deriving Repr, Inhabited

namespace RateLimit

/-- Whether two limits are the same; shares are compared as numbers. -/
def sameAs (a b : RateLimit) : Bool :=
  a.threshold == b.threshold && a.interval == b.interval && a.minimum == b.minimum

end RateLimit

namespace TriggerCondition

/-- Whether two conditions are the same. -/
def sameAs : TriggerCondition → TriggerCondition → Bool
  | consecutiveError a, consecutiveError b => a == b
  | errorRate a, errorRate b => a.sameAs b
  | slowRate m a, slowRate n b => m == n && a.sameAs b
  | _, _ => false

end TriggerCondition

/-- Whether two lists have the same length and the same items. -/
def sameItems {α : Type} (same : α → α → Bool) : List α → List α → Bool
  | [], [] => true
  | a :: as, b :: bs => same a b && sameItems same as bs
  | _, _ => false

namespace BlockRule

/-- Whether two block rules are the same. -/
def sameAs (a b : BlockRule) : Bool :=
  a.name == b.name && a.api == b.api && a.errors == b.errors
    && sameItems TriggerCondition.sameAs a.triggers b.triggers

end BlockRule

namespace Rule

/-- The answer for callers of an open circuit, if the rule has one in use. -/
def fallback? (r : Rule) : Option Response :=
  match r.fallback with
  | some f => if f.enabled then some f.response else none
  | none => none

/-- Whether two rules protect the same resources in the same way. Their ids and revisions are only
    book-keeping. -/
def sameAs (a b : Rule) : Bool :=
  a.name == b.name && a.enabled == b.enabled && a.level == b.level && a.matcher == b.matcher
    && sameItems BlockRule.sameAs a.blocks b.blocks && a.recovery == b.recovery
    && a.fallback == b.fallback

end Rule

end CircuitBreaker

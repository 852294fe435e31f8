import CircuitBreaker.Decimal.Layout
import CircuitBreaker.Pattern.Cache
import CircuitBreaker.Rule
import CircuitBreaker.Text.Quoted

/-!
# `CircuitBreaker.Rule.Validity` — which rules can be used

A rule is checked before it is loaded. The checks go through it in a fixed order, and the first one
that fails says what is wrong. What counts as a regular expression is up to a compiler, with which the
checks try each expression.

## Contents
- `RuleError`, `RuleError.message`: what can be wrong with a rule.
- `checkAll`: a check on each item of a list.
- `RateLimit.check`, `TriggerCondition.check`, `BlockRule.check`, `Rule.check`.
-/

namespace CircuitBreaker

/-- Which share a rate limit is about. -/
inductive Share where
  | errors
  | slowness
deriving DecidableEq, Repr

namespace Share

/-- What the share is called in messages. -/
def text : Share → String
  | errors => "error rate"
  | slowness => "slow rate"

/-- The name of the field that holds the share. -/
def fieldName : Share → String
  | errors => "error_rate"
  | slowness => "slow_rate"

end Share

/-- What can be wrong with a rule. -/
inductive RuleError where
  | noName
  | noBlock
  | noTrigger (block : String)
  /-- No number of errors in a row would be too many. -/
  | zeroCount
  /-- The share is not above zero and at most one. -/
  | badShare (share : Share) (value : Float)
  | zeroInterval (share : Share)
  /-- The expression of a pattern does not compile. -/
  | badPattern (expression : String)
  | zeroSleepWindow
  | zeroSuccesses
  | zeroProbes
deriving Repr

namespace RuleError

/-- The text of the error. -/
def message : RuleError → String
  | noName => "empty rule name"
  | noBlock => "no block config"
  | noTrigger block => "no trigger condition in block config " ++ Text.quoted block
  | zeroCount => "invalid error_count of consecutive error trigger"
  | badShare share value =>
      "invalid " ++ share.fieldName ++ " " ++ Decimal.plain.write value
        ++ " (valid range: (0.0, 1.0])"
  | zeroInterval share => "invalid interval_ms of " ++ share.text ++ " trigger"
  | badPattern expression => "invalid regular expression " ++ Text.quoted expression
  | zeroSleepWindow => "invalid sleep_window_ms"
  | zeroSuccesses => "invalid consecutive_success"
  | zeroProbes => "invalid max_half_open_requests"

end RuleError

/-- Check the items of a list in turn, up to the first that fails. -/
def checkAll {α ε : Type} (check : α → Except ε Unit) : List α → Except ε Unit
  | [] => .ok ()
  | a :: rest =>
      match check a with
      | .ok () => checkAll check rest
      | .error e => .error e

theorem checkAll_eq_ok_iff {α ε : Type} (check : α → Except ε Unit) (xs : List α) :
    checkAll check xs = .ok () ↔ ∀ x ∈ xs, check x = .ok () := by
  induction xs with
  | nil => simp [checkAll]
  | cons x rest ih =>
      unfold checkAll
      cases h : check x with
      | ok u => simp [h, ih]
      | error e => simp [h]

namespace RateLimit

/-- Whether the share is above zero and at most one. -/
def isShare (x : Float) : Bool := !(x.isNaN || decide (x ≤ 0) || decide (1 < x))

/-- A limit needs a share that can be reached and an interval. -/
def check (share : Share) (l : RateLimit) : Except RuleError Unit :=
  if !isShare l.threshold then .error (.badShare share l.threshold)
  else if l.interval = 0 then .error (.zeroInterval share)
  else .ok ()

end RateLimit

namespace TriggerCondition

/-- Whether a trigger can ever be satisfied. -/
def check : TriggerCondition → Except RuleError Unit
  | consecutiveError count => if count = 0 then .error .zeroCount else .ok ()
  | errorRate l => l.check .errors
  | slowRate _ l => l.check .slowness

end TriggerCondition

namespace Pattern

/-- The value of a pattern by regular expression has to be one. -/
def check (f : Compiler) (p : Pattern) : Except RuleError Unit :=
  if p.kind = .regex ∧ f p.value = none then .error (.badPattern p.value) else .ok ()

end Pattern

namespace ErrorCondition

/-- The pattern of an error condition has to be one. -/
def check (f : Compiler) : ErrorCondition → Except RuleError Unit
  | code p => p.check f
  | delay _ => .ok ()

end ErrorCondition

/-- The pattern, if there is one, has to be one. -/
def checkPattern? (f : Compiler) (p : Option Pattern) : Except RuleError Unit :=
  match p with
  | some p => p.check f
  | none => .ok ()

namespace BlockRule

/-- A block rule needs triggers, and triggers and patterns that are right. -/
def check (f : Compiler) (b : BlockRule) : Except RuleError Unit :=
  if b.triggers.isEmpty then .error (.noTrigger b.name)
  else
    match checkAll TriggerCondition.check b.triggers with
    | .error e => .error e
    | .ok () =>
        match checkPattern? f b.api with
        | .error e => .error e
        | .ok () => checkAll (ErrorCondition.check f) b.errors

end BlockRule

namespace Recovery

/-- Recovery needs a sleep window, successes and trial calls. -/
def check (r : Recovery) : Except RuleError Unit :=
  if r.sleepWindow = 0 then .error .zeroSleepWindow
  else if r.successes = 0 then .error .zeroSuccesses
  else if r.probes = some 0 then .error .zeroProbes
  else .ok ()

end Recovery

namespace Rule

/-- What is wrong with a rule: its name, its block rules, its recovery and its method pattern are
    looked at in this order. -/
def check (f : Compiler) (r : Rule) : Except RuleError Unit :=
  if r.name = "" then .error .noName
  else if r.blocks.isEmpty then .error .noBlock
  else
    match checkAll (BlockRule.check f) r.blocks with
    | .error e => .error e
    | .ok () =>
        match r.recovery.check with
        | .error e => .error e
        | .ok () => checkPattern? f r.matcher.destination.method

/-- Whether the rule can be used, with a compiler for its expressions. -/
def isValid (f : Compiler) (r : Rule) : Bool := r.check f matches .ok _

end Rule

end CircuitBreaker

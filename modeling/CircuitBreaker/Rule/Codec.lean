import CircuitBreaker.Resource.Codec
import CircuitBreaker.Rule

/-!
# `CircuitBreaker.Rule.Codec` — rules as JSON

Rules travel as JSON. Fields that are left out take their defaults, down to single patterns; only
error and trigger conditions have to be complete.

## Contents
- `Pattern.toJson`, …, `Rule.toJson`: rules and their parts as JSON.
- `Pattern.ofJson?`, …, `Rule.ofJson?`: reading them.
-/

namespace CircuitBreaker

namespace PatternKind

/-- A kind as JSON. -/
def toJson (k : PatternKind) : Json := .str k.text

/-- The kind that a value names. -/
def ofJson? (j : Json) : Option PatternKind := j.toName? all text

end PatternKind

namespace Pattern

/-- A pattern as JSON. -/
def toJson (p : Pattern) : Json :=
  .record [("match_type", p.kind.toJson), ("value", .str p.value)]

/-- The pattern that a value stands for. -/
def ofJson? (j : Json) : Option Pattern :=
  match j.fields? true ["match_type", "value"] with
  | some [kind, value] => do
      let kind ← Json.orElse .exact PatternKind.ofJson? kind
      let value ← Json.orElse "" Json.toStr? value
      some { kind, value }
  | _ => none

end Pattern

namespace NameMatcher

/-- A name matcher as JSON. -/
def toJson (m : NameMatcher) : Json :=
  .record [("namespace", .str m.realm), ("service", .str m.name)]

/-- The name matcher that a value stands for. -/
def ofJson? (j : Json) : Option NameMatcher :=
  match j.fields? true ["namespace", "service"] with
  | some [realm, name] => do
      let realm ← Json.orElse "" Json.toStr? realm
      let name ← Json.orElse "" Json.toStr? name
      some { realm, name }
  | _ => none

end NameMatcher

namespace DestinationMatcher

/-- A destination matcher as JSON. -/
def toJson (m : DestinationMatcher) : Json :=
  .record [
    ("namespace", .str m.realm),
    ("service", .str m.name),
    ("method", Json.ofOption Pattern.toJson m.method)]

/-- The destination matcher that a value stands for. -/
def ofJson? (j : Json) : Option DestinationMatcher :=
  match j.fields? true ["namespace", "service", "method"] with
  | some [realm, name, method] => do
      let realm ← Json.orElse "" Json.toStr? realm
      let name ← Json.orElse "" Json.toStr? name
      let method ← Json.maybe Pattern.ofJson? method
      some { realm, name, method }
  | _ => none

end DestinationMatcher

namespace RuleMatcher

/-- A rule matcher as JSON. -/
def toJson (m : RuleMatcher) : Json :=
  .record [("source", m.source.toJson), ("destination", m.destination.toJson)]

/-- The rule matcher that a value stands for. -/
def ofJson? (j : Json) : Option RuleMatcher :=
  match j.fields? true ["source", "destination"] with
  | some [source, destination] => do
      let source ← Json.orElse {} NameMatcher.ofJson? source
      let destination ← Json.orElse {} DestinationMatcher.ofJson? destination
      some { source, destination }
  | _ => none

end RuleMatcher

namespace ErrorCondition

/-- An error condition as JSON. -/
def toJson : ErrorCondition → Json
  | code p => .record [("type", .str "ret_code"), ("pattern", p.toJson)]
  | delay n => .record [("type", .str "delay"), ("max_delay_ms", .nat n)]

/-- The error condition that a value stands for. -/
def ofJson? (j : Json) : Option ErrorCondition :=
  match j.tagged? with
  | some (kind, j) =>
      if kind == "ret_code" then
        match j.fields? false ["pattern"] with
        | some [pattern] => (Json.need Pattern.ofJson? pattern).map code
        | _ => none
      else if kind == "delay" then
        match j.fields? false ["max_delay_ms"] with
        | some [least] => (Json.need (Json.toNat? Json.limit64) least).map delay
        | _ => none
      else
        none
  | none => none

end ErrorCondition

namespace TriggerCondition

/-- A trigger condition as JSON. -/
def toJson : TriggerCondition → Json
  | consecutiveError n => .record [("type", .str "consecutive_error"), ("error_count", .nat n)]
  | errorRate l =>
      .record [
        ("type", .str "error_rate"),
        ("error_rate", .float l.threshold),
        ("interval_ms", .nat l.interval),
        ("minimum_request", .nat l.minimum)]
  | slowRate n l =>
      .record [
        ("type", .str "slow_rate"),
        ("max_rt_ms", .nat n),
        ("slow_rate", .float l.threshold),
        ("interval_ms", .nat l.interval),
        ("minimum_request", .nat l.minimum)]

/-- The limit with the given share, interval and minimum. -/
def limitOf? (threshold interval minimum : Option Json) : Option RateLimit := do
  let threshold ← Json.need Json.toFloat? threshold
  let interval ← Json.need (Json.toNat? Json.limit64) interval
  let minimum ← Json.need (Json.toNat? Json.limit32) minimum
  some { threshold, interval, minimum }

/-- The trigger condition that a value stands for. -/
def ofJson? (j : Json) : Option TriggerCondition :=
  match j.tagged? with
  | some (kind, j) =>
      if kind == "consecutive_error" then
        match j.fields? false ["error_count"] with
        | some [count] => (Json.need (Json.toNat? Json.limit32) count).map consecutiveError
        | _ => none
      else if kind == "error_rate" then
        match j.fields? false ["error_rate", "interval_ms", "minimum_request"] with
        | some [threshold, interval, minimum] =>
            (limitOf? threshold interval minimum).map errorRate
        | _ => none
      else if kind == "slow_rate" then
        match j.fields? false ["max_rt_ms", "slow_rate", "interval_ms", "minimum_request"] with
        | some [least, threshold, interval, minimum] => do
            let least ← Json.need (Json.toNat? Json.limit64) least
            let limit ← limitOf? threshold interval minimum
            some (slowRate least limit)
        | _ => none
      else
        none
  | none => none

end TriggerCondition

namespace BlockRule

/-- The fields of a block rule. -/
def fieldNames : List String := ["name", "api", "error_conditions", "trigger_conditions"]

/-- A block rule as JSON. -/
def toJson (b : BlockRule) : Json :=
  .record [
    ("name", .str b.name),
    ("api", Json.ofOption Pattern.toJson b.api),
    ("error_conditions", .array (b.errors.map ErrorCondition.toJson)),
    ("trigger_conditions", .array (b.triggers.map TriggerCondition.toJson))]

/-- The block rule that a value stands for. -/
def ofJson? (j : Json) : Option BlockRule :=
  match j.fields? true fieldNames with
  | some [name, api, errors, triggers] => do
      let name ← Json.orElse "" Json.toStr? name
      let api ← Json.maybe Pattern.ofJson? api
      let errors ← Json.orElse [] (Json.toList? ErrorCondition.ofJson?) errors
      let triggers ← Json.orElse [] (Json.toList? TriggerCondition.ofJson?) triggers
      some { name, api, errors, triggers }
  | _ => none

end BlockRule

namespace Recovery

/-- The fields of a recovery. -/
def fieldNames : List String :=
  ["sleep_window_ms", "consecutive_success", "max_half_open_requests"]

/-- A recovery as JSON. -/
def toJson (r : Recovery) : Json :=
  .record [
    ("sleep_window_ms", .nat r.sleepWindow),
    ("consecutive_success", .nat r.successes),
    ("max_half_open_requests", Json.ofOption Json.nat r.probes)]

/-- The recovery that a value stands for. -/
def ofJson? (j : Json) : Option Recovery :=
  match j.fields? true fieldNames with
  | some [sleepWindow, successes, probes] => do
      let sleepWindow ← Json.orElse 60000 (Json.toNat? Json.limit64) sleepWindow
      let successes ← Json.orElse 3 (Json.toNat? Json.limit32) successes
      let probes ← Json.maybe (Json.toNat? Json.limit32) probes
      some { sleepWindow, successes, probes }
  | _ => none

end Recovery

namespace Headers

/-- Headers as JSON. -/
def toJson (h : Headers) : Json := .record (h.entries.map fun e => (e.1, .str e.2))

/-- One header. -/
def entryOf? (m : Option String × Json) : Option (String × String) := do
  let name ← m.1
  let value ← m.2.toStr?
  some (name, value)

/-- The headers that a value stands for. -/
def ofJson? : Json → Option Headers
  | .object members => (members.mapM entryOf?).map ofList
  | _ => none

end Headers

namespace Response

/-- The least code of an answer: codes are signed 32-bit numbers. -/
def leastCode : Int := Int32.minValue.toInt

/-- The greatest code of an answer. -/
def greatestCode : Int := Int32.maxValue.toInt

/-- An answer as JSON. -/
def toJson (r : Response) : Json :=
  .record [("code", .int r.code), ("headers", r.headers.toJson), ("body", .str r.body)]

/-- The answer that a value stands for. -/
def ofJson? (j : Json) : Option Response :=
  match j.fields? true ["code", "headers", "body"] with
  | some [code, headers, body] => do
      let code ← Json.orElse 0 (Json.toInt? leastCode greatestCode) code
      let headers ← Json.orElse {} Headers.ofJson? headers
      let body ← Json.orElse "" Json.toStr? body
      some { code, headers, body }
  | _ => none

end Response

namespace Fallback

/-- A fallback as JSON. -/
def toJson (f : Fallback) : Json :=
  .record [("enable", .bool f.enabled), ("response", f.response.toJson)]

/-- The fallback that a value stands for. -/
def ofJson? (j : Json) : Option Fallback :=
  match j.fields? true ["enable", "response"] with
  | some [enabled, response] => do
      let enabled ← Json.orElse false Json.toBool? enabled
      let response ← Json.orElse {} Response.ofJson? response
      some { enabled, response }
  | _ => none

end Fallback

namespace Rule

/-- The fields of a rule. -/
def fieldNames : List String :=
  ["id", "name", "enable", "level", "rule_matcher", "block_configs", "recover_condition",
   "fallback_config", "revision"]

/-- A rule as JSON. -/
def toJson (r : Rule) : Json :=
  .record [
    ("id", .str r.id),
    ("name", .str r.name),
    ("enable", .bool r.enabled),
    ("level", r.level.toJson),
    ("rule_matcher", r.matcher.toJson),
    ("block_configs", .array (r.blocks.map BlockRule.toJson)),
    ("recover_condition", r.recovery.toJson),
    ("fallback_config", Json.ofOption Fallback.toJson r.fallback),
    ("revision", .str r.revision)]

/-- The rule that a value stands for. A rule without an id is given `freshId`. -/
def ofJson? (freshId : String) (j : Json) : Option Rule :=
  match j.fields? true fieldNames with
  | some [id, name, enabled, level, matcher, blocks, recovery, fallback, revision] => do
      let id ← Json.orElse freshId Json.toStr? id
      let name ← Json.orElse "" Json.toStr? name
      let enabled ← Json.orElse true Json.toBool? enabled
      let level ← Json.orElse .service Level.ofJson? level
      let matcher ← Json.orElse {} RuleMatcher.ofJson? matcher
      let blocks ← Json.orElse [] (Json.toList? BlockRule.ofJson?) blocks
      let recovery ← Json.orElse {} Recovery.ofJson? recovery
      let fallback ← Json.maybe Fallback.ofJson? fallback
      let revision ← Json.orElse "" Json.toStr? revision
      some { id, name, enabled, level, matcher, blocks, recovery, fallback, revision }
  | _ => none

end Rule

end CircuitBreaker

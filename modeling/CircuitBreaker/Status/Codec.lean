import CircuitBreaker.Rule.Codec
import CircuitBreaker.Status

/-!
# `CircuitBreaker.Status.Codec` — statuses as JSON

## Contents
- `Phase.toJson`, `Phase.ofJson?`.
- `Status.toJson`, `Status.ofJson?`: all fields but the fallback have to be there.
-/

namespace CircuitBreaker

namespace Phase

/-- A phase as JSON. -/
def toJson (p : Phase) : Json := .str p.text

/-- The phase that a value names. -/
def ofJson? (j : Json) : Option Phase := j.toName? all text

end Phase

namespace Status

/-- The fields of a status. -/
def fieldNames : List String :=
  ["rule_name", "status", "reason", "start_time_ms", "fallback_info"]

/-- A status as JSON. -/
def toJson (s : Status) : Json :=
  .record [
    ("rule_name", .str s.rule),
    ("status", s.phase.toJson),
    ("reason", .str s.reason),
    ("start_time_ms", .nat s.since),
    ("fallback_info", Json.ofOption Response.toJson s.fallback)]

/-- The status that a value stands for. -/
def ofJson? (j : Json) : Option Status :=
  match j.fields? false fieldNames with
  | some [rule, phase, reason, since, fallback] => do
      let rule ← Json.need Json.toStr? rule
      let phase ← Json.need Phase.ofJson? phase
      let reason ← Json.need Json.toStr? reason
      let since ← Json.need (Json.toNat? Json.limit64) since
      let fallback ← Json.maybe Response.ofJson? fallback
      some { rule, phase, reason, since, fallback }
  | _ => none

end Status

end CircuitBreaker

import CircuitBreaker.Outcome
import CircuitBreaker.Resource.Codec

/-!
# `CircuitBreaker.Outcome.Codec` — outcomes as JSON

## Contents
- `Verdict.toJson`, `Verdict.ofJson?`.
- `Outcome.toJson`, `Outcome.ofJson?`: all fields but the caller have to be there.
-/

namespace CircuitBreaker

namespace Verdict

/-- A verdict as JSON. -/
def toJson (v : Verdict) : Json := .str v.text

/-- The verdict that a value names. -/
def ofJson? (j : Json) : Option Verdict := j.toName? all text

end Verdict

namespace Outcome

/-- The fields of an outcome. -/
def fieldNames : List String :=
  ["resource", "caller", "ret_code", "delay_ms", "ret_status", "timestamp_ms"]

/-- The least return code: codes are signed 64-bit numbers. -/
def leastCode : Int := Int64.minValue.toInt

/-- The greatest return code. -/
def greatestCode : Int := Int64.maxValue.toInt

/-- An outcome as JSON. -/
def toJson (o : Outcome) : Json :=
  .record [
    ("resource", o.resource.toJson),
    ("caller", Json.ofOption ServiceKey.toJson o.caller),
    ("ret_code", .int o.code),
    ("delay_ms", .nat o.delay),
    ("ret_status", o.verdict.toJson),
    ("timestamp_ms", .nat o.timestamp)]

/-- The outcome that a value stands for. -/
def ofJson? (j : Json) : Option Outcome :=
  match j.fields? false fieldNames with
  | some [resource, caller, code, delay, verdict, timestamp] => do
      let resource ← Json.need Resource.ofJson? resource
      let caller ← Json.maybe ServiceKey.ofJson? caller
      let code ← Json.need (Json.toInt? leastCode greatestCode) code
      let delay ← Json.need (Json.toNat? Json.limit64) delay
      let verdict ← Json.need Verdict.ofJson? verdict
      let timestamp ← Json.need (Json.toNat? Json.limit64) timestamp
      some { resource, caller, code, delay, verdict, timestamp }
  | _ => none

end Outcome

end CircuitBreaker

import CircuitBreaker.Config
import CircuitBreaker.Json.Record

/-!
# `CircuitBreaker.Config.Codec` — settings as JSON

## Contents
- `Config.toJson`, `Config.ofJson?`.
- `ConfigDocument.toJson`, `ConfigDocument.ofJson?`.
-/

namespace CircuitBreaker

namespace Config

/-- The names of the settings. -/
def fieldNames : List String :=
  ["enable", "check_period_ms", "counters_expire_interval_ms", "bucket_count",
   "max_half_open_requests", "regex_cache_capacity", "log_config_file"]

/-- Settings as JSON. -/
def toJson (c : Config) : Json :=
  .record [
    ("enable", .bool c.enabled),
    ("check_period_ms", .nat c.checkPeriod),
    ("counters_expire_interval_ms", .nat c.expireInterval),
    ("bucket_count", .nat c.bucketCount),
    ("max_half_open_requests", .nat c.probes),
    ("regex_cache_capacity", .nat c.patternCapacity),
    ("log_config_file", .str c.logFile)]

/-- The settings that a value stands for. -/
def ofJson? (j : Json) : Option Config :=
  match j.fields? true fieldNames with
  | some [enabled, checkPeriod, expireInterval, bucketCount, probes, patternCapacity, logFile] => do
      let enabled ← Json.orElse true Json.toBool? enabled
      let checkPeriod ← Json.orElse 0 (Json.toNat? Json.limit64) checkPeriod
      let expireInterval ← Json.orElse 60000 (Json.toNat? Json.limit64) expireInterval
      let bucketCount ← Json.orElse 10 (Json.toNat? Json.limit32) bucketCount
      let probes ← Json.orElse 3 (Json.toNat? Json.limit32) probes
      let patternCapacity ← Json.orElse 1024 (Json.toNat? Json.limit64) patternCapacity
      let logFile ← Json.orElse "" Json.toStr? logFile
      some { enabled, checkPeriod, expireInterval, bucketCount, probes, patternCapacity, logFile }
  | _ => none

end Config

namespace ConfigDocument

/-- A document as JSON. -/
def toJson (d : ConfigDocument) : Json :=
  .record [("version", .str d.version), ("config", d.config.toJson)]

/-- The document that a value stands for. -/
def ofJson? (j : Json) : Option ConfigDocument :=
  match j.fields? true ["version", "config"] with
  | some [version, config] => do
      let version ← Json.orElse "v1" Json.toStr? version
      let config ← Json.orElse {} Config.ofJson? config
      some { version, config }
  | _ => none

end ConfigDocument

end CircuitBreaker

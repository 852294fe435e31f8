import CircuitBreaker.Config
import CircuitBreaker.Yaml.Record

/-!
# `CircuitBreaker.Config.Yaml` — settings in a YAML file

## Contents
- `Config.ofYaml?`: the settings in a part of a document.
- `ConfigDocument.ofYaml?`: the document in a file.
-/

namespace CircuitBreaker

/-- The settings that a part of a document stands for. -/
def Config.ofYaml? (d : Yaml.Document) : Option Config :=
  match d.fields? ["enable", "check_period_ms", "counters_expire_interval_ms", "bucket_count",
      "max_half_open_requests", "regex_cache_capacity", "log_config_file"] with
  | some [enabled, checkPeriod, expireInterval, bucketCount, probes, patternCapacity, logFile] => do
      let number (size default : Nat) : Option Yaml.Document → Option Nat :=
        Yaml.Document.orElse default (Yaml.Document.toNat? (size - 1))
      let enabled ← Yaml.Document.orElse true Yaml.Document.toBool? enabled
      let checkPeriod ← number UInt64.size 0 checkPeriod
      let expireInterval ← number UInt64.size 60000 expireInterval
      let bucketCount ← number UInt32.size 10 bucketCount
      let probes ← number UInt32.size 3 probes
      let patternCapacity ← number UInt64.size 1024 patternCapacity
      let logFile ← Yaml.Document.orElse "" Yaml.Document.toStr? logFile
      some { enabled, checkPeriod, expireInterval, bucketCount, probes, patternCapacity, logFile }
  | _ => none

/-- The document that a text stands for. -/
def ConfigDocument.ofYaml? (text : String) : Option ConfigDocument := do
  let d ← Yaml.Document.ofText? text
  match d.fields? ["version", "config"] with
  | some [version, config] => do
      let version ← Yaml.Document.orElse "v1" Yaml.Document.toStr? version
      let config ← Yaml.Document.orElse {} Config.ofYaml? config
      some { version, config }
  | _ => none

end CircuitBreaker

/-!
# `CircuitBreaker.Config` — settings

The settings of an engine, the document that they come in, and the check that both have to pass.

## Contents
- `Config`, `ConfigDocument`: the settings and the document.
- `ConfigError`, `ConfigError.message`: what the checks object to.
- `Config.check`, `ConfigDocument.check`.
-/

namespace CircuitBreaker

/-- The settings of an engine. -/
structure Config where
  /-- An engine that is not enabled reports every resource as closed. -/
  enabled : Bool := true
  /-- How often circuits are looked at, in milliseconds; 0 leaves it to the windows in use. -/
  checkPeriod : Nat := 0
  /-- How long a resource may stay without a report before it is forgotten, in milliseconds. -/
  expireInterval : Nat := 60000
  /-- How many buckets a sliding window has. -/
  bucketCount : Nat := 10
  /-- How many trial calls may be under way at a time, unless the rule says otherwise. -/
  probes : Nat := 3
  /-- How many compiled patterns are kept. -/
  patternCapacity : Nat := 1024
  /-- Where the settings of the log are. -/
  logFile : String := ""
deriving DecidableEq, Repr, Inhabited

/-- The settings with the version of their form. -/
structure ConfigDocument where
  version : String := "v1"
  config : Config := {}
deriving DecidableEq, Repr, Inhabited

/-- The settings that must not be zero. -/
inductive Setting where
  | bucketCount
  | expireInterval
  | probes
  | patternCapacity
deriving DecidableEq, Repr

namespace Setting

/-- The name of the setting. -/
def text : Setting → String
  | bucketCount => "bucket_count"
  | expireInterval => "counters_expire_interval_ms"
  | probes => "max_half_open_requests"
  | patternCapacity => "regex_cache_capacity"

end Setting

/-- What the checks object to. -/
inductive ConfigError where
  /-- The document has no version. -/
  | noVersion
  /-- The setting is zero. -/
  | zero (setting : Setting)
deriving DecidableEq, Repr

namespace ConfigError

/-- The text of the error. -/
def message : ConfigError → String
  | noVersion => "empty version"
  | zero s => "illegal circuit breaker configuration: " ++ s.text ++ " == 0"

end ConfigError

namespace Config

/-- The first setting that is zero and must not be. -/
def check (c : Config) : Except ConfigError Unit :=
  if c.bucketCount = 0 then .error (.zero .bucketCount)
  else if c.expireInterval = 0 then .error (.zero .expireInterval)
  else if c.probes = 0 then .error (.zero .probes)
  else if c.patternCapacity = 0 then .error (.zero .patternCapacity)
  else .ok ()

/-- The settings pass exactly when none of the four is zero. -/
theorem check_eq_ok_iff (c : Config) :
    c.check = .ok () ↔
      c.bucketCount ≠ 0 ∧ c.expireInterval ≠ 0 ∧ c.probes ≠ 0 ∧ c.patternCapacity ≠ 0 := by
  unfold check
  repeat' split
  all_goals simp_all

end Config

namespace ConfigDocument

/-- A document needs a version and settings that pass. -/
def check (d : ConfigDocument) : Except ConfigError Unit :=
  if d.version = "" then .error .noVersion else d.config.check

end ConfigDocument

end CircuitBreaker

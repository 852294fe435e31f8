import CircuitBreaker.Engine
import CircuitBreaker.Text.Fields

/-!
# `CircuitBreaker.Engine.Description` — an engine on one line

What an engine and its parts write about themselves into a log.

## Contents
- `PatternCache.description`, `Config.description`, `Engine.description`.
- `CircuitSettings.description`: what circuits have in common.
-/

namespace CircuitBreaker

/-- A truth value as a word. -/
def wordOf (b : Bool) : String := if b then "true" else "false"

/-- The pattern cache on one line. -/
def PatternCache.description (c : PatternCache) : String :=
  Text.fields "RegexCache" [("len", toString c.size)]

/-- The settings on one line. -/
def Config.description (c : Config) : String :=
  Text.fields "CircuitBreakerConfig" [
    ("enable", wordOf c.enabled),
    ("check_period_ms", toString c.checkPeriod),
    ("counters_expire_interval_ms", toString c.expireInterval),
    ("bucket_count", toString c.bucketCount),
    ("max_half_open_requests", toString c.probes),
    ("regex_cache_capacity", toString c.patternCapacity),
    ("log_config_file", Text.quoted c.logFile)]

/-- What circuits have in common, the pattern cache and the number of listeners, on one line. -/
def CircuitSettings.description (s : CircuitSettings) (patterns : PatternCache)
    (listeners : Nat) : String :=
  Text.fields "BreakerContext" [
    ("bucket_count", toString s.buckets),
    ("max_half_open_requests", toString s.probes),
    ("regexes", patterns.description),
    ("listeners", toString listeners)]

/-- The engine on one line. -/
def Engine.description (e : Engine) : String :=
  Text.fields "CircuitBreakerEngine" [
    ("config", e.config.description),
    ("resources", toString e.resourceCount),
    ("destroyed", wordOf e.isDestroyed)]

end CircuitBreaker

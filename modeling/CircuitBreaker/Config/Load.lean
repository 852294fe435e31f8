import CircuitBreaker.Config
import CircuitBreaker.Text.Blank
import CircuitBreaker.Text.Numeral

/-!
# `CircuitBreaker.Config.Load` — where the settings come from

The environment goes before the file, and the file before what holds without one. Files and
environment are given as data, and so is the reader that finds the settings in the text of a file.

## Contents
- `File`, `Environment`: what can be read.
- `LoadError`, `LoadError.message?`: what can go wrong.
- `DocumentReader`, `ConfigDocument.ofFile`: the settings in a file.
- `Environment.override`: the settings that the environment changes.
- `ConfigDocument.load`: all together.
-/

namespace CircuitBreaker

/-- What is found under a path. -/
inductive File where
  | missing
  /-- Something that cannot be read as text. -/
  | unreadable
  | text (content : String)
deriving DecidableEq, Repr

/-- The variables that matter, where they are set. -/
structure Environment where
  /-- Where the file is. -/
  path : Option String := none
  /-- Whether the engine is enabled. -/
  enable : Option String := none
  /-- The expiry interval. -/
  expireInterval : Option String := none
deriving DecidableEq, Repr

/-- What can go wrong. -/
inductive LoadError where
  | missing (path : String)
  | unreadable
  /-- The file does not hold settings. -/
  | malformed
  | refused (e : ConfigError)
  /-- The variable that says whether the engine is enabled. -/
  | badEnable (value : String)
  /-- The variable with the expiry interval. -/
  | badExpireInterval (value : String)
deriving DecidableEq, Repr

namespace LoadError

/-- The text of the error, if it has one of its own. -/
def message? : LoadError → Option String
  | missing path => some ("meshguard YAML configuration file " ++ path ++ " does not exist!")
  | unreadable => none
  | malformed => none
  | refused e => some e.message
  | badEnable value => some ("invalid MESHGUARD_CB_ENABLE: " ++ value)
  | badExpireInterval value => some ("invalid MESHGUARD_CB_EXPIRE_INTERVAL_MS: " ++ value)

end LoadError

namespace Environment

/-- A natural number of at most 64 bits, with or without a plus sign. -/
def number? (s : String) : Option Nat := Text.Numeral.nat? 10 (UInt64.size - 1) s.toList

/-- A truth value. -/
def flag? (s : String) : Option Bool :=
  if s = "true" then some true else if s = "false" then some false else none

/-- The settings with those that the environment changes. White space around a value does not
    matter. -/
def override (env : Environment) (d : ConfigDocument) : Except LoadError ConfigDocument := do
  let enabled ← match env.enable with
    | none => pure d.config.enabled
    | some value =>
        match flag? (Text.trim value) with
        | some b => pure b
        | none => throw (.badEnable value)
  let expireInterval ← match env.expireInterval with
    | none => pure d.config.expireInterval
    | some value =>
        match number? (Text.trim value) with
        | some n => pure n
        | none => throw (.badExpireInterval value)
  return { d with config := { d.config with enabled, expireInterval } }

end Environment

/-- What finds the settings in a text; `none` if there are none in it. -/
abbrev DocumentReader := String → Option ConfigDocument

namespace ConfigDocument

/-- The path that stands for the settings that hold without a file. -/
def noFile : String := "USE_DEFAULT_CONFIGURATION"

/-- The document, if it passes the check. -/
def checked (d : ConfigDocument) : Except LoadError ConfigDocument :=
  match d.check with
  | .ok () => .ok d
  | .error e => .error (.refused e)

/-- The settings in a file. -/
def ofFile (parse : DocumentReader) (read : String → File) (path : String) :
    Except LoadError ConfigDocument :=
  match read path with
  | .missing => .error (.missing path)
  | .unreadable => .error .unreadable
  | .text content =>
      match parse content with
      | some d => d.checked
      | none => .error .malformed

/-- The settings that hold: from the file at `path`, or if that is blank, from the one that the
    environment names, or else without a file. What the file holds has to pass the check before the
    environment changes it, and again afterwards. -/
def load (parse : DocumentReader) (read : String → File) (env : Environment) (path : String) :
    Except LoadError ConfigDocument := do
  let path := if Text.isBlank path then env.path.getD noFile else path
  let d ← if path = noFile then pure {} else ofFile parse read path
  let d ← env.override d
  d.checked

end ConfigDocument

end CircuitBreaker

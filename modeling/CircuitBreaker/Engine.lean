import CircuitBreaker.CircuitCache
import CircuitBreaker.Config
import CircuitBreaker.Resolution
import CircuitBreaker.RuleSource

/-!
# `CircuitBreaker.Engine` — the circuits of all resources

An engine takes in the outcomes of calls, keeps a circuit for every resource that a rule governs,
and says which calls may be sent. It reads no clock: every operation is told the time.

An operation that moves circuits tells the listeners. One that fails ends the operation, except in
`tick`; what was moved up to then stays moved.

## Contents
- `EngineSetup`, `Engine`, `Engine.build?`: the state.
- `Reply`: what came of an operation.
- `Engine.report`: an outcome.
- `Engine.statusOf`, `Engine.acquire`: questions.
- `Engine.load`, `Engine.clear`, `Engine.ruleChanged`: changes of rules.
- `Engine.tick`, `Engine.cleanup`, `Engine.period`: the passing of time.
- `Engine.destroy`: the end.
-/

namespace CircuitBreaker

/-- What an engine is made of. -/
structure EngineSetup where
  config : Config := {}
  precedence : Precedence := .firstMatch
  listeners : List Listener := []
  compile : Compiler
  source : RuleSource

/-- The circuits of all resources and what they depend on. -/
structure Engine extends EngineSetup where
  /-- The compiled patterns that are kept. -/
  patterns : PatternCache
  cache : CircuitCache := {}
  /-- When idle resources were last looked for. -/
  lastSweep : Nat
  isDestroyed : Bool := false

/-- What came of an operation. -/
structure Reply (α : Type) where
  engine : Engine
  /-- The answer, or the message of the listener that failed. -/
  result : Except String α
  /-- What the listeners left behind. -/
  notices : List Notice := []

/-- Whether a call may be sent, and if not, the rule in its way and what to answer with. -/
structure Permission where
  granted : Bool := true
  rule : String := ""
  fallback : Option Response := none
deriving DecidableEq, Repr

namespace Permission

/-- The call must not be sent. -/
def refused (rule : String) (fallback : Option Response) : Permission :=
  { granted := false, rule, fallback }

end Permission

namespace Engine

/-- A new engine, at a time. -/
def build? (s : EngineSetup) (now : Nat) : Except ConfigError Engine := do
  s.config.check
  return {
    toEngineSetup := s
    patterns := PatternCache.ofCapacity s.config.patternCapacity
    lastSweep := now }

/-- Whether the engine does its work. -/
def isActive (e : Engine) : Bool := e.config.enabled && !e.isDestroyed

/-- What the circuits of the engine have in common. -/
def settings (e : Engine) : CircuitSettings :=
  { buckets := e.config.bucketCount, probes := e.config.probes }

/-! ## Reports -/

/-- A circuit for a resource, from the rule that governs it for a caller. There is none if no rule
    does, if no block rule is in scope, or if a window cannot be made. -/
def newCircuit? (e : Engine) (r : Resource) (caller : Option ServiceKey) (now : Nat)
    (s : PatternCache × RuleSource) : Option Circuit × PatternCache × RuleSource :=
  let (patterns, source) := s
  match source.lookup r.key with
  | (none, source) => (none, patterns, source)
  | (some rules, source) =>
      match Resolution.resolve e.compile e.precedence r caller rules patterns with
      | (none, patterns) => (none, patterns, source)
      | (some rule, patterns) =>
          match rule.activeBlocks e.compile r patterns with
          | ([], patterns) => (none, patterns, source)
          | (blocks, patterns) =>
              let (circuit, patterns) :=
                Circuit.build? e.compile e.settings r rule blocks now patterns
              (circuit.toOption, patterns, source)

/-- Put a circuit back after an operation on it, then tell the listeners of the change. The answer
    is whether there was one. -/
def settle (e : Engine) (circuit : Circuit) (change : Option Transition) : Reply Bool :=
  let delivery := deliverAny e.listeners change
  { engine := { e with cache := e.cache.put circuit.resource circuit }
    result := match delivery.fault with
      | some message => .error message
      | none => .ok change.isSome
    notices := delivery.notices }

/-- A call came back. The answer is whether that moved a circuit. -/
def report (e : Engine) (o : Outcome) (now : Nat) : Reply Bool :=
  if e.isActive then
    let (cache, _, patterns, source) :=
      e.cache.fetch o.resource now (e.newCircuit? o.resource o.caller now) (e.patterns, e.source)
    let e := { e with cache, patterns, source }
    match e.cache.circuit? o.resource with
    | some circuit =>
        let (circuit, change) := circuit.report o now
        e.settle circuit change
    | none => { engine := e, result := .ok false }
  else
    { engine := e, result := .ok false }

/-- A call came back, at the time that its outcome says, or now if that lies ahead. -/
def reportSeen (e : Engine) (o : Outcome) (now : Nat) : Reply Bool := e.report o (min o.timestamp now)

/-! ## Questions -/

/-- The circuits that guard a resource: its own and those of its parents. -/
def guards (e : Engine) (r : Resource) : List Circuit :=
  (r :: r.parents).filterMap e.cache.circuit?

/-- The status of the nearest circuit that guards a resource. -/
def statusOf (e : Engine) (r : Resource) : Status :=
  if e.isActive then
    match e.guards r with
    | c :: _ => c.currentStatus
    | [] => .untracked
  else
    .untracked

/-- Look at the circuit of a resource as time passes. -/
def evaluate (e : Engine) (r : Resource) (now : Nat) : Reply Bool :=
  match e.cache.circuit? r with
  | some circuit =>
      let (circuit, change) := circuit.evaluate now
      e.settle circuit change
  | none => { engine := e, result := .ok false }

/-- Look at the open circuits of some resources, which may have slept long enough. -/
def wake (e : Engine) (now : Nat) : List Resource → Reply Unit
  | [] => { engine := e, result := .ok () }
  | r :: rest =>
      if (e.cache.circuit? r).any fun c => c.phase == .opened then
        match e.evaluate r now with
        | { engine, result := .error message, notices } =>
            { engine, result := .error message, notices }
        | { engine, result := .ok _, notices } =>
            let reply := engine.wake now rest
            { reply with notices := notices ++ reply.notices }
      else
        e.wake now rest

/-- Give back the slots for trial calls that were taken for some resources. -/
def giveBack (cache : CircuitCache) (taken : List Resource) : CircuitCache :=
  taken.foldl (fun cache r =>
    match cache.circuit? r with
    | some c => cache.put r c.releaseProbe
    | none => cache) cache

/-- Take a slot in every half-open circuit of some resources. The first circuit without a free one
    refuses the call, and the slots taken up to then are given back. -/
def takeSlots (cache : CircuitCache) (taken : List Resource) :
    List Resource → CircuitCache × Permission
  | [] => (cache, {})
  | r :: rest =>
      match cache.circuit? r with
      | none => takeSlots cache taken rest
      | some c =>
          if c.phase = .halfOpen then
            match c.acquireProbe? with
            | some c => takeSlots (cache.put r c) (taken ++ [r]) rest
            | none => (giveBack cache taken, .refused c.rule.name c.rule.fallback?)
          else
            takeSlots cache taken rest

/-- Whether a call to a resource may be sent: every circuit that guards it has to admit the call,
    and a half-open one admits it as one of its trial calls. -/
def acquire (e : Engine) (r : Resource) (now : Nat) : Reply Permission :=
  if e.isActive then
    match e.wake now (r :: r.parents) with
    | { engine, result := .error message, notices } => { engine, result := .error message, notices }
    | { engine := e, result := .ok (), notices } =>
        -- no slot is taken before it is clear that none of the circuits is open
        match (e.guards r).find? fun c => c.phase == .opened with
        | some c =>
            { engine := e, result := .ok (.refused c.status.rule c.status.fallback), notices }
        | none =>
            let (cache, permission) := takeSlots e.cache [] (r :: r.parents)
            { engine := { e with cache }, result := .ok permission, notices }
  else
    { engine := e, result := .ok {} }

/-! ## Changes of rules -/

/-- Forget the circuits of a service, whose rules have changed. The answer counts the entries. -/
def ruleChanged (e : Engine) (service : ServiceKey) : Engine × Nat :=
  if e.isDestroyed then
    (e, 0)
  else
    let (cache, count) := e.cache.removeService service
    ({ e with cache }, count)

/-- The engine after a change in its rule source, of which it hears if it subscribed. -/
def hear (e : Engine) (change : Option RuleChange) : Engine × Bool :=
  match change with
  | some change => (if e.source.isSubscribed then (e.ruleChanged change.service).1 else e, true)
  | none => (e, false)

/-- Load rules into the rule source of the engine. The answer is whether that changed any. -/
def load (e : Engine) (service : ServiceKey) (rules : List Rule) : Engine × Bool :=
  let (source, change) := e.source.load service rules
  { e with source }.hear change

/-- Remove the rules of a service from the rule source of the engine. The answer is whether there
    were any. -/
def clear (e : Engine) (service : ServiceKey) : Engine × Bool :=
  let (source, change) := e.source.clear service
  { e with source }.hear change

/-! ## The passing of time -/

/-- How often idle resources are looked for, at least. -/
def longestSweepPeriod : Nat := 1000

/-- How often circuits are looked at, at least. -/
def longestPeriod : Nat := 1000

/-- How often circuits are looked at, at most. -/
def shortestPeriod : Nat := 10

/-- How often idle resources are looked for. -/
def sweepPeriod (e : Engine) : Nat := min e.config.expireInterval longestSweepPeriod

/-- The time until the next tick: as the settings say, or the width of the narrowest bucket. -/
def period (e : Engine) : Nat :=
  let wanted :=
    if e.config.checkPeriod = 0 then
      min ((e.cache.tracked.filterMap Circuit.preferredTick?).min?.getD longestPeriod) longestPeriod
    else
      e.config.checkPeriod
  max (min wanted e.sweepPeriod) shortestPeriod

/-- Forget the resources that were not needed for the expiry interval. -/
def sweep (e : Engine) (now : Nat) : Engine × Nat :=
  let (cache, count) := e.cache.expire now e.config.expireInterval
  ({ e with cache }, count)

/-- Forget idle resources, on demand. The answer counts the entries. -/
def cleanup (e : Engine) (now : Nat) : Engine × Nat := if e.isDestroyed then (e, 0) else e.sweep now

/-- Look at the circuits of some resources. A listener that fails over one of them does not keep the
    others from their turn. -/
def evaluateAll (e : Engine) (now : Nat) : List Resource → Engine × List Notice
  | [] => (e, [])
  | r :: rest =>
      let reply := e.evaluate r now
      let (e, notices) := reply.engine.evaluateAll now rest
      (e, reply.notices ++ notices)

/-- Forget idle resources if it is time for that. -/
def sweepIfDue (e : Engine) (now : Nat) : Engine :=
  if Clock.after e.lastSweep e.sweepPeriod ≤ now then ({ e with lastSweep := now }.sweep now).1
  else e

/-- Time has passed: look at every circuit, in the given order, then forget idle resources. -/
def tickAlong (e : Engine) (order : List Resource) (now : Nat) : Engine × List Notice :=
  if e.isActive then
    let (e, notices) := e.evaluateAll now order
    (e.sweepIfDue now, notices)
  else
    (e, [])

/-- Time has passed. -/
def tick (e : Engine) (now : Nat) : Engine × List Notice := e.tickAlong e.cache.trackedResources now

/-! ## The end -/

/-- Destroy every circuit. From then on nothing is tracked. -/
def destroy (e : Engine) : Engine :=
  if e.isDestroyed then e else { e with isDestroyed := true, cache := e.cache.clear }

/-- The number of resources that are known. -/
def resourceCount (e : Engine) : Nat := e.cache.size

end Engine

end CircuitBreaker

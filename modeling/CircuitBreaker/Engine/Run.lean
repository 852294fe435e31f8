import CircuitBreaker.Engine

/-!
# `CircuitBreaker.Engine.Run` — sequences of operations on an engine

## Contents
- `Engine.Op`, `Engine.Answer`: the operations and what they answer.
- `Engine.step`, `Engine.run`: one operation, and several.
-/

namespace CircuitBreaker.Engine

/-- The operations on an engine. -/
inductive Op where
  | report (o : Outcome) (now : Nat)
  /-- A report at the time that the outcome says. -/
  | reportSeen (o : Outcome) (now : Nat)
  | check (r : Resource)
  | acquire (r : Resource) (now : Nat)
  | tick (now : Nat)
  | cleanup (now : Nat)
  | ruleChanged (service : ServiceKey)
  | load (service : ServiceKey) (rules : List Rule)
  | clear (service : ServiceKey)
  | destroy
deriving Repr

/-- What an operation answers. -/
inductive Answer where
  | nothing
  /-- Whether something was changed. -/
  | changed (yes : Bool)
  | status (s : Status)
  | permission (p : Permission)
  /-- How many entries were removed. -/
  | removed (count : Nat)
  /-- No answer: a listener failed. -/
  | fault (message : String)
deriving DecidableEq, Repr

/-- The answer of a reply. -/
def Answer.ofReply {α : Type} (answer : α → Answer) (r : Reply α) : Engine × Answer × List Notice :=
  match r.result with
  | .ok a => (r.engine, answer a, r.notices)
  | .error message => (r.engine, .fault message, r.notices)

/-- One operation: the engine after it, the answer and what the listeners left behind. -/
def step (e : Engine) : Op → Engine × Answer × List Notice
  | .report o now => Answer.ofReply .changed (e.report o now)
  | .reportSeen o now => Answer.ofReply .changed (e.reportSeen o now)
  | .check r => (e, .status (e.statusOf r), [])
  | .acquire r now => Answer.ofReply .permission (e.acquire r now)
  | .tick now =>
      let (e, notices) := e.tick now
      (e, .nothing, notices)
  | .cleanup now =>
      let (e, count) := e.cleanup now
      (e, .removed count, [])
  | .ruleChanged service =>
      let (e, count) := e.ruleChanged service
      (e, .removed count, [])
  | .load service rules =>
      let (e, yes) := e.load service rules
      (e, .changed yes, [])
  | .clear service =>
      let (e, yes) := e.clear service
      (e, .changed yes, [])
  | .destroy => (e.destroy, .nothing, [])

/-- Operations one after the other, with the answer and the notices of each. -/
def run (e : Engine) : List Op → Engine × List (Answer × List Notice)
  | [] => (e, [])
  | op :: rest =>
      let (e, answer) := e.step op
      let (e, answers) := e.run rest
      (e, answer :: answers)

end CircuitBreaker.Engine

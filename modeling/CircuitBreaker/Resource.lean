/-!
# `CircuitBreaker.Resource` — what calls go to

A service inside a namespace, and the units of it that a circuit can guard.

## Contents
- `ServiceKey`: a service's identity, its text and its order.
- `Level`: how fine a guarded unit is.
- `Resource`: a service, one method of it, or one instance of it; its text, level and parents.
-/

namespace CircuitBreaker

/-- A service inside a namespace. -/
structure ServiceKey where
  realm : String
  name : String
deriving DecidableEq, Repr, Inhabited

namespace ServiceKey

/-- Namespace and service, with a slash between them. -/
def text (k : ServiceKey) : String := k.realm ++ "/" ++ k.name

/-- Keys are ordered by namespace, then by service, each by code points. -/
def order (a b : ServiceKey) : Ordering :=
  (compareOfLessAndEq a.realm b.realm).then (compareOfLessAndEq a.name b.name)

end ServiceKey

/-- How fine a guarded unit is. -/
inductive Level where
  | service
  | method
  | endpoint
deriving DecidableEq, Repr, Inhabited

namespace Level

/-- The name of the level; a service's endpoints are its instances. -/
def text : Level → String
  | service => "Service"
  | method => "Method"
  | endpoint => "Instance"

/-- The levels, coarsest first. -/
def all : List Level := [service, method, endpoint]

end Level

/-- A unit that a circuit can guard. -/
inductive Resource where
  /-- A whole service. -/
  | service (key : ServiceKey)
  /-- One method of a service, named by its path. -/
  | method (key : ServiceKey) (path : String)
  /-- One instance of a service, at a host and port. -/
  | endpoint (key : ServiceKey) (host : String) (port : Nat)
deriving DecidableEq, Repr, Inhabited

namespace Resource

/-- The level that the resource belongs to. -/
def level : Resource → Level
  | service _ => .service
  | method _ _ => .method
  | endpoint _ _ _ => .endpoint

/-- The service that the resource is, or is part of. -/
def key : Resource → ServiceKey
  | service k => k
  | method k _ => k
  | endpoint k _ _ => k

/-- The path of a method. -/
def path? : Resource → Option String
  | method _ p => some p
  | _ => none

/-- The coarser resources whose circuits guard this one too, finest first. -/
def parents : Resource → List Resource
  | service _ => []
  | method k _ => [service k]
  | endpoint k _ _ => [service k]

/-- Level, service, and what tells the resource from others of its service. -/
def text : Resource → String
  | service k => "service(" ++ k.text ++ ")"
  | method k p => "method(" ++ k.text ++ "#" ++ p ++ ")"
  | endpoint k h p => "instance(" ++ k.text ++ "@" ++ h ++ ":" ++ toString p ++ ")"

theorem key_of_mem_parents {r p : Resource} (h : p ∈ r.parents) : p.key = r.key := by
  cases r <;> simp_all [parents, key]

theorem level_of_mem_parents {r p : Resource} (h : p ∈ r.parents) : p.level = .service := by
  cases r <;> simp_all [parents, level]

end Resource

end CircuitBreaker

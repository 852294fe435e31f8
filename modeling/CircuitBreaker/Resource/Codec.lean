import CircuitBreaker.Json.Record
import CircuitBreaker.Resource

/-!
# `CircuitBreaker.Resource.Codec` — resources as JSON

A resource is an object with one member, named for its level, around its fields.

## Contents
- `ServiceKey.toJson`, `ServiceKey.ofJson?`.
- `Level.toJson`, `Level.ofJson?`.
- `Resource.toJson`, `Resource.ofJson?`.
-/

namespace CircuitBreaker

namespace ServiceKey

/-- The fields of a service key. -/
def fieldNames : List String := ["namespace", "service"]

/-- A service key as JSON. -/
def toJson (k : ServiceKey) : Json :=
  .record [("namespace", .str k.realm), ("service", .str k.name)]

/-- The service key that a value stands for. -/
def ofJson? (j : Json) : Option ServiceKey :=
  match j.fields? false fieldNames with
  | some [realm, name] => do
      let realm ← Json.need Json.toStr? realm
      let name ← Json.need Json.toStr? name
      some { realm, name }
  | _ => none

end ServiceKey

namespace Level

/-- A level as JSON. -/
def toJson (l : Level) : Json := .str l.text

/-- The level that a value names. -/
def ofJson? (j : Json) : Option Level := j.toName? all text

end Level

namespace Resource

/-- The fields of a resource, as JSON. -/
def fieldsJson : Resource → Json
  | service k => .record [("service", k.toJson)]
  | method k p => .record [("service", k.toJson), ("path", .str p)]
  | endpoint k h p => .record [("service", k.toJson), ("host", .str h), ("port", .nat p)]

/-- A resource as JSON. -/
def toJson (r : Resource) : Json := .record [(r.level.text, r.fieldsJson)]

/-- The resource of a level whose fields a value holds. -/
def ofFields? (level : Level) (j : Json) : Option Resource :=
  match level with
  | .service =>
      match j.fields? false ["service"] with
      | some [key] => do
          let key ← Json.need ServiceKey.ofJson? key
          some (service key)
      | _ => none
  | .method =>
      match j.fields? false ["service", "path"] with
      | some [key, path] => do
          let key ← Json.need ServiceKey.ofJson? key
          let path ← Json.need Json.toStr? path
          some (method key path)
      | _ => none
  | .endpoint =>
      match j.fields? false ["service", "host", "port"] with
      | some [key, host, port] => do
          let key ← Json.need ServiceKey.ofJson? key
          let host ← Json.need Json.toStr? host
          let port ← Json.need (Json.toNat? Json.limit32) port
          some (endpoint key host port)
      | _ => none

/-- The resource that a value stands for. -/
def ofJson? : Json → Option Resource
  | .object [(some kind, j)] =>
      match Level.all.find? fun l => l.text == kind with
      | some level => ofFields? level j
      | none => none
  | _ => none

end Resource

end CircuitBreaker

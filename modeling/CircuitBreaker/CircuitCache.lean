import CircuitBreaker.Circuit

/-!
# `CircuitBreaker.CircuitCache` — the circuits in use

One circuit is kept for each resource that is called, or the note that no rule applies to it. There
is one table for each level. Whatever leaves the tables is destroyed; the circuits that left are
remembered with the serial numbers under which they were built.

## Contents
- `Slot`, `CacheEntry`, `CircuitCache`: the tables.
- `level`, `entries`, `find?`, `circuit?`, `size`, `tracked`: looking at them.
- `fetch`, `put`: adding and changing.
- `removeWhere`, `removeService`, `expire`, `clear`: removing.
- `lives`: what became of every circuit ever built.
-/

namespace CircuitBreaker

/-- What is known about a resource. -/
inductive Slot where
  /-- No rule applies to it. -/
  | notConfigured
  /-- It has a circuit, the `serial`-th that was built. -/
  | tracking (serial : Nat) (circuit : Circuit)
deriving Repr

namespace Slot

/-- The circuit, if there is one. -/
def circuit? : Slot → Option Circuit
  | notConfigured => none
  | tracking _ c => some c

end Slot

/-- What is known about one resource, and when it was last needed. -/
structure CacheEntry where
  resource : Resource
  slot : Slot
  lastAccess : Nat
deriving Repr

/-- The tables, one for each level. -/
structure CircuitCache where
  services : List CacheEntry := []
  methods : List CacheEntry := []
  endpoints : List CacheEntry := []
  /-- How many circuits were built. -/
  built : Nat := 0
  /-- The circuits that left, with their serial numbers. -/
  retired : List (Nat × Circuit) := []
deriving Repr

namespace CircuitCache

/-- The table of a level. -/
def level (c : CircuitCache) : Level → List CacheEntry
  | .service => c.services
  | .method => c.methods
  | .endpoint => c.endpoints

/-- The cache with the table of a level changed. -/
def mapLevel (f : List CacheEntry → List CacheEntry) (c : CircuitCache) : Level → CircuitCache
  | .service => { c with services := f c.services }
  | .method => { c with methods := f c.methods }
  | .endpoint => { c with endpoints := f c.endpoints }

/-- All entries, coarsest level first. -/
def entries (c : CircuitCache) : List CacheEntry := c.services ++ c.methods ++ c.endpoints

/-- The number of entries. -/
def size (c : CircuitCache) : Nat := c.services.length + c.methods.length + c.endpoints.length

/-- The entry of a resource, in the table of its level. -/
def find? (c : CircuitCache) (r : Resource) : Option CacheEntry :=
  (c.level r.level).find? fun e => e.resource == r

/-- The circuit of a resource. -/
def circuit? (c : CircuitCache) (r : Resource) : Option Circuit :=
  (c.find? r).bind fun e => e.slot.circuit?

/-- The circuits in use. -/
def tracked (c : CircuitCache) : List Circuit := c.entries.filterMap fun e => e.slot.circuit?

/-- The resources with a circuit. -/
def trackedResources (c : CircuitCache) : List Resource :=
  (c.entries.filter fun e => e.slot.circuit?.isSome).map fun e => e.resource

/-- Change the entry of a resource. -/
def update (c : CircuitCache) (r : Resource) (f : CacheEntry → CacheEntry) : CircuitCache :=
  c.mapLevel (fun es => es.map fun e => if e.resource = r then f e else e) r.level

/-- Note that a resource was needed at a time. -/
def touch (c : CircuitCache) (r : Resource) (now : Nat) : CircuitCache :=
  c.update r fun e => { e with lastAccess := max e.lastAccess now }

/-- Put a circuit in the place of the one that a resource has. -/
def put (c : CircuitCache) (r : Resource) (circuit : Circuit) : CircuitCache :=
  c.update r fun e =>
    match e.slot with
    | .notConfigured => e
    | .tracking serial _ => { e with slot := .tracking serial circuit }

/-- Add an entry for a resource that has none: for a circuit just built, or for no circuit. -/
def insert (c : CircuitCache) (r : Resource) (now : Nat) (circuit : Option Circuit) :
    CircuitCache :=
  match circuit with
  | some circuit =>
      let added := c.mapLevel
        (fun es => es ++ [{ resource := r, slot := .tracking c.built circuit, lastAccess := now }])
        r.level
      { added with built := c.built + 1 }
  | none =>
      c.mapLevel (fun es => es ++ [{ resource := r, slot := .notConfigured, lastAccess := now }])
        r.level

/-- Find what is known about a resource. Only for a resource that has no entry a circuit is made, if
    one can be; an entry that is there is noted as needed. -/
def fetch {σ : Type} (c : CircuitCache) (r : Resource) (now : Nat)
    (make : σ → Option Circuit × σ) (s : σ) : CircuitCache × Bool × σ :=
  match c.find? r with
  | some _ => (c.touch r now, false, s)
  | none =>
      let (circuit, s) := make s
      (c.insert r now circuit, true, s)

/-- The circuits of some entries, destroyed. -/
def retire (es : List CacheEntry) : List (Nat × Circuit) :=
  es.filterMap fun e =>
    match e.slot with
    | .notConfigured => none
    | .tracking serial circuit => some (serial, circuit.destroy)

/-- Remove and destroy the entries that a condition holds of, and count them. -/
def removeWhere (c : CircuitCache) (gone : CacheEntry → Bool) : CircuitCache × Nat :=
  let leaving := c.entries.filter gone
  let stay (es : List CacheEntry) := es.filter fun e => !gone e
  ({ c with
      services := stay c.services
      methods := stay c.methods
      endpoints := stay c.endpoints
      retired := c.retired ++ retire leaving },
    leaving.length)

/-- Remove everything that belongs to a service. -/
def removeService (c : CircuitCache) (service : ServiceKey) : CircuitCache × Nat :=
  c.removeWhere fun e => e.resource.key == service

/-- Remove everything that was not needed for longer than `ttl` milliseconds. -/
def expire (c : CircuitCache) (now ttl : Nat) : CircuitCache × Nat :=
  c.removeWhere fun e => decide (ttl < now - e.lastAccess)

/-- Remove everything. -/
def clear (c : CircuitCache) : CircuitCache := (c.removeWhere fun _ => true).1

/-- Every circuit ever built, with its serial number: those in use and those that left. -/
def lives (c : CircuitCache) : List (Nat × Circuit) :=
  (c.entries.filterMap fun e =>
    match e.slot with
    | .notConfigured => none
    | .tracking serial circuit => some (serial, circuit)) ++ c.retired

/-- Whether the circuit with a serial number is out of use; one never built is not. -/
def isRetired (c : CircuitCache) (serial : Nat) : Bool :=
  (c.lives.find? fun l => l.1 == serial).any fun l => l.2.isDestroyed

end CircuitCache

end CircuitBreaker

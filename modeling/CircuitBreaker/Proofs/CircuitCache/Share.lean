import CircuitBreaker.Proofs.Circuit.Bare
import CircuitBreaker.Proofs.CircuitCache.InPlace

/-!
# `Proofs.CircuitCache.Share` — what a cache holds of one service

The tables are shared by all services. The **share** of a service in a table is the list of its entries
there, in order, with the book-keeping taken away: the serial numbers of the circuits, which count those
of all services, and the revisions of their rules.

Each operation is read off the shares. On a resource of the service it does to the share what it does to
the table (`share_mapCircuits`, `share_touch`, `share_insert`, `share_removeWhere`); on a resource of
another service it leaves the share alone. Two caches are **alike** for a service if its shares are the
same, and then what they know about its resources is the same (`Alike.find?`, `Alike.circuit?`), in the
same order (`Alike.trackedResources`).
-/

namespace CircuitBreaker

namespace Slot

/-- What is known about a resource, without serial number and revision. -/
def bare : Slot → Slot
  | notConfigured => notConfigured
  | tracking _ c => tracking 0 c.bare

@[simp]
theorem circuit?_bare (s : Slot) : s.bare.circuit? = s.circuit?.map Circuit.bare := by
  cases s <;> rfl

theorem bare_ofCircuit? (serial : Nat) (made : Option Circuit) :
    (ofCircuit? serial made).bare = ofCircuit? 0 (made.map Circuit.bare) := by
  cases made <;> rfl

end Slot

namespace CacheEntry

/-- The entry without serial number and revision. -/
def bare (e : CacheEntry) : CacheEntry := { e with slot := e.slot.bare }

@[simp]
theorem resource_bare (e : CacheEntry) : e.bare.resource = e.resource := rfl

/-- A change that does not depend on the revision is one of what is there without it. -/
theorem bare_mapCircuit {f : Circuit → Circuit} (hf : ∀ c, (f c).bare = f c.bare) (e : CacheEntry) :
    (e.mapCircuit f).bare = e.bare.mapCircuit f := by
  cases e with
  | mk resource slot lastAccess =>
      cases slot with
      | notConfigured => rfl
      | tracking serial c =>
          unfold bare mapCircuit Slot.mapCircuit Slot.bare
          simp only [hf]

end CacheEntry

namespace CircuitCache

variable {c d : CircuitCache} {r : Resource} {service : ServiceKey} {l : Level} {now : Nat}

/-- The entries of a service in the table of a level. -/
def share (c : CircuitCache) (service : ServiceKey) (l : Level) : List CacheEntry :=
  ((c.level l).filter fun e => e.resource.key == service).map CacheEntry.bare

theorem key_of_mem_share {e : CacheEntry} (he : e ∈ c.share service l) : e.resource.key = service := by
  obtain ⟨x, hx, rfl⟩ := List.mem_map.mp he
  exact beq_iff_eq.mp (List.mem_filter.mp hx).2

/-! ## What operations do to a share -/

/-- Changing every entry of the tables where it stands. -/
theorem share_of_level_map {f g : CacheEntry → CacheEntry}
    (hlevel : d.level l = (c.level l).map f) (hf : ∀ e, (f e).resource = e.resource)
    (hfg : ∀ e, e.resource.key = service → (f e).bare = g e.bare) :
    d.share service l = (c.share service l).map g := by
  have hkey : (fun e : CacheEntry => e.resource.key == service) ∘ f =
      fun e => e.resource.key == service := funext fun e => by rw [Function.comp_apply, hf]
  unfold share
  rw [hlevel, List.filter_map, hkey, List.map_map, List.map_map]
  exact List.map_congr_left fun e he => hfg e (beq_iff_eq.mp (List.mem_filter.mp he).2)

/-- **A change of circuits** that does not depend on revisions is one of the share. -/
theorem share_mapCircuits {f : Resource → Circuit → Circuit}
    (hf : ∀ r, r.key = service → ∀ x, (f r x).bare = f r x.bare) :
    (c.mapCircuits f).share service l =
      (c.share service l).map fun e => e.mapCircuit (f e.resource) :=
  share_of_level_map (level_mapCircuits f c l) (fun _ => rfl) fun e he =>
    CacheEntry.bare_mapCircuit (hf e.resource he) e

/-- A change of the circuits of other services does not show. -/
theorem share_mapCircuits_of_other {f : Resource → Circuit → Circuit}
    (hf : ∀ r, r.key = service → ∀ x, f r x = x) :
    (c.mapCircuits f).share service l = c.share service l := by
  have hsame : (c.mapCircuits f).share service l = (c.share service l).map id := by
    refine share_of_level_map (level_mapCircuits f c l) (fun _ => rfl) fun e he => ?_
    have hid : f e.resource = fun x => x := funext (hf e.resource he)
    rw [hid]
    unfold CacheEntry.mapCircuit
    rw [Slot.mapCircuit_id]
    rfl
  rw [hsame, List.map_id]

/-- Touching a resource is touching it in the share. -/
theorem share_touch (h : c.IsTidy) (r : Resource) (now : Nat) :
    (c.touch r now).share service l = (c.share service l).map fun e =>
      if e.resource = r then { e with lastAccess := max e.lastAccess now } else e := by
  refine share_of_level_map (level_update h.isPlaced _ l) (fun e => ?_) fun e _ => ?_
  · split <;> rfl
  · by_cases he : e.resource = r
    · rw [if_pos he, if_pos (show e.bare.resource = r from he)]
      rfl
    · rw [if_neg he, if_neg (show ¬e.bare.resource = r from he)]

/-- Touching a resource of another service does not show. -/
theorem share_touch_of_other (h : c.IsTidy) (hr : r.key ≠ service) :
    (c.touch r now).share service l = c.share service l := by
  rw [share_touch h]
  refine (List.map_congr_left (g := id) fun e he => if_neg ?_).trans (List.map_id _)
  intro her
  exact hr (her ▸ key_of_mem_share he)

/-- A new entry comes last in its table. -/
theorem share_insert (made : Option Circuit) :
    (c.insert r now made).share service l =
      if l = r.level ∧ r.key = service then
        c.share service l ++
          [{ resource := r, slot := .ofCircuit? 0 (made.map Circuit.bare), lastAccess := now }]
      else c.share service l := by
  unfold share
  rw [level_insert]
  by_cases hl : l = r.level
  · rw [if_pos hl, List.filter_append, List.map_append]
    by_cases hr : r.key = service
    · rw [if_pos ⟨hl, hr⟩]
      simp [added, hr, CacheEntry.bare, Slot.bare_ofCircuit?]
    · rw [if_neg fun h => hr h.2]
      simp [added, hr]
  · rw [if_neg hl, if_neg fun h => hl h.1]

/-- **Removing entries** removes them from the share. -/
theorem share_removeWhere {gone : CacheEntry → Bool} (hgone : ∀ e, gone e.bare = gone e) :
    (c.removeWhere gone).1.share service l = (c.share service l).filter fun e => !gone e := by
  have hbare : (fun e => !gone e) ∘ CacheEntry.bare = fun e => !gone e :=
    funext fun e => by rw [Function.comp_apply, hgone]
  unfold share
  rw [level_removeWhere, List.filter_map, hbare, List.filter_filter, List.filter_filter]
  congr 2
  funext e
  exact Bool.and_comm _ _

/-- Removing another service does not show. -/
theorem share_removeService_of_other {other : ServiceKey} (h : other ≠ service) :
    (c.removeService other).1.share service l = c.share service l := by
  unfold removeService
  rw [share_removeWhere fun _ => rfl]
  refine List.filter_eq_self.mpr fun e he => ?_
  rw [key_of_mem_share he]
  simpa using h.symm

/-! ## Caches that are alike -/

/-- **Two caches are alike for a service** if its share is the same in all tables. -/
def Alike (service : ServiceKey) (c d : CircuitCache) : Prop :=
  ∀ l, c.share service l = d.share service l

theorem Alike.mapCircuits (h : Alike service c d) {f : Resource → Circuit → Circuit}
    (hf : ∀ r, r.key = service → ∀ x, (f r x).bare = f r x.bare) :
    Alike service (c.mapCircuits f) (d.mapCircuits f) := fun l => by
  rw [share_mapCircuits hf, share_mapCircuits hf, h l]

theorem Alike.touch (h : Alike service c d) (hc : c.IsTidy) (hd : d.IsTidy) (r : Resource)
    (now : Nat) : Alike service (c.touch r now) (d.touch r now) := fun l => by
  rw [share_touch hc, share_touch hd, h l]

theorem Alike.insert (h : Alike service c d) (r : Resource) (now : Nat)
    {made remade : Option Circuit} (hmade : made.map Circuit.bare = remade.map Circuit.bare) :
    Alike service (c.insert r now made) (d.insert r now remade) := fun l => by
  rw [share_insert, share_insert, h l, hmade]

theorem Alike.removeWhere (h : Alike service c d) {gone : CacheEntry → Bool}
    (hgone : ∀ e, gone e.bare = gone e) :
    Alike service (c.removeWhere gone).1 (d.removeWhere gone).1 := fun l => by
  rw [share_removeWhere hgone, share_removeWhere hgone, h l]

/-- The share of a service is where its resources are looked for. -/
theorem find?_share (hr : r.key = service) :
    (c.share service r.level).find? (fun e => e.resource == r) = (c.find? r).map CacheEntry.bare := by
  unfold share CircuitCache.find?
  rw [List.find?_map, List.find?_filter]
  congr 1
  refine congrArg (fun p => List.find? p (c.level r.level)) (funext fun e => ?_)
  by_cases he : e.resource = r
  · simp [he, hr]
  · simp [he]

theorem Alike.find? (h : Alike service c d) (hr : r.key = service) :
    (c.find? r).map CacheEntry.bare = (d.find? r).map CacheEntry.bare := by
  rw [← find?_share hr, ← find?_share hr, h]

/-- **Alike caches have the same circuits** for the resources of the service. -/
theorem Alike.circuit? (h : Alike service c d) (hr : r.key = service) :
    (c.circuit? r).map Circuit.bare = (d.circuit? r).map Circuit.bare := by
  have hcircuit (b : CircuitCache) : (b.circuit? r).map Circuit.bare =
      ((b.find? r).map CacheEntry.bare).bind fun e => e.slot.circuit? := by
    unfold CircuitCache.circuit?
    cases b.find? r with
    | none => rfl
    | some e => exact (Slot.circuit?_bare e.slot).symm
  rw [hcircuit, hcircuit, h.find? hr]

theorem Alike.entries (h : Alike service c d) :
    (c.entries.filter fun e => e.resource.key == service).map CacheEntry.bare =
      (d.entries.filter fun e => e.resource.key == service).map CacheEntry.bare := by
  have hshares (b : CircuitCache) :
      (b.entries.filter fun e => e.resource.key == service).map CacheEntry.bare =
        b.share service .service ++ b.share service .method ++ b.share service .endpoint := by
    unfold CircuitCache.entries
    rw [List.filter_append, List.filter_append, List.map_append, List.map_append]
    rfl
  rw [hshares, hshares, h, h, h]

/-- Alike caches lose as many entries with the service. -/
theorem Alike.removeService (h : Alike service c d) :
    (c.removeService service).2 = (d.removeService service).2 := by
  have hcount (b : CircuitCache) : (b.removeService service).2 =
      ((b.entries.filter fun e => e.resource.key == service).map CacheEntry.bare).length := by
    rw [List.length_map]
    rfl
  rw [hcount, hcount, h.entries]

/-- **Alike caches track the same resources** of the service, in the same order. -/
theorem Alike.trackedResources (h : Alike service c d) :
    (c.trackedResources.filter fun r => r.key == service) =
      d.trackedResources.filter fun r => r.key == service := by
  have htracked (b : CircuitCache) : (b.trackedResources.filter fun r => r.key == service) =
      (((b.entries.filter fun e => e.resource.key == service).map CacheEntry.bare).filter
        fun e => e.slot.circuit?.isSome).map fun e => e.resource := by
    have hbare : (fun e : CacheEntry => e.slot.circuit?.isSome) ∘ CacheEntry.bare =
        fun e => e.slot.circuit?.isSome := by
      funext e
      simp [CacheEntry.bare]
    unfold CircuitCache.trackedResources
    rw [List.filter_map, List.filter_map, hbare, List.map_map, List.filter_filter,
      List.filter_filter]
    refine congrArg (List.map fun e : CacheEntry => e.resource) ?_
    congr 1
    funext e
    exact Bool.and_comm _ _
  rw [htracked, htracked, h.entries]

end CircuitCache

end CircuitBreaker

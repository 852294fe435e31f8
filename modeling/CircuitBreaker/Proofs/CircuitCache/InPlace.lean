import CircuitBreaker.Proofs.CircuitCache

/-!
# `Proofs.CircuitCache.InPlace` — what an operation does to a cache, entry by entry

Most operations of an engine leave the tables alone and change some of the circuits in them.
`mapCircuits f` says this exactly: it is the cache with the circuit of every resource changed by `f`,
and nothing else. Putting a circuit back is such a change (`put_eq_mapCircuits`), several of them are
one (`mapCircuits_mapCircuits`), and what a resource has after one is what it had before, changed
(`find?_mapCircuits`).

The other operations are read the same way, by what `find?` gives after them: touching and adding an
entry (`find?_touch`, `find?_insert`), and removing entries (`find?_removeWhere`).
-/

namespace CircuitBreaker

/-- What is known about a resource, with its circuit changed. -/
def Slot.mapCircuit (f : Circuit → Circuit) : Slot → Slot
  | .notConfigured => .notConfigured
  | .tracking serial c => .tracking serial (f c)

/-- The entry with its circuit changed. -/
def CacheEntry.mapCircuit (f : Circuit → Circuit) (e : CacheEntry) : CacheEntry :=
  { e with slot := e.slot.mapCircuit f }

/-- Two changes of the circuit are one. -/
theorem CacheEntry.mapCircuit_mapCircuit (f g : Circuit → Circuit) (e : CacheEntry) :
    (e.mapCircuit f).mapCircuit g = e.mapCircuit fun c => g (f c) := by
  cases e with
  | mk resource slot lastAccess => cases slot <;> rfl

namespace Slot

@[simp]
theorem circuit?_mapCircuit (f : Circuit → Circuit) (s : Slot) :
    (s.mapCircuit f).circuit? = s.circuit?.map f := by
  cases s <;> rfl

/-- Only what is done to the circuit that is there matters. -/
theorem mapCircuit_congr {f g : Circuit → Circuit} {s : Slot}
    (h : ∀ c, s.circuit? = some c → f c = g c) : s.mapCircuit f = s.mapCircuit g := by
  cases s with
  | notConfigured => rfl
  | tracking serial c => exact congrArg (tracking serial) (h c rfl)

@[simp]
theorem mapCircuit_id (s : Slot) : s.mapCircuit (fun c => c) = s := by cases s <;> rfl

end Slot

/-- A change of circuits that is one for some resources only. -/
def onAll (rs : List Resource) (f : Circuit → Circuit) (r : Resource) (c : Circuit) : Circuit :=
  if r ∈ rs then f c else c

theorem onAll_of_mem {rs : List Resource} {f : Circuit → Circuit} {r : Resource} (h : r ∈ rs) :
    onAll rs f r = f := by
  funext c
  exact if_pos h

theorem onAll_of_not_mem {rs : List Resource} {f : Circuit → Circuit} {r : Resource} (h : r ∉ rs)
    (c : Circuit) : onAll rs f r c = c :=
  if_neg h

/-- Changing the circuit of one more resource. -/
theorem onAll_cons {rs : List Resource} {r : Resource} (h : r ∉ rs) (f : Circuit → Circuit)
    (s : Resource) (c : Circuit) : onAll rs f s (onAll [r] f s c) = onAll (r :: rs) f s c := by
  by_cases hs : s = r
  · subst hs
    rw [onAll_of_mem List.mem_cons_self, onAll_of_mem List.mem_cons_self, onAll_of_not_mem h]
  · have hone : s ∉ [r] := fun hmem => hs (List.mem_singleton.mp hmem)
    rw [onAll_of_not_mem hone]
    unfold onAll
    simp [hs]

namespace CircuitCache

/-- The cache with the circuit of every resource changed. -/
def mapCircuits (f : Resource → Circuit → Circuit) (c : CircuitCache) : CircuitCache :=
  { c with
    services := c.services.map fun e => e.mapCircuit (f e.resource)
    methods := c.methods.map fun e => e.mapCircuit (f e.resource)
    endpoints := c.endpoints.map fun e => e.mapCircuit (f e.resource) }

variable {c d : CircuitCache} {r s : Resource} {f g : Resource → Circuit → Circuit}

/-- A cache is its tables, the number of circuits built and the circuits that left. -/
theorem eq_of_level (hlevel : ∀ l, c.level l = d.level l) (hbuilt : c.built = d.built)
    (hretired : c.retired = d.retired) : c = d := by
  have hs := hlevel .service
  have hm := hlevel .method
  have he := hlevel .endpoint
  cases c
  cases d
  simp only [level] at hs hm he
  subst hs hm he hbuilt hretired
  rfl

theorem level_mapCircuits (f : Resource → Circuit → Circuit) (c : CircuitCache) (l : Level) :
    (c.mapCircuits f).level l = (c.level l).map fun e => e.mapCircuit (f e.resource) := by
  cases l <;> rfl

theorem entries_mapCircuits (f : Resource → Circuit → Circuit) (c : CircuitCache) :
    (c.mapCircuits f).entries = c.entries.map fun e => e.mapCircuit (f e.resource) := by
  simp [entries, mapCircuits]

/-- **Two changes are one.** -/
theorem mapCircuits_mapCircuits (f g : Resource → Circuit → Circuit) (c : CircuitCache) :
    (c.mapCircuits f).mapCircuits g = c.mapCircuits fun r d => g r (f r d) := by
  refine eq_of_level (fun l => ?_) rfl rfl
  simp only [level_mapCircuits, List.map_map]
  exact List.map_congr_left fun e _ => CacheEntry.mapCircuit_mapCircuit _ _ e

/-- The circuit of an entry is the circuit of its resource. -/
theorem circuit?_of_mem (h : c.IsPlaced) {e : CacheEntry} (he : e ∈ c.entries) :
    c.circuit? e.resource = e.slot.circuit? := by
  unfold circuit?
  rw [(find?_eq_some_iff h).mpr ⟨he, rfl⟩]
  rfl

/-- **Two changes are the same** if they do the same to the circuits that are there. -/
theorem mapCircuits_congr (h : c.IsTidy) (hfg : ∀ r d, c.circuit? r = some d → f r d = g r d) :
    c.mapCircuits f = c.mapCircuits g := by
  refine eq_of_level (fun l => ?_) rfl rfl
  rw [level_mapCircuits, level_mapCircuits]
  refine List.map_congr_left fun e he => ?_
  have hslot : e.slot.mapCircuit (f e.resource) = e.slot.mapCircuit (g e.resource) := by
    refine Slot.mapCircuit_congr fun d hd => hfg e.resource d ?_
    rw [circuit?_of_mem h.isPlaced (mem_entries_iff.mpr ⟨l, he⟩), hd]
  unfold CacheEntry.mapCircuit
  rw [hslot]

/-- A change that changes no circuit is none. -/
theorem mapCircuits_eq_self (h : c.IsTidy) (hf : ∀ r d, c.circuit? r = some d → f r d = d) :
    c.mapCircuits f = c := by
  rw [mapCircuits_congr h hf]
  refine eq_of_level (fun l => ?_) rfl rfl
  rw [level_mapCircuits]
  refine (List.map_congr_left (g := id) fun e _ => ?_).trans (List.map_id _)
  unfold CacheEntry.mapCircuit
  rw [Slot.mapCircuit_id]
  rfl

/-! ## Changes of some resources -/

/-- No resource, no change. -/
theorem mapCircuits_onAll_nil (h : c.IsTidy) (f : Circuit → Circuit) :
    c.mapCircuits (onAll [] f) = c :=
  mapCircuits_eq_self h fun _ d _ => onAll_of_not_mem List.not_mem_nil d

/-- One resource, and then others, is all of them. -/
theorem mapCircuits_onAll_cons {rs : List Resource} (hr : r ∉ rs) (f : Circuit → Circuit) :
    (c.mapCircuits (onAll [r] f)).mapCircuits (onAll rs f) = c.mapCircuits (onAll (r :: rs) f) := by
  rw [mapCircuits_mapCircuits]
  congr 1
  funext s d
  exact onAll_cons hr f s d

/-- For one resource only what is done to its circuit matters. -/
theorem mapCircuits_onAll_singleton (h : c.IsTidy) {f g : Circuit → Circuit}
    (hfg : ∀ d, c.circuit? r = some d → f d = g d) :
    c.mapCircuits (onAll [r] f) = c.mapCircuits (onAll [r] g) := by
  refine mapCircuits_congr h fun s d hd => ?_
  by_cases hs : s = r
  · subst hs
    rw [onAll_of_mem List.mem_cons_self, onAll_of_mem List.mem_cons_self]
    exact hfg d hd
  · have hne : s ∉ [r] := fun hmem => hs (List.mem_singleton.mp hmem)
    rw [onAll_of_not_mem hne, onAll_of_not_mem hne]

/-- A change of one circuit that leaves it as it is changes nothing. -/
theorem mapCircuits_onAll_singleton_eq_self (h : c.IsTidy) {f : Circuit → Circuit}
    (hf : ∀ d, c.circuit? r = some d → f d = d) : c.mapCircuits (onAll [r] f) = c := by
  refine mapCircuits_eq_self h fun s d hd => ?_
  by_cases hs : s = r
  · subst hs
    rw [onAll_of_mem List.mem_cons_self]
    exact hf d hd
  · exact onAll_of_not_mem (fun hmem => hs (List.mem_singleton.mp hmem)) d

/-! ## Looking for an entry -/

/-- What a resource has after a change is what it had, changed. -/
theorem find?_mapCircuits (f : Resource → Circuit → Circuit) (c : CircuitCache) (r : Resource) :
    (c.mapCircuits f).find? r = (c.find? r).map (CacheEntry.mapCircuit (f r)) := by
  unfold find?
  rw [level_mapCircuits, List.find?_map]
  -- an entry that is found is one of `r`
  cases hfind : (c.level r.level).find? fun e => e.resource == r with
  | none =>
      have hnone : (c.level r.level).find?
          ((fun e : CacheEntry => e.resource == r) ∘ fun e => e.mapCircuit (f e.resource)) = none :=
        hfind
      rw [hnone]
      rfl
  | some e =>
      have hsome : (c.level r.level).find?
          ((fun e : CacheEntry => e.resource == r) ∘ fun e => e.mapCircuit (f e.resource)) =
            some e := hfind
      have hr : e.resource = r := by simpa using List.find?_some hfind
      rw [hsome, Option.map_some, Option.map_some, hr]

/-- A resource that is not named keeps its entry. -/
theorem find?_mapCircuits_of_not_mem {rs : List Resource} (hr : r ∉ rs) (f : Circuit → Circuit)
    (c : CircuitCache) : (c.mapCircuits (onAll rs f)).find? r = c.find? r := by
  have hid : onAll rs f r = fun d => d := funext fun d => onAll_of_not_mem hr d
  rw [find?_mapCircuits, hid]
  cases c.find? r with
  | none => rfl
  | some e => rw [Option.map_some, CacheEntry.mapCircuit, Slot.mapCircuit_id]

/-- The circuit of a resource that is named is changed. -/
theorem find?_mapCircuits_of_mem {rs : List Resource} (hr : r ∈ rs) (f : Circuit → Circuit)
    (c : CircuitCache) :
    (c.mapCircuits (onAll rs f)).find? r = (c.find? r).map (CacheEntry.mapCircuit f) := by
  rw [find?_mapCircuits, onAll_of_mem hr]

@[simp]
theorem circuit?_mapCircuits (f : Resource → Circuit → Circuit) (c : CircuitCache) (r : Resource) :
    (c.mapCircuits f).circuit? r = (c.circuit? r).map (f r) := by
  unfold circuit?
  rw [find?_mapCircuits]
  cases c.find? r with
  | none => rfl
  | some e => exact Slot.circuit?_mapCircuit (f r) e.slot

/-- A resource that is not named keeps its circuit. -/
theorem circuit?_mapCircuits_of_not_mem {rs : List Resource} (hr : r ∉ rs) (f : Circuit → Circuit)
    (c : CircuitCache) : (c.mapCircuits (onAll rs f)).circuit? r = c.circuit? r := by
  unfold circuit?
  rw [find?_mapCircuits_of_not_mem hr]

theorem isTidy_mapCircuits (h : c.IsTidy)
    (hf : ∀ r d, c.circuit? r = some d → (f r d).resource = d.resource) :
    (c.mapCircuits f).IsTidy := by
  refine ⟨fun l e he => ?_, fun l => ?_, fun e he circuit hc => ?_⟩
  · rw [level_mapCircuits] at he
    obtain ⟨x, hx, rfl⟩ := List.mem_map.mp he
    exact h.placed l x hx
  · rw [level_mapCircuits, List.map_map]
    exact h.unique l
  · rw [entries_mapCircuits] at he
    obtain ⟨x, hx, rfl⟩ := List.mem_map.mp he
    obtain ⟨d, hd, rfl⟩ := Option.map_eq_some_iff.mp ((Slot.circuit?_mapCircuit _ _).symm.trans hc)
    rw [hf x.resource d ((circuit?_of_mem h.isPlaced hx).trans hd)]
    exact h.owned x hx d hd

theorem isTidy_mapCircuits_onAll (h : c.IsTidy) (rs : List Resource) {f : Circuit → Circuit}
    (hf : ∀ d, (f d).resource = d.resource) : (c.mapCircuits (onAll rs f)).IsTidy := by
  refine isTidy_mapCircuits h fun r d _ => ?_
  unfold onAll
  split
  · exact hf d
  · rfl

/-- **Putting a circuit in its place** is a change of the circuit that is there. -/
theorem put_eq_mapCircuits (h : c.IsTidy) (r : Resource) (circuit : Circuit) :
    c.put r circuit = c.mapCircuits (onAll [r] fun _ => circuit) := by
  refine eq_of_level (fun l => ?_) ?_ ?_
  · rw [put, level_update h.isPlaced, level_mapCircuits]
    refine List.map_congr_left fun e _ => ?_
    by_cases hr : e.resource = r
    · rw [if_pos hr, onAll_of_mem (List.mem_singleton.mpr hr)]
      cases e with
      | mk resource slot lastAccess => cases slot <;> rfl
    · have hne : e.resource ∉ [r] := fun hmem => hr (List.mem_singleton.mp hmem)
      have hid : onAll [r] (fun _ => circuit) e.resource = fun d => d :=
        funext fun d => onAll_of_not_mem hne d
      rw [if_neg hr, hid]
      unfold CacheEntry.mapCircuit
      rw [Slot.mapCircuit_id]
  · cases r <;> rfl
  · cases r <;> rfl

/-- Putting back what became of the circuit of a resource. -/
theorem put_of_circuit? (h : c.IsTidy) {circuit : Circuit} (hc : c.circuit? r = some circuit)
    (f : Circuit → Circuit) : c.put r (f circuit) = c.mapCircuits (onAll [r] f) := by
  rw [put_eq_mapCircuits h]
  refine mapCircuits_onAll_singleton h fun d hd => ?_
  rw [hc] at hd
  cases hd
  rfl

/-- Changing the entry of a resource changes what is found for this resource only. -/
theorem find?_update {f : CacheEntry → CacheEntry} (hf : ∀ e, (f e).resource = e.resource)
    (h : c.IsPlaced) : (c.update r f).find? s = if s = r then (c.find? r).map f else c.find? s := by
  unfold find?
  rw [level_update h, List.find?_map]
  have hp : ((fun e : CacheEntry => e.resource == s) ∘ fun e => if e.resource = r then f e else e) =
      fun e => e.resource == s := by
    funext e
    by_cases he : e.resource = r
    · simp [he, hf]
    · simp [he]
  rw [hp]
  by_cases hs : s = r
  · subst hs
    rw [if_pos rfl]
    cases hfind : (c.level s.level).find? fun e => e.resource == s with
    | none => rfl
    | some e =>
        have hr : e.resource = s := by simpa using List.find?_some hfind
        rw [Option.map_some, Option.map_some, if_pos hr]
  · rw [if_neg hs]
    cases hfind : (c.level s.level).find? fun e => e.resource == s with
    | none => rfl
    | some e =>
        have hr : e.resource = s := by simpa using List.find?_some hfind
        rw [Option.map_some, if_neg (hr ▸ hs)]

/-- Touching a resource moves the time when it was last needed, and nothing else. -/
theorem find?_touch (h : c.IsPlaced) (r s : Resource) (now : Nat) :
    (c.touch r now).find? s =
      if s = r then (c.find? r).map fun e => { e with lastAccess := max e.lastAccess now }
      else c.find? s :=
  find?_update (fun _ => rfl) h

/-- A resource that gets an entry has that entry from then on. -/
theorem find?_insert (habsent : c.find? r = none) (now : Nat) (made : Option Circuit)
    (s : Resource) :
    (c.insert r now made).find? s = if s = r then some (c.added r now made) else c.find? s := by
  unfold find? at habsent ⊢
  rw [level_insert]
  by_cases hl : s.level = r.level
  · rw [if_pos hl, List.find?_append]
    by_cases hs : s = r
    · subst hs
      rw [habsent, if_pos rfl]
      simp [added]
    · have hlast : [c.added r now made].find? (fun e => e.resource == s) = none := by
        simp [added, Ne.symm hs]
      rw [if_neg hs, hlast, Option.or_none]
  · have hs : s ≠ r := fun hsr => hl (congrArg Resource.level hsr)
    rw [if_neg hl, if_neg hs]

/-- An entry that does not leave is there after others left. -/
theorem find?_removeWhere (h : c.IsPlaced) (gone : CacheEntry → Bool) (r : Resource) :
    (c.removeWhere gone).1.find? r = (c.find? r).filter fun e => !gone e := by
  have hplaced := isPlaced_removeWhere h gone
  cases hfind : c.find? r with
  | none =>
      refine (find?_eq_none_iff hplaced).mpr fun e he => ?_
      exact (find?_eq_none_iff h).mp hfind e (mem_removeWhere.mp he).1
  | some e =>
      obtain ⟨he, hr⟩ := (find?_eq_some_iff h).mp hfind
      cases hg : gone e with
      | false =>
          rw [(find?_eq_some_iff hplaced).mpr ⟨mem_removeWhere.mpr ⟨he, hg⟩, hr⟩]
          simp [Option.filter, hg]
      | true =>
          have hnone : (c.removeWhere gone).1.find? r = none := by
            refine (find?_eq_none_iff hplaced).mpr fun x hx hxr => ?_
            obtain ⟨hxc, hstay⟩ := mem_removeWhere.mp hx
            rw [h.eq_of_resource_eq hxc he (hxr.trans hr.symm), hg] at hstay
            cases hstay
          rw [hnone]
          simp [Option.filter, hg]

/-- An entry is there after a sweep unless its resource was idle for too long. -/
theorem find?_expire (h : c.IsPlaced) (now ttl : Nat) (r : Resource) :
    (c.expire now ttl).1.find? r =
      (c.find? r).bind fun e => if ttl < now - e.lastAccess then none else some e := by
  unfold expire
  rw [find?_removeWhere h]
  cases c.find? r with
  | none => rfl
  | some e =>
      rw [Option.bind_some]
      split <;> rename_i hidle <;> simp [Option.filter, hidle]

end CircuitCache

end CircuitBreaker

import CircuitBreaker.Proofs.CircuitCache.InPlace
import CircuitBreaker.Proofs.Engine.Entries

/-!
# `Proofs.Engine.InPlace` — what evaluations and reports do to the circuits

Evaluating a resource, evaluating all of them and reporting an outcome change circuits where they
stand. Each of these is said here exactly, as a change of circuits: which resources it is about, and
what it does to the circuit of each. Only then the listeners are told (`Engine.tell`), so one that fails
takes nothing back (`evaluate_eq`, `evaluateAll_engine`, `report_eq`).

When several resources are looked at in turn, each is changed once, whatever comes before it. So the
order does not matter (`evaluateAll_of_perm`).
-/

namespace CircuitBreaker

namespace Engine

/-- The engine with the circuit of every resource changed. -/
def mapCircuits (e : Engine) (f : Resource → Circuit → Circuit) : Engine :=
  { e with cache := e.cache.mapCircuits f }

variable {e : Engine} {r : Resource} {now : Nat} {order : List Resource}
  {f g : Resource → Circuit → Circuit}

theorem mapCircuits_congr (h : e.cache.IsTidy)
    (hfg : ∀ r c, e.cache.circuit? r = some c → f r c = g r c) :
    e.mapCircuits f = e.mapCircuits g := by
  unfold mapCircuits
  rw [CircuitCache.mapCircuits_congr h hfg]

theorem mapCircuits_onAll_nil (h : e.cache.IsTidy) (f : Circuit → Circuit) :
    e.mapCircuits (onAll [] f) = e := by
  unfold mapCircuits
  rw [CircuitCache.mapCircuits_onAll_nil h]

theorem mapCircuits_onAll_cons {rs : List Resource} (hr : r ∉ rs) (f : Circuit → Circuit) :
    (e.mapCircuits (onAll [r] f)).mapCircuits (onAll rs f) = e.mapCircuits (onAll (r :: rs) f) := by
  unfold mapCircuits
  rw [CircuitCache.mapCircuits_onAll_cons hr]

theorem mapCircuits_onAll_singleton (h : e.cache.IsTidy) {f g : Circuit → Circuit}
    (hfg : ∀ c, e.cache.circuit? r = some c → f c = g c) :
    e.mapCircuits (onAll [r] f) = e.mapCircuits (onAll [r] g) := by
  unfold mapCircuits
  rw [CircuitCache.mapCircuits_onAll_singleton h hfg]

theorem mapCircuits_onAll_singleton_eq_self (h : e.cache.IsTidy) {f : Circuit → Circuit}
    (hf : ∀ c, e.cache.circuit? r = some c → f c = c) : e.mapCircuits (onAll [r] f) = e := by
  unfold mapCircuits
  rw [CircuitCache.mapCircuits_onAll_singleton_eq_self h hf]

/-- A resource without a circuit is not changed. -/
theorem mapCircuits_onAll_of_none (h : e.cache.IsTidy) (hr : e.cache.circuit? r = none)
    (f : Circuit → Circuit) : e.mapCircuits (onAll [r] f) = e := by
  refine mapCircuits_onAll_singleton_eq_self h fun c hc => ?_
  rw [hr] at hc
  cases hc

theorem find?_mapCircuits_of_mem {rs : List Resource} (hr : r ∈ rs) (f : Circuit → Circuit) :
    (e.mapCircuits (onAll rs f)).cache.find? r = (e.cache.find? r).map (CacheEntry.mapCircuit f) :=
  CircuitCache.find?_mapCircuits_of_mem hr f e.cache

theorem find?_mapCircuits_of_not_mem {rs : List Resource} (hr : r ∉ rs) (f : Circuit → Circuit) :
    (e.mapCircuits (onAll rs f)).cache.find? r = e.cache.find? r :=
  CircuitCache.find?_mapCircuits_of_not_mem hr f e.cache

/-! ## Telling -/

/-- Tell the listeners of a change. The answer is whether there was one. -/
def tell (e : Engine) (change : Option Transition) : Reply Bool where
  engine := e
  result := match (deliverAny e.listeners change).fault with
    | some message => .error message
    | none => .ok change.isSome
  notices := (deliverAny e.listeners change).notices

theorem tell_of_fault {change : Option Transition} {message : String}
    (h : (deliverAny e.listeners change).fault = some message) :
    e.tell change = {
      engine := e
      result := .error message
      notices := (deliverAny e.listeners change).notices } := by
  simp only [tell, h]

theorem tell_of_no_fault {change : Option Transition}
    (h : (deliverAny e.listeners change).fault = none) :
    e.tell change = {
      engine := e
      result := .ok change.isSome
      notices := (deliverAny e.listeners change).notices } := by
  simp only [tell, h]

/-- **Settling puts back what became of the circuit of a resource**, and then tells the listeners. -/
theorem settle_eq (h : e.cache.IsTidy) {c : Circuit} (hc : e.cache.circuit? r = some c)
    {f : Circuit → Circuit} (hf : (f c).resource = c.resource) (change : Option Transition) :
    e.settle (f c) change = (e.mapCircuits (onAll [r] f)).tell change := by
  have hr : (f c).resource = r := hf.trans (CircuitCache.resource_of_circuit? h hc)
  unfold settle mapCircuits
  rw [hr, CircuitCache.put_of_circuit? h hc]
  rfl

/-- One of some listeners may fail with a message. -/
def CanFail (ls : List Listener) (message : String) : Prop := ∃ l ∈ ls, ∃ t, l t = .fault message

theorem CanFail.cons {ls : List Listener} {message : String} (h : CanFail ls message)
    (l : Listener) : CanFail (l :: ls) message := by
  obtain ⟨m, hm, t, ht⟩ := h
  exact ⟨m, List.mem_cons_of_mem l hm, t, ht⟩

/-- A fault is that of a listener who is told. -/
theorem canFail_of_fault {ls : List Listener} {change : Option Transition} {message : String}
    (h : (deliverAny ls change).fault = some message) : CanFail ls message := by
  cases change with
  | none => cases h
  | some t =>
      simp only [deliverAny] at h
      induction ls with
      | nil => cases h
      | cons l rest ih =>
          cases hl : l t with
          | fault text =>
              rw [deliver, hl] at h
              cases h
              exact ⟨l, List.mem_cons_self, t, hl⟩
          | silence =>
              rw [deliver, hl] at h
              exact (ih h).cons l
          | notice n =>
              rw [deliver, hl] at h
              exact (ih h).cons l

/-! ## Evaluating -/

/-- What the listeners are told when a resource is evaluated. -/
def evaluateNews (e : Engine) (r : Resource) (now : Nat) : Option Transition :=
  (e.cache.circuit? r).bind fun c => (c.evaluate now).2

/-- **Evaluating a resource** evaluates its circuit, and tells what that changed. -/
theorem evaluate_eq (h : e.cache.IsTidy) (r : Resource) (now : Nat) :
    e.evaluate r now =
      (e.mapCircuits (onAll [r] fun c => (c.evaluate now).1)).tell (e.evaluateNews r now) := by
  unfold evaluate evaluateNews
  cases hc : e.cache.circuit? r with
  | none =>
      rw [mapCircuits_onAll_of_none h hc]
      rfl
  | some c =>
      exact settle_eq h hc (f := fun c => (c.evaluate now).1) (Circuit.resource_run c [.evaluate now]) _

theorem evaluate_engine (h : e.cache.IsTidy) (r : Resource) (now : Nat) :
    (e.evaluate r now).engine = e.mapCircuits (onAll [r] fun c => (c.evaluate now).1) :=
  congrArg Reply.engine (evaluate_eq h r now)

theorem isTidy_evaluate (h : e.cache.IsTidy) (r : Resource) (now : Nat) :
    (e.evaluate r now).engine.cache.IsTidy :=
  (later_evaluate h r now).cache.isTidy

/-- **Evaluating some resources** evaluates each of their circuits, whatever the listeners do. -/
theorem evaluateAll_engine (h : e.cache.IsTidy) (now : Nat) {rs : List Resource} (hrs : rs.Nodup) :
    (e.evaluateAll now rs).1 = e.mapCircuits (onAll rs fun c => (c.evaluate now).1) := by
  induction rs generalizing e with
  | nil => exact (mapCircuits_onAll_nil h _).symm
  | cons r rest ih =>
      obtain ⟨hr, hrest⟩ := List.nodup_cons.mp hrs
      have htail : (e.evaluateAll now (r :: rest)).1 =
          ((e.evaluate r now).engine.evaluateAll now rest).1 := rfl
      rw [htail, ih (isTidy_evaluate h r now) hrest, evaluate_engine h, mapCircuits_onAll_cons hr]

/-- What happens to one circuit is no news of another. -/
theorem evaluateNews_mapCircuits_of_ne {s : Resource} (hs : s ≠ r) (f : Circuit → Circuit)
    (now : Nat) :
    (e.mapCircuits (onAll [r] f)).evaluateNews s now = e.evaluateNews s now := by
  have hcircuit : (e.mapCircuits (onAll [r] f)).cache.circuit? s = e.cache.circuit? s :=
    CircuitCache.circuit?_mapCircuits_of_not_mem (List.mem_singleton.not.mpr hs) f e.cache
  unfold evaluateNews
  rw [hcircuit]

/-- **Evaluating some resources** tells the news of each, as they stand before. -/
theorem evaluateAll_notices (h : e.cache.IsTidy) (now : Nat) {rs : List Resource} (hrs : rs.Nodup) :
    (e.evaluateAll now rs).2 =
      rs.flatMap fun r => (deliverAny e.listeners (e.evaluateNews r now)).notices := by
  induction rs generalizing e with
  | nil => rfl
  | cons r rest ih =>
      obtain ⟨hr, hrest⟩ := List.nodup_cons.mp hrs
      have htail : (e.evaluateAll now (r :: rest)).2 =
          (e.evaluate r now).notices ++ ((e.evaluate r now).engine.evaluateAll now rest).2 := rfl
      have hnews : ∀ s ∈ rest, (e.evaluate r now).engine.evaluateNews s now =
          e.evaluateNews s now := by
        intro s hs
        have hne : s ≠ r := fun hsr => hr (hsr ▸ hs)
        rw [evaluate_engine h]
        exact evaluateNews_mapCircuits_of_ne hne _ now
      have hlisteners : (e.evaluate r now).engine.listeners = e.listeners := by
        rw [evaluate_engine h]
        rfl
      have hnotices : (e.evaluate r now).notices =
          (deliverAny e.listeners (e.evaluateNews r now)).notices :=
        congrArg Reply.notices (evaluate_eq h r now)
      rw [htail, ih (isTidy_evaluate h r now) hrest, hlisteners, hnotices, List.flatMap_cons]
      exact congrArg _ (List.flatMap_congr fun s hs => by rw [hnews s hs])

/-- In a tidy cache no resource is tracked twice. -/
theorem nodup_trackedResources {c : CircuitCache} (h : c.IsTidy) : c.trackedResources.Nodup := by
  have hentries : (c.entries.map fun x => x.resource).Nodup := by
    have apart {k l : Level} (hkl : k ≠ l) : ∀ a ∈ (c.level k).map (fun x => x.resource),
        ∀ b ∈ (c.level l).map (fun x => x.resource), a ≠ b := by
      intro a ha b hb hab
      obtain ⟨x, hx, rfl⟩ := List.mem_map.mp ha
      obtain ⟨y, hy, hyx⟩ := List.mem_map.mp hb
      exact hkl ((h.placed k x hx).symm.trans
        ((congrArg Resource.level (hab.trans hyx.symm)).trans (h.placed l y hy)))
    unfold CircuitCache.entries
    rw [List.map_append, List.map_append, List.nodup_append, List.nodup_append]
    refine ⟨⟨h.unique .service, h.unique .method, apart (k := .service) (l := .method) (by simp)⟩,
      h.unique .endpoint, fun a ha b hb => ?_⟩
    rcases List.mem_append.mp ha with ha | ha
    · exact apart (k := .service) (l := .endpoint) (by simp) a ha b hb
    · exact apart (k := .method) (l := .endpoint) (by simp) a ha b hb
  exact (List.filter_sublist.map _).nodup hentries

/-- A resource is tracked exactly if it has a circuit. -/
theorem mem_trackedResources_iff {c : CircuitCache} (h : c.IsTidy) :
    r ∈ c.trackedResources ↔ (c.circuit? r).isSome := by
  unfold CircuitCache.trackedResources
  constructor
  · intro hr
    obtain ⟨x, hx, rfl⟩ := List.mem_map.mp hr
    rw [CircuitCache.circuit?_of_mem h.isPlaced (List.mem_filter.mp hx).1]
    exact (List.mem_filter.mp hx).2
  · intro hr
    obtain ⟨d, hd⟩ := Option.isSome_iff_exists.mp hr
    obtain ⟨x, hx, serial, hxr, hs⟩ := CircuitCache.exists_of_circuit? h.isPlaced hd
    exact List.mem_map.mpr ⟨x, List.mem_filter.mpr ⟨hx, by rw [hs]; rfl⟩, hxr⟩

/-- Looking at all circuits in some order evaluates every circuit. -/
theorem evaluateAll_of_perm (h : e.cache.IsTidy) (now : Nat)
    (horder : order.Perm e.cache.trackedResources) :
    (e.evaluateAll now order).1 = e.mapCircuits fun _ c => (c.evaluate now).1 := by
  rw [evaluateAll_engine h now (horder.nodup_iff.mpr (nodup_trackedResources h))]
  refine mapCircuits_congr h fun s c hc => ?_
  have hs : s ∈ order := horder.mem_iff.mpr ((mem_trackedResources_iff h).mpr (by rw [hc]; rfl))
  rw [onAll_of_mem hs]

/-- **A tick** evaluates every circuit, and then sweeps if it is time for that. -/
theorem tickAlong_engine (hactive : e.isActive = true) (h : e.cache.IsTidy)
    (horder : order.Perm e.cache.trackedResources) :
    (e.tickAlong order now).1 =
      (e.mapCircuits fun _ c => (c.evaluate now).1).sweepIfDue now := by
  rw [← evaluateAll_of_perm h now horder]
  unfold tickAlong
  rw [if_pos hactive]

/-- No sweep is due, or all that was not needed for too long is gone. -/
theorem sweepIfDue_eq (e : Engine) (now : Nat) :
    e.sweepIfDue now =
      if Clock.after e.lastSweep e.sweepPeriod ≤ now then
        { e with lastSweep := now, cache := (e.cache.expire now e.config.expireInterval).1 }
      else e :=
  rfl

/-! ## Reporting -/

/-- What the listeners are told when an outcome is reported. -/
def reportNews (e : Engine) (o : Outcome) (now : Nat) : Option Transition :=
  ((e.informed o now).cache.circuit? o.resource).bind fun c => (c.report o now).2

/-- **A report changes the circuit of its resource**, if there is one by then, and tells of it. -/
theorem report_eq (hactive : e.isActive = true) {o : Outcome}
    (h : (e.informed o now).cache.IsTidy) :
    e.report o now =
      ((e.informed o now).mapCircuits (onAll [o.resource] fun c => (c.report o now).1)).tell
        (e.reportNews o now) := by
  rw [report_of_isActive hactive]
  unfold reportNews
  cases hc : (e.informed o now).cache.circuit? o.resource with
  | none =>
      rw [mapCircuits_onAll_of_none h hc]
      rfl
  | some c =>
      exact settle_eq h hc (f := fun c => (c.report o now).1) (Circuit.resource_run c [.report o now]) _

/-- What becomes of the circuit does not depend on the listeners. -/
theorem report_engine (hactive : e.isActive = true) {o : Outcome}
    (h : (e.informed o now).cache.IsTidy) :
    (e.report o now).engine =
      (e.informed o now).mapCircuits (onAll [o.resource] fun c => (c.report o now).1) :=
  congrArg Reply.engine (report_eq hactive h)

/-- What the entry of a resource is once it was looked for. -/
theorem find?_informed (h : e.cache.IsTidy) (o : Outcome) (now : Nat) (s : Resource) :
    (e.informed o now).cache.find? s =
      if s = o.resource then
        some (match e.cache.find? o.resource with
          | some x => { x with lastAccess := max x.lastAccess now }
          | none => e.cache.added o.resource now
              (e.newCircuit? o.resource o.caller now (e.patterns, e.source)).1)
      else e.cache.find? s := by
  cases hfind : e.cache.find? o.resource with
  | some x =>
      rw [informed_of_present hfind, CircuitCache.find?_touch h.isPlaced, hfind]
      rfl
  | none =>
      have hcache : (e.informed o now).cache = e.cache.insert o.resource now
          (e.newCircuit? o.resource o.caller now (e.patterns, e.source)).1 := by
        simp only [informed, CircuitCache.fetch, hfind]
      rw [hcache, CircuitCache.find?_insert hfind]

end Engine

end CircuitBreaker

import CircuitBreaker.Proofs.Engine.Orderly
import CircuitBreaker.Proofs.Engine.Permission
import CircuitBreaker.Proofs.RuleSource

/-!
# `Proofs.Engine.OneResource` — what one operation does to the entry of one resource

Seen from one resource, an operation on the engine is one of eight things. It passes by, it reports a
call or the first one, it wakes the circuit before a call and perhaps takes a slot, it evaluates the
circuit as time passes, or it removes the entry, because it was idle for too long or because the rules
changed. `EntryEffect` lists them with the circumstances of each, and `entryEffect_step` shows that
there is nothing else. What holds of a resource over a run follows by a case for each: how old its entry
can be, for one (`exists_lastReport` in `Proofs.Engine.Protection`).
-/

namespace CircuitBreaker.Engine

/-! ## What operations are about -/

/-- The time of the sweep that an operation does, if it does one. -/
def sweepTime? (e : Engine) : Op → Option Nat
  | .cleanup now => some now
  | .tick now => if Clock.after e.lastSweep e.sweepPeriod ≤ now then some now else none
  | _ => none

/-- Whether an operation may remove everything that is known of a service: the engine is told that the
    rules of the service changed, or is told to change them, or is destroyed. -/
def Op.drops (service : ServiceKey) : Op → Bool
  | .ruleChanged s | .load s _ | .clear s => s == service
  | .destroy => true
  | _ => false

/-- Whether an answer lets a call be sent. -/
def Answer.isGranted : Answer → Bool
  | .permission p => p.granted
  | _ => false

/-! ## The effects -/

/-- **What an operation can do to the entry of a resource.** -/
inductive EntryEffect (e : Engine) (op : Op) (r : Resource) :
    Option CacheEntry → Option CacheEntry → Prop where
  /-- The operation is about other things. -/
  | passed (x : Option CacheEntry) (hop : ∀ o now, op.report? = some (o, now) → o.resource ≠ r) :
      EntryEffect e op r x x
  /-- An engine that does no work has no entries. -/
  | absent : EntryEffect e op r none none
  | reported (o : Outcome) (now : Nat) (hop : op.report? = some (o, now)) (hr : o.resource = r)
      (x : CacheEntry) :
      EntryEffect e op r (some x) (some
        (CacheEntry.mapCircuit (fun c => (c.report o now).1)
          { x with lastAccess := max x.lastAccess now }))
  /-- The first report makes the entry. -/
  | learned (o : Outcome) (now : Nat) (hop : op.report? = some (o, now)) (hr : o.resource = r) :
      EntryEffect e op r none (some
        ((e.cache.added r now (e.newCircuit? r o.caller now (e.patterns, e.source)).1).mapCircuit
          fun c => (c.report o now).1))
  /-- Before a call to the resource or to a part of it, the circuit wakes. -/
  | woken (q : Resource) (now : Nat) (hop : op = .acquire q now) (hq : r ∈ q :: q.parents)
      (x : Option CacheEntry) :
      EntryEffect e op r x (x.map (CacheEntry.mapCircuit (Circuit.wakened now)))
  /-- The call may be sent, and the circuit has let it pass. -/
  | admitted (q : Resource) (now : Nat) (hop : op = .acquire q now) (hq : r ∈ q :: q.parents)
      (hgranted : (e.step op).2.1.isGranted = true) (x : Option CacheEntry) :
      EntryEffect e op r x
        (x.map (CacheEntry.mapCircuit fun c => (c.wakened now).admitted))
  | evaluated (now : Nat) (hop : op = .tick now) (x : Option CacheEntry) :
      EntryEffect e op r x (x.map (CacheEntry.mapCircuit fun c => (c.evaluate now).1))
  /-- The resource was idle for too long. -/
  | swept (now : Nat) (hop : e.sweepTime? op = some now) (x : CacheEntry)
      (hidle : e.config.expireInterval < now - x.lastAccess) : EntryEffect e op r (some x) none
  | dropped (hop : op.drops r.key = true) (x : Option CacheEntry) : EntryEffect e op r x none

variable {e : Engine} {op : Op} {r : Resource} {now : Nat}

/-! ## One lemma for each operation -/

theorem entryEffect_report (h : e.IsOrderly) {o : Outcome} (hop : op.report? = some (o, now)) :
    EntryEffect e op r (e.cache.find? r) ((e.report o now).engine.cache.find? r) := by
  by_cases hactive : e.isActive = true
  · rw [report_engine hactive (h.informed hactive o now).cache]
    by_cases hr : r = o.resource
    · subst hr
      rw [find?_mapCircuits_of_mem List.mem_cons_self, find?_informed h.cache, if_pos rfl]
      cases hfind : e.cache.find? o.resource with
      | some x => exact .reported o now hop rfl x
      | none => exact .learned o now hop rfl
    · rw [find?_mapCircuits_of_not_mem (by simpa using hr), find?_informed h.cache, if_neg hr]
      refine .passed _ fun p t hp => ?_
      rw [hop] at hp
      cases hp
      exact Ne.symm hr
  · have hidle : e.cache.find? r = none := by
      refine (CircuitCache.find?_eq_none_iff h.cache.isPlaced).mpr fun x hx => ?_
      rw [h.idle (by simpa using hactive)] at hx
      cases hx
    unfold report
    rw [if_neg hactive, hidle]
    exact .absent

/-- Operations that report nothing may pass by any resource. -/
theorem EntryEffect.pass (hop : op.report? = none) (x : Option CacheEntry) :
    EntryEffect e op r x x :=
  .passed x fun o now ho => by rw [hop] at ho; cases ho

theorem entryEffect_acquire (h : e.IsOrderly) (q : Resource) (now : Nat) :
    EntryEffect e (.acquire q now) r (e.cache.find? r)
      ((e.acquire q now).engine.cache.find? r) := by
  by_cases hactive : e.isActive = true
  · have hawake : EntryEffect e (.acquire q now) r (e.cache.find? r)
        ((e.awake q now).cache.find? r) := by
      by_cases hr : r ∈ q :: q.parents
      · rw [awake, find?_mapCircuits_of_mem hr]
        exact .woken q now rfl hr _
      · rw [awake, find?_mapCircuits_of_not_mem hr]
        exact .pass rfl _
    rcases acquire_cases h.cache hactive q now with
      ⟨hresult, hengine⟩ | ⟨message, woke, _, _, hengine, hpre⟩
    · rw [hengine, answered]
      split
      · rename_i hgranted
        by_cases hr : r ∈ q :: q.parents
        · rw [find?_mapCircuits_of_mem hr, awake, find?_mapCircuits_of_mem hr, Option.map_map]
          have hcompose : CacheEntry.mapCircuit Circuit.admitted ∘
              CacheEntry.mapCircuit (Circuit.wakened now) =
                CacheEntry.mapCircuit fun c => (c.wakened now).admitted :=
            funext fun x => CacheEntry.mapCircuit_mapCircuit _ _ x
          rw [hcompose]
          refine .admitted q now rfl hr ?_ _
          simp only [step, Answer.ofReply, hresult]
          exact hgranted
        · rw [find?_mapCircuits_of_not_mem hr]
          exact hawake
      · exact hawake
    · rw [hengine]
      by_cases hr : r ∈ woke
      · rw [find?_mapCircuits_of_mem hr]
        exact .woken q now rfl (hpre.subset hr) _
      · rw [find?_mapCircuits_of_not_mem hr]
        exact .pass rfl _
  · unfold acquire
    rw [if_neg hactive]
    exact .pass rfl _

/-- What a sweep does to the entry of a resource, after other changes that leave its age alone. -/
theorem entryEffect_sweep (hsweep : e.sweepTime? op = some now) {x y : CacheEntry}
    (hage : y.lastAccess = x.lastAccess) (hstay : EntryEffect e op r (some x) (some y)) :
    EntryEffect e op r (some x)
      (if e.config.expireInterval < now - y.lastAccess then none else some y) := by
  split
  · rename_i hidle
    exact .swept now hsweep x (hage ▸ hidle)
  · exact hstay

theorem entryEffect_tick (h : e.IsOrderly) (now : Nat) :
    EntryEffect e (.tick now) r (e.cache.find? r) ((e.tick now).1.cache.find? r) := by
  by_cases hactive : e.isActive = true
  · let d := e.mapCircuits fun _ c => (c.evaluate now).1
    have hfind : d.cache.find? r =
        (e.cache.find? r).map (CacheEntry.mapCircuit fun c => (c.evaluate now).1) :=
      CircuitCache.find?_mapCircuits _ _ _
    have htidy : d.cache.IsTidy :=
      CircuitCache.isTidy_mapCircuits h.cache fun _ c _ => Circuit.resource_run c [.evaluate now]
    have htick : (e.tick now).1 = d.sweepIfDue now :=
      tickAlong_engine hactive h.cache (List.Perm.refl _)
    rw [htick, sweepIfDue_eq]
    split
    · rename_i hdue
      rw [CircuitCache.find?_expire htidy.isPlaced, hfind]
      cases e.cache.find? r with
      | none => exact .evaluated now rfl none
      | some x =>
          have hsweep : e.sweepTime? (.tick now) = some now := if_pos hdue
          exact entryEffect_sweep hsweep rfl (.evaluated now rfl (some x))
    · rw [hfind]
      exact .evaluated now rfl _
  · unfold tick tickAlong
    rw [if_neg hactive]
    exact .pass rfl _

theorem entryEffect_cleanup (h : e.IsOrderly) (now : Nat) :
    EntryEffect e (.cleanup now) r (e.cache.find? r) ((e.cleanup now).1.cache.find? r) := by
  unfold cleanup
  split
  · exact .pass rfl _
  · show EntryEffect e _ r _ ((e.cache.expire now e.config.expireInterval).1.find? r)
    rw [CircuitCache.find?_expire h.cache.isPlaced]
    cases e.cache.find? r with
    | none => exact .pass rfl none
    | some x => exact entryEffect_sweep rfl rfl (.pass rfl (some x))

/-- Whatever is dropped is an entry of the service, and none of them stays. -/
theorem find?_ruleChanged (h : e.cache.IsTidy) (service : ServiceKey) (r : Resource) :
    (e.ruleChanged service).1.cache.find? r = e.cache.find? r ∨
      r.key = service ∧ (e.ruleChanged service).1.cache.find? r = none := by
  unfold ruleChanged
  split
  · exact Or.inl rfl
  · show (e.cache.removeService service).1.find? r = _ ∨ _
    unfold CircuitCache.removeService
    rw [CircuitCache.find?_removeWhere h.isPlaced]
    cases hfind : e.cache.find? r with
    | none => exact Or.inl rfl
    | some x =>
        have hx : x.resource = r := (CircuitCache.mem_of_find? hfind).2
        by_cases hk : r.key = service
        · exact Or.inr ⟨hk, by simp [Option.filter, hx, hk]⟩
        · exact Or.inl (by simp [Option.filter, hx, hk])

theorem entryEffect_hear (h : e.cache.IsTidy) {service : ServiceKey}
    (hop : op.drops service = true) (hreport : op.report? = none) (source : RuleSource)
    {change : Option RuleChange} (hchange : ∀ told ∈ change, told.service = service) :
    EntryEffect e op r (e.cache.find? r)
      ((({ e with source } : Engine).hear change).1.cache.find? r) := by
  unfold hear
  cases change with
  | none => exact .pass hreport _
  | some told =>
      simp only
      split
      · rw [hchange told rfl]
        rcases find?_ruleChanged (e := { e with source }) h service r with hsame | ⟨hk, hgone⟩
        · rw [hsame]
          exact .pass hreport _
        · rw [hgone]
          exact .dropped (hk ▸ hop) _
      · exact .pass hreport _

/-- **Every operation has one of the effects.** -/
theorem entryEffect_step (h : e.IsOrderly) (op : Op) (r : Resource) :
    EntryEffect e op r (e.cache.find? r) ((e.step op).1.cache.find? r) := by
  cases op with
  | report o now =>
      simp only [step, Answer.ofReply_engine]
      exact entryEffect_report h rfl
  | reportSeen o now =>
      simp only [step, Answer.ofReply_engine]
      exact entryEffect_report h rfl
  | check q => exact .pass rfl _
  | acquire q now =>
      simp only [step, Answer.ofReply_engine]
      exact entryEffect_acquire h q now
  | tick now => exact entryEffect_tick h now
  | cleanup now => exact entryEffect_cleanup h now
  | ruleChanged service =>
      have hop : (Op.ruleChanged service).drops service = true := beq_self_eq_true service
      rcases find?_ruleChanged h.cache service r with hsame | ⟨hk, hgone⟩
      · exact hsame ▸ .pass rfl _
      · exact hgone ▸ .dropped (hk ▸ hop) _
  | load service rules =>
      have hop : (Op.load service rules).drops service = true := beq_self_eq_true service
      exact entryEffect_hear h.cache hop rfl _ fun _ => RuleSource.service_of_load
  | clear service =>
      have hop : (Op.clear service).drops service = true := beq_self_eq_true service
      exact entryEffect_hear h.cache hop rfl _ fun _ => RuleSource.service_of_clear
  | destroy =>
      simp only [step, destroy]
      split
      · exact .pass rfl _
      · have hgone : e.cache.clear.find? r = none := by
          unfold CircuitCache.clear
          rw [CircuitCache.find?_removeWhere h.cache.isPlaced]
          cases e.cache.find? r <;> rfl
        rw [hgone]
        exact .dropped rfl _

end CircuitBreaker.Engine

import Mathlib.Data.List.Induction
import CircuitBreaker.Proofs.Engine.Freshness
import CircuitBreaker.Proofs.Engine.OneResource

/-!
# `Proofs.Engine.Protection` — how long an open circuit protects its resource

An open circuit sleeps until its sleep window is over, and until then it refuses every call to its
resource and to the parts of it. Nothing that is reported wakes it, and neither does looking at it too
early (`asleep_step`). But it can be forgotten: calls that are refused are not reported, so the resource
is idle while the circuit is open, and a sweep that comes once it has been idle for longer than the
expiry interval removes the circuit like any other (`forgotten_while_open`).

So what protects a resource is the sleep window, or the expiry interval after the last report if that
is over first and a sweep comes (`refused_while_open`). Besides, the circuits of a service are dropped
when the engine is told that its rules changed, or is told to change them (`Op.drops`).
-/

namespace CircuitBreaker

namespace Circuit

/-- The circuit is open, and its sleep window is over at a time. -/
def SleepsUntil (c : Circuit) (deadline : Nat) : Prop :=
  c.phase = .opened ∧ Clock.after c.status.since c.rule.recovery.sleepWindow = deadline

variable {c : Circuit} {deadline now : Nat}

/-- Looking at it too early does nothing. -/
theorem evaluate_of_sleeps (h : c.SleepsUntil deadline) (hnow : now < deadline) :
    (c.evaluate now).1 = c := by
  have hslept : c.hasSlept now = false := by
    unfold hasSlept
    rw [h.2]
    simpa using hnow
  unfold evaluate
  simp [h.1, hslept]

theorem wakened_of_sleeps (h : c.SleepsUntil deadline) (hnow : now < deadline) :
    c.wakened now = c := by
  unfold wakened
  rw [if_pos h.1, evaluate_of_sleeps h hnow]

theorem admitted_of_sleeps (h : c.SleepsUntil deadline) : c.admitted = c :=
  admitted_of_phase_ne (by rw [h.1]; simp)

/-- No report wakes it. -/
theorem SleepsUntil.report (h : c.SleepsUntil deadline) (o : Outcome) (t : Nat) :
    (c.report o t).1.SleepsUntil deadline := by
  unfold Circuit.report
  split
  · exact h
  · simp only [phase_touch, h.1]
    exact h

end Circuit

namespace Engine

/-! ## Times of operations -/

/-- Whether an answer refuses a call. -/
def Answer.isRefusal : Answer → Bool
  | .permission p => !p.granted
  | _ => false

/-- When an operation is done. -/
def Op.time? : Op → Option Nat
  | .report _ now | .reportSeen _ now | .acquire _ now | .tick now | .cleanup now => some now
  | _ => none

/-- Operations are **timely** if time does not go back between them. -/
def IsTimely (ops : List Op) : Prop := (ops.filterMap Op.time?).Pairwise (· ≤ ·)

/-- The time of the report that an operation makes on a resource, if it makes one. A report that is seen
    later than it is made counts at the time that its outcome says. -/
def Op.reportOn? (r : Resource) (op : Op) : Option Nat :=
  op.report?.bind fun p => if p.1.resource = r then some p.2 else none

/-- The time of the last report on a resource: the last in the order of the operations. -/
def lastReport? (r : Resource) (ops : List Op) : Option Nat :=
  (ops.filterMap (Op.reportOn? r)).getLast?

/-- **A resource is remembered** while some operations follow others if no sweep among them comes later
    than the expiry interval after the last report on it. -/
def Remembers (e : Engine) (r : Resource) (pre mid : List Op) : Prop :=
  ∀ done op rest, mid = done ++ op :: rest →
    ∀ sweep last, (e.run (pre ++ done)).1.sweepTime? op = some sweep →
      lastReport? r (pre ++ done) = some last → sweep ≤ last + e.config.expireInterval

variable {e : Engine} {op : Op} {r q : Resource} {now deadline : Nat} {x y : CacheEntry}

/-! ## The age of an entry -/

theorem lastReport?_snoc (r : Resource) (ops : List Op) (op : Op) :
    lastReport? r (ops ++ [op]) = (op.reportOn? r).or (lastReport? r ops) := by
  unfold lastReport?
  rw [List.filterMap_append]
  cases h : op.reportOn? r with
  | none => simp [h]
  | some t => simp [h]

theorem reportOn?_eq_some {o : Outcome} {t : Nat} (hop : op.report? = some (o, t))
    (hr : o.resource = r) : op.reportOn? r = some t := by
  unfold Op.reportOn?
  rw [hop, Option.bind_some, if_pos hr]

/-- **An entry is as old as it was**, unless the operation reports on its resource. -/
theorem age_effect {x? : Option CacheEntry} (h : EntryEffect e op r x? (some y)) :
    (∃ t, op.reportOn? r = some t ∧ t ≤ y.lastAccess) ∨
      op.reportOn? r = none ∧ ∃ x, x? = some x ∧ x.lastAccess = y.lastAccess := by
  have silent (hop : op.report? = none) : op.reportOn? r = none := by
    unfold Op.reportOn?
    rw [hop]
    rfl
  have kept {f : Circuit → Circuit} {x? : Option CacheEntry}
      (hy : x?.map (CacheEntry.mapCircuit f) = some y) :
      ∃ x, x? = some x ∧ x.lastAccess = y.lastAccess := by
    obtain ⟨x, hx, rfl⟩ := Option.map_eq_some_iff.mp hy
    exact ⟨x, hx, rfl⟩
  generalize hy : some y = y? at h
  cases h with
  | passed x hop =>
      refine Or.inr ⟨?_, y, hy.symm, rfl⟩
      unfold Op.reportOn?
      cases hreport : op.report? with
      | none => rfl
      | some p => exact if_neg (hop p.1 p.2 hreport)
  | absent => cases hy
  | reported o t hop hr x =>
      cases hy
      exact Or.inl ⟨t, reportOn?_eq_some hop hr, Nat.le_max_right _ _⟩
  | learned o t hop hr =>
      cases hy
      exact Or.inl ⟨t, reportOn?_eq_some hop hr, Nat.le_refl _⟩
  | woken q t hop hq x => exact Or.inr ⟨silent (hop ▸ rfl), kept hy.symm⟩
  | admitted q t hop hq hgranted x => exact Or.inr ⟨silent (hop ▸ rfl), kept hy.symm⟩
  | evaluated t hop x => exact Or.inr ⟨silent (hop ▸ rfl), kept hy.symm⟩
  | swept t hop x hidle => cases hy
  | dropped hop x => cases hy

/-- **An entry is no older than the last report on its resource**, and there was one. -/
theorem exists_lastReport (h : e.IsOrderly) (hempty : e.cache.entries = []) (ops : List Op)
    (hy : (e.run ops).1.cache.find? r = some y) :
    ∃ last, lastReport? r ops = some last ∧ last ≤ y.lastAccess := by
  -- the last report may be the last operation, so the induction is from the end
  induction ops using List.reverseRecOn generalizing y with
  | nil =>
      have hmem := (CircuitCache.mem_of_find? hy).1
      rw [run_nil, hempty] at hmem
      cases hmem
  | append_singleton ops op ih =>
      have heffect := entryEffect_step (isOrderly_run h ops) op r
      rw [← run_snoc, hy] at heffect
      rw [lastReport?_snoc]
      rcases age_effect heffect with ⟨t, ht, hle⟩ | ⟨hnone, x, hx, hxy⟩
      · exact ⟨t, by rw [ht]; rfl, hle⟩
      · obtain ⟨last, hlast, hle⟩ := ih hx
        exact ⟨last, by rw [hnone]; exact hlast, hxy ▸ hle⟩

/-! ## An open circuit that is remembered -/

/-- The engine has an open circuit for a resource, whose sleep window is over at a time. -/
def Asleep (e : Engine) (r : Resource) (deadline : Nat) : Prop :=
  ∃ x c, e.cache.find? r = some x ∧ x.slot.circuit? = some c ∧ c.SleepsUntil deadline

/-- **No operation wakes an open circuit too early**; it can only be forgotten. -/
theorem asleep_step (h : e.IsOrderly) (hasleep : e.Asleep r deadline)
    (hdrops : op.drops r.key = false) (htime : ∀ t, op.time? = some t → op.report? = none → t < deadline)
    (hsweep : ∀ x t, e.cache.find? r = some x → e.sweepTime? op = some t →
      t ≤ x.lastAccess + e.config.expireInterval) :
    (e.step op).1.Asleep r deadline := by
  obtain ⟨x, c, hx, hc, hs⟩ := hasleep
  have heffect := entryEffect_step h op r
  rw [hx] at heffect
  have still {f : Circuit → Circuit} (hf : (f c).SleepsUntil deadline) :
      ∃ z d, some (CacheEntry.mapCircuit f x) = some z ∧ z.slot.circuit? = some d ∧
        d.SleepsUntil deadline := by
    refine ⟨_, f c, rfl, ?_, hf⟩
    rw [CacheEntry.mapCircuit, Slot.circuit?_mapCircuit, hc]
    rfl
  unfold Asleep
  generalize hy : (e.step op).1.cache.find? r = y? at heffect ⊢
  cases heffect with
  | passed _ hop => exact ⟨x, c, rfl, hc, hs⟩
  | reported o t hop hr _ =>
      refine ⟨_, (c.report o t).1, rfl, ?_, hs.report o t⟩
      rw [CacheEntry.mapCircuit, Slot.circuit?_mapCircuit]
      exact congrArg _ hc
  | woken q t hop hq _ =>
      have ht : t < deadline := htime t (hop ▸ rfl) (hop ▸ rfl)
      exact still (by rwa [Circuit.wakened_of_sleeps hs ht])
  | admitted q t hop hq hgranted _ =>
      have ht : t < deadline := htime t (hop ▸ rfl) (hop ▸ rfl)
      exact still (by rwa [Circuit.wakened_of_sleeps hs ht, Circuit.admitted_of_sleeps hs])
  | evaluated t hop _ =>
      have ht : t < deadline := htime t (hop ▸ rfl) (hop ▸ rfl)
      exact still (by rwa [Circuit.evaluate_of_sleeps hs ht])
  | swept t hop _ hidle =>
      have hspared := hsweep x t hx hop
      omega
  | dropped hop _ =>
      rw [hdrops] at hop
      cases hop

/-- A resource that is asleep stays so as long as it is remembered. -/
theorem asleep_run (h : e.IsOrderly) (hempty : e.cache.entries = []) (pre mid : List Op)
    (hasleep : (e.run pre).1.Asleep r deadline) (hdrops : ∀ op ∈ mid, op.drops r.key = false)
    (htime : ∀ op ∈ mid, ∀ t, op.time? = some t → t < deadline)
    (hremembers : e.Remembers r pre mid) : (e.run (pre ++ mid)).1.Asleep r deadline := by
  induction mid generalizing pre with
  | nil => rwa [List.append_nil]
  | cons op rest ih =>
      have hmove : pre ++ op :: rest = pre ++ [op] ++ rest := by simp
      have hconfig : (e.run pre).1.config = e.config := (sameSetup_run h pre).config
      have hstep : (e.run (pre ++ [op])).1.Asleep r deadline := by
        rw [run_snoc]
        refine asleep_step (isOrderly_run h pre) hasleep (hdrops op List.mem_cons_self)
          (fun t ht _ => htime op List.mem_cons_self t ht) fun x t hx hsweep => ?_
        obtain ⟨last, hlast, hle⟩ := exists_lastReport h hempty pre hx
        have hspared := hremembers [] op rest rfl t last
          (by rwa [List.append_nil]) (by rwa [List.append_nil])
        rw [hconfig]
        omega
      rw [hmove]
      refine ih (pre ++ [op]) hstep (fun p hp => hdrops p (List.mem_cons_of_mem op hp))
        (fun p hp => htime p (List.mem_cons_of_mem op hp)) ?_
      intro done p more hrest sweep last hsweep hlast
      rw [List.append_assoc] at hsweep hlast
      exact hremembers (op :: done) p more (by rw [hrest]; rfl) sweep last hsweep hlast

/-! ## Permissions -/

/-- The circuit of a resource that is asleep. -/
theorem Asleep.circuit? (h : e.Asleep r deadline) :
    ∃ c, e.cache.circuit? r = some c ∧ c.SleepsUntil deadline := by
  obtain ⟨x, c, hx, hc, hs⟩ := h
  refine ⟨c, ?_, hs⟩
  unfold CircuitCache.circuit?
  rw [hx]
  exact hc

/-- **A resource that is asleep refuses every call** to it and to the parts of it, or a listener fails
    over another circuit that wakes before the call. -/
theorem acquire_of_asleep (h : e.IsOrderly) (hasleep : e.Asleep r deadline)
    (hr : r ∈ q :: q.parents) (hnow : now < deadline) :
    (∃ p, (e.step (.acquire q now)).2.1 = .permission p ∧ p.granted = false) ∨
      ∃ message, (e.step (.acquire q now)).2.1 = .fault message ∧ CanFail e.listeners message := by
  obtain ⟨c, hc, hs⟩ := hasleep.circuit?
  have hactive := h.isActive_of_circuit? hc
  rcases acquire_cases h.cache hactive q now with
    ⟨hresult, _⟩ | ⟨message, woke, hresult, hfail, _⟩
  · refine Or.inl ⟨(e.awake q now).verdict q, by simp only [step, Answer.ofReply, hresult],
      verdict_of_opened (c := c) ?_ hs.1⟩
    refine List.mem_filterMap.mpr ⟨r, hr, ?_⟩
    have hawake : (e.awake q now).cache.circuit? r =
        (e.cache.circuit? r).map (onAll (q :: q.parents) (Circuit.wakened now) r) :=
      CircuitCache.circuit?_mapCircuits _ _ _
    rw [hawake, hc, Option.map_some, onAll_of_mem hr, Circuit.wakened_of_sleeps hs hnow]
  · exact Or.inr ⟨message, by simp only [step, Answer.ofReply, hresult], hfail⟩

/-- The last of some timely operations is no earlier than the others. -/
theorem IsTimely.le_last {pre mid : List Op} (h : IsTimely (pre ++ mid ++ [.acquire q now])) :
    ∀ op ∈ mid, ∀ t, op.time? = some t → t ≤ now := by
  intro op hop t ht
  unfold IsTimely at h
  rw [List.filterMap_append, List.pairwise_append] at h
  refine h.2.2 t (List.mem_filterMap.mpr ⟨op, List.mem_append_right pre hop, ht⟩) now ?_
  exact List.mem_filterMap.mpr ⟨.acquire q now, List.mem_cons_self, rfl⟩

/-- **An open circuit protects its resource for the whole sleep window, unless it is dropped or
    forgotten.** Take an engine that was built, and timely operations after which the circuit of a
    resource is open. Let operations follow of which
    * none is `ruleChanged`, `load` or `clear` for the service of the resource, or `destroy`, which drop
      the circuits of the service, `ruleChanged` even if the rules are the same as before;
    * no sweep comes later than the expiry interval after the last report on the resource up to then, the
      last in their order, where one of `reportSeen` counts at the time of its outcome if that is earlier.

    Then every call to the resource, or to a part of it, is refused until the sleep window is over, or
    asking for it fails because a listener does. -/
theorem refused_while_open {setup : EngineSetup} {start : Nat} {first : Engine}
    (hbuild : build? setup start = .ok first) (pre mid : List Op) {c : Circuit}
    (hc : (first.run pre).1.cache.circuit? r = some c) (hopen : c.phase = .opened)
    (hdrops : ∀ op ∈ mid, op.drops r.key = false)
    (htimely : IsTimely (pre ++ mid ++ [.acquire q now]))
    (hremembers : first.Remembers r pre mid) (hr : r ∈ q :: q.parents)
    (hnow : now < Clock.after c.status.since c.rule.recovery.sleepWindow) :
    let answer := ((first.run (pre ++ mid)).1.step (.acquire q now)).2.1
    (∃ p, answer = .permission p ∧ p.granted = false) ∨
      ∃ message, answer = .fault message ∧ CanFail setup.listeners message := by
  have h := isOrderly_build? hbuild
  obtain ⟨hsetup, hempty⟩ : first.toEngineSetup = setup ∧ first.cache.entries = [] := by
    obtain ⟨_, rfl⟩ := eq_of_build? hbuild
    exact ⟨rfl, rfl⟩
  have hasleep : (first.run pre).1.Asleep r
      (Clock.after c.status.since c.rule.recovery.sleepWindow) := by
    obtain ⟨x, hx, hslot⟩ := Option.bind_eq_some_iff.mp hc
    exact ⟨x, c, hx, hslot, hopen, rfl⟩
  have hlater := asleep_run h hempty pre mid hasleep hdrops
    (fun op hop t ht => Nat.lt_of_le_of_lt (htimely.le_last op hop t ht) hnow) hremembers
  have hlisteners : (first.run (pre ++ mid)).1.listeners = setup.listeners := by
    rw [← hsetup]
    exact (sameSetup_run h (pre ++ mid)).listeners
  rw [← hlisteners]
  exact acquire_of_asleep (isOrderly_run h (pre ++ mid)) hlater hr hnow

/-- The time of a sweep is that of its operation. -/
theorem time?_of_sweepTime? {sweep : Nat} (h : e.sweepTime? op = some sweep) :
    op.time? = some sweep := by
  cases op with
  | cleanup t => exact h
  | tick t =>
      simp only [sweepTime?] at h
      split at h
      · exact h
      · cases h
  | _ => cases h

/-- Two failures, over which the sample circuit opens. -/
def failures (at₁ at₂ : Nat) : List Op :=
  [.report (Circuit.sampleOutcome .fail) at₁, .report (Circuit.sampleOutcome .fail) at₂]

/-- A method of the sample service. -/
def sampleMethod : Resource := .method Circuit.sample.resource.key "/echo"

/-- The sample circuit opens at 6 for a second. A tick and a sweep do not keep it from refusing a call to
    a method of the service just before the second is over. -/
theorem sample_refused_while_open :
    (let first := sample
     let mid := [Op.check Circuit.sample.resource, .tick 1001]
     build? plainSetup 0 = .ok first ∧ first.Remembers Circuit.sample.resource (failures 5 6) mid ∧
     IsTimely (failures 5 6 ++ mid ++ [.acquire sampleMethod 1005]) ∧
     ∃ p, ((first.run (failures 5 6 ++ mid)).1.step (.acquire sampleMethod 1005)).2.1 =
       .permission p ∧ p.granted = false) := by
  intro first mid
  have hbuild : build? plainSetup 0 = .ok first := rfl
  have htimely : IsTimely (failures 5 6 ++ mid ++ [.acquire sampleMethod 1005]) := by
    unfold IsTimely
    decide
  have hremembers : first.Remembers Circuit.sample.resource (failures 5 6) mid := by
    intro done op rest hmid sweep last hsweep _
    have hop : op ∈ mid := hmid ▸ List.mem_append_right done List.mem_cons_self
    have hlate : sweep ≤ 1001 := by
      have htime := time?_of_sweepTime? hsweep
      simp only [mid, List.mem_cons, List.not_mem_nil, or_false] at hop
      rcases hop with rfl | rfl
      · cases htime
      · cases htime
        exact Nat.le_refl _
    exact Nat.le_trans hlate (Nat.le_trans (by decide) (Nat.le_add_left 60000 last))
  obtain ⟨c, hc⟩ : ∃ c, (first.run (failures 5 6)).1.cache.circuit? Circuit.sample.resource = some c :=
    Option.isSome_iff_exists.mp (by decide)
  have hstate : ((first.run (failures 5 6)).1.cache.circuit? Circuit.sample.resource).map
      (fun c => (c.phase, Clock.after c.status.since c.rule.recovery.sleepWindow)) =
        some (.opened, 1006) := by decide
  rw [hc] at hstate
  injection hstate with hstate
  injection hstate with hopen hdeadline
  refine ⟨hbuild, hremembers, htimely, ?_⟩
  rcases refused_while_open hbuild (failures 5 6) mid hc hopen (by decide) htimely hremembers
    (by decide) (by rw [hdeadline]; decide) with hrefused | ⟨message, _, l, hl, _⟩
  · exact hrefused
  · cases hl

/-! ## What an open circuit does not promise -/

/-- The promise without exceptions: an open circuit refuses every call until its sleep window is over,
    whatever the expiry interval. -/
def ProtectsWholeWindow (setup : EngineSetup) : Prop :=
  ∀ (start : Nat) (first : Engine) (pre mid : List Op) (r q : Resource) (c : Circuit) (now : Nat),
    build? setup start = .ok first → (∀ op ∈ pre ++ mid, op.drops r.key = false) →
    IsTimely (pre ++ mid ++ [.acquire q now]) →
    (first.run pre).1.cache.circuit? r = some c → c.phase = .opened → r ∈ q :: q.parents →
    c.status.since ≤ now → now < c.status.since + c.rule.recovery.sleepWindow →
    ∃ p, ((first.run (pre ++ mid)).1.step (.acquire q now)).2.1 = .permission p ∧ p.granted = false

/-- One run in which a call is not refused breaks the promise. -/
theorem not_protectsWholeWindow {setup : EngineSetup} {first : Engine} (opened window : Nat)
    (hbuild : build? setup 0 = .ok first) (pre mid : List Op)
    (hstate : ((first.run pre).1.cache.circuit? r).map
      (fun c => (c.phase, c.status.since, c.rule.recovery.sleepWindow)) =
        some (.opened, opened, window))
    (hdrops : ∀ op ∈ pre ++ mid, op.drops r.key = false)
    (htimely : IsTimely (pre ++ mid ++ [.acquire q now])) (hr : r ∈ q :: q.parents)
    (hopened : opened ≤ now ∧ now < opened + window)
    (hanswer : ((first.run (pre ++ mid)).1.step (.acquire q now)).2.1.isRefusal = false) :
    ¬ProtectsWholeWindow setup := by
  intro hall
  obtain ⟨c, hc, hstate⟩ := Option.map_eq_some_iff.mp hstate
  injection hstate with hopen hrest
  injection hrest with hsince hwindow
  obtain ⟨p, hp, hrefused⟩ := hall 0 first pre mid r q c now hbuild hdrops htimely hc hopen hr
    (by omega) (by omega)
  rw [hp] at hanswer
  simp [Answer.isRefusal, hrefused] at hanswer

/-- Sample rules for a service as a whole and for each of its methods. -/
def layeredStore : RuleStore :=
  ((RuleStore.empty standardCompiler toString).load Circuit.sample.resource.key
    [Circuit.sampleRule, { Circuit.sampleRule with level := .method }]).1

/-- **An open circuit can be forgotten.** With an expiry interval of half a second the sample circuit,
    which opens at 6 for a second, is swept away at 507, and a call at 600 may be sent. The promise fails
    in two more ways: a sleep window that ends after the last point in time ends there, and a listener
    that fails over the circuit of a method keeps the caller from the answer that the service is not to
    be called. -/
theorem forgotten_while_open :
    ¬ProtectsWholeWindow { plainSetup with config := { expireInterval := 500 } } ∧
    ¬ProtectsWholeWindow plainSetup ∧
    ¬ProtectsWholeWindow {
        compile := standardCompiler
        source := .store layeredStore true
        listeners := [Listener.faulty "echo" .halfOpen] } := by
  refine ⟨?_, ?_, ?_⟩
  · refine not_protectsWholeWindow (r := Circuit.sample.resource) (q := Circuit.sample.resource)
      6 1000 rfl (failures 5 6) [.cleanup 507] ?_ ?_ ?_ ?_ (show 6 ≤ 600 ∧ 600 < 6 + 1000 by decide) ?_
    · decide
    · decide
    · unfold IsTimely
      decide
    · decide
    · decide
  · refine not_protectsWholeWindow (r := Circuit.sample.resource) (q := Circuit.sample.resource)
      (Clock.latest - 10) 1000 rfl (failures (Clock.latest - 11) (Clock.latest - 10)) [] ?_ ?_ ?_ ?_
      (show Clock.latest - 10 ≤ Clock.latest ∧ Clock.latest < Clock.latest - 10 + 1000 by decide) ?_
    · decide
    · decide
    · unfold IsTimely
      decide
    · decide
    · decide
  · refine not_protectsWholeWindow (r := Circuit.sample.resource) (q := sampleMethod)
      901 1000 rfl
      ([.report { resource := sampleMethod, verdict := .fail } 5,
        .report { resource := sampleMethod, verdict := .fail } 6] ++ failures 900 901) [] ?_ ?_ ?_ ?_
      (show 901 ≤ 1006 ∧ 1006 < 901 + 1000 by decide) ?_
    · decide
    · decide
    · unfold IsTimely
      decide
    · decide
    · decide

end Engine

end CircuitBreaker

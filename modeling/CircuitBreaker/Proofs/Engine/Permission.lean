import CircuitBreaker.Proofs.Circuit.Admission
import CircuitBreaker.Proofs.Engine.InPlace

/-!
# `Proofs.Engine.Permission` — how an engine decides on a call

A permission is asked for in three rounds over the circuits that guard a resource: those that have
slept long enough wake, an open one refuses the call, and each half-open one gives a slot. The rounds
are told apart here (`wake_eq`, `verdict`, `takeSlots_eq`), and put together in `acquire_eq`: either a
listener failed over a circuit that woke, or all of them woke, the answer is read off the circuits then,
and slots are taken in all of them if the call may be sent, and in none otherwise.

That nothing is left of a call that is refused half way is a fact about one circuit: giving back the
slot that was just taken undoes it (`releaseProbe_of_acquireProbe?`).
-/

namespace CircuitBreaker

namespace Circuit

/-- The circuit after it was looked at before a call: an open one wakes if it has slept. -/
def wakened (now : Nat) (c : Circuit) : Circuit :=
  if c.phase = .opened then (c.evaluate now).1 else c

/-- Whether the circuit refuses a trial call, for want of a free slot. -/
def isFull (c : Circuit) : Bool := c.phase == .halfOpen && c.acquireProbe?.isNone

/-- The circuit after it let a call pass: a half-open one has a slot less. -/
def admitted (c : Circuit) : Circuit := c.acquireProbe?.getD c

variable {c d : Circuit}

theorem wakened_eq_run (now : Nat) (c : Circuit) : ∃ ops, c.wakened now = (c.run ops).1 := by
  unfold wakened
  split
  · exact ⟨[.evaluate now], rfl⟩
  · exact ⟨[], rfl⟩

theorem admitted_eq_run (c : Circuit) : ∃ ops, c.admitted = (c.run ops).1 := by
  unfold admitted
  cases h : c.acquireProbe? with
  | none => exact ⟨[], rfl⟩
  | some d => exact ⟨[.acquireProbe], by simp [run, step, h]⟩

theorem admitted_of_acquireProbe? (h : c.acquireProbe? = some d) : c.admitted = d := by
  unfold admitted
  rw [h]
  rfl

theorem admitted_of_phase_ne (h : c.phase ≠ .halfOpen) : c.admitted = c := by
  unfold admitted acquireProbe?
  rw [if_neg h]
  rfl

end Circuit

namespace Engine

variable {e : Engine} {r : Resource} {rs taken : List Resource} {now : Nat} {cache : CircuitCache}

/-! ## Waking -/

/-- What the listeners are told when an open circuit is looked at before a call. -/
def wakeNews (e : Engine) (r : Resource) (now : Nat) : Option Transition :=
  (e.cache.circuit? r).bind fun c => if c.phase = .opened then (c.evaluate now).2 else none

/-- The message of the listener that fails over that. -/
def wakeFault? (e : Engine) (now : Nat) (r : Resource) : Option String :=
  (deliverAny e.listeners (e.wakeNews r now)).fault

/-- Those of some resources that are looked at: all up to the first over which a listener fails. -/
def woken (e : Engine) (now : Nat) : List Resource → List Resource
  | [] => []
  | r :: rest => if (e.wakeFault? now r).isSome then [r] else r :: e.woken now rest

theorem woken_prefix (e : Engine) (now : Nat) (rs : List Resource) : e.woken now rs <+: rs := by
  induction rs with
  | nil => exact List.prefix_rfl
  | cons r rest ih =>
      unfold woken
      split
      · exact ⟨rest, rfl⟩
      · exact (List.prefix_cons_inj r).mpr ih

/-- If no listener fails, all of them are looked at. -/
theorem woken_eq_self (h : rs.findSome? (e.wakeFault? now) = none) : e.woken now rs = rs := by
  induction rs with
  | nil => rfl
  | cons r rest ih =>
      rw [List.findSome?_eq_none_iff] at h
      unfold woken
      rw [h r List.mem_cons_self]
      refine congrArg (r :: ·) (ih (List.findSome?_eq_none_iff.mpr fun s hs => ?_))
      exact h s (List.mem_cons_of_mem r hs)

/-- Only the news of the resources matters for who is looked at. -/
theorem woken_congr {d : Engine} (h : ∀ r ∈ rs, d.wakeFault? now r = e.wakeFault? now r) :
    d.woken now rs = e.woken now rs := by
  induction rs with
  | nil => rfl
  | cons r rest ih =>
      unfold woken
      rw [h r List.mem_cons_self, ih fun s hs => h s (List.mem_cons_of_mem r hs)]

/-- What happens to one circuit is no news of another. -/
theorem wakeNews_mapCircuits_of_ne {s : Resource} (hs : s ≠ r) (f : Circuit → Circuit) (now : Nat) :
    (e.mapCircuits (onAll [r] f)).wakeNews s now = e.wakeNews s now := by
  have hcircuit : (e.mapCircuits (onAll [r] f)).cache.circuit? s = e.cache.circuit? s :=
    CircuitCache.circuit?_mapCircuits_of_not_mem (List.mem_singleton.not.mpr hs) f e.cache
  unfold wakeNews
  rw [hcircuit]

theorem wakeFault?_mapCircuits_of_ne {s : Resource} (hs : s ≠ r) (f : Circuit → Circuit)
    (now : Nat) : (e.mapCircuits (onAll [r] f)).wakeFault? now s = e.wakeFault? now s := by
  unfold wakeFault?
  rw [wakeNews_mapCircuits_of_ne hs]
  rfl

theorem isTidy_wakened (h : e.cache.IsTidy) (rs : List Resource) (now : Nat) :
    (e.mapCircuits (onAll rs (Circuit.wakened now))).cache.IsTidy :=
  CircuitCache.isTidy_mapCircuits_onAll h rs fun c => by
    obtain ⟨ops, hops⟩ := c.wakened_eq_run now
    rw [hops, Circuit.resource_run]

/-- An open circuit that is evaluated wakes. -/
theorem evaluate_of_opened (h : e.cache.IsTidy) (now : Nat)
    (hopen : ((e.cache.circuit? r).any fun c => c.phase == .opened) = true) :
    e.evaluate r now =
      (e.mapCircuits (onAll [r] (Circuit.wakened now))).tell (e.wakeNews r now) := by
  have hphase : ∀ c, e.cache.circuit? r = some c → c.phase = .opened := by
    intro c hc
    rw [hc] at hopen
    exact beq_iff_eq.mp hopen
  have hwake : e.mapCircuits (onAll [r] (Circuit.wakened now)) =
      e.mapCircuits (onAll [r] fun c => (c.evaluate now).1) := by
    refine mapCircuits_onAll_singleton h fun c hc => ?_
    unfold Circuit.wakened
    rw [if_pos (hphase c hc)]
  have hnews : e.wakeNews r now = e.evaluateNews r now := by
    unfold wakeNews evaluateNews
    cases hc : e.cache.circuit? r with
    | none => rfl
    | some c => rw [Option.bind_some, Option.bind_some, if_pos (hphase c hc)]
  rw [evaluate_eq h, hwake, hnews]

/-- Nothing else wakes. -/
theorem wakened_of_not_opened (h : e.cache.IsTidy) (now : Nat)
    (hopen : ¬((e.cache.circuit? r).any fun c => c.phase == .opened) = true) :
    e.mapCircuits (onAll [r] (Circuit.wakened now)) = e ∧ e.wakeNews r now = none := by
  have hphase : ∀ c, e.cache.circuit? r = some c → c.phase ≠ .opened := by
    intro c hc hp
    rw [hc] at hopen
    exact hopen (beq_iff_eq.mpr hp)
  constructor
  · refine mapCircuits_onAll_singleton_eq_self h fun c hc => ?_
    unfold Circuit.wakened
    rw [if_neg (hphase c hc)]
  · unfold wakeNews
    cases hc : e.cache.circuit? r with
    | none => rfl
    | some c => rw [Option.bind_some, if_neg (hphase c hc)]

/-- A listener that fails over the first resource ends the round. -/
theorem wake_of_fault (h : e.cache.IsTidy) {message : String}
    (hfault : e.wakeFault? now r = some message) :
    e.wake now (r :: rs) = {
      engine := e.mapCircuits (onAll [r] (Circuit.wakened now))
      result := .error message
      notices := (deliverAny e.listeners (e.wakeNews r now)).notices } := by
  unfold wakeFault? at hfault
  rw [wake]
  by_cases hopen : ((e.cache.circuit? r).any fun c => c.phase == .opened) = true
  · rw [if_pos hopen, evaluate_of_opened h now hopen,
      tell_of_fault (e := e.mapCircuits (onAll [r] (Circuit.wakened now))) hfault]
    rfl
  · rw [(wakened_of_not_opened h now hopen).2] at hfault
    cases hfault

/-- Otherwise the round goes on. -/
theorem wake_of_no_fault (h : e.cache.IsTidy) (hfault : e.wakeFault? now r = none) :
    e.wake now (r :: rs) = {
      (e.mapCircuits (onAll [r] (Circuit.wakened now))).wake now rs with
      notices := (deliverAny e.listeners (e.wakeNews r now)).notices ++
        ((e.mapCircuits (onAll [r] (Circuit.wakened now))).wake now rs).notices } := by
  unfold wakeFault? at hfault
  rw [wake]
  by_cases hopen : ((e.cache.circuit? r).any fun c => c.phase == .opened) = true
  · rw [if_pos hopen, evaluate_of_opened h now hopen,
      tell_of_no_fault (e := e.mapCircuits (onAll [r] (Circuit.wakened now))) hfault]
    rfl
  · obtain ⟨hsame, hnone⟩ := wakened_of_not_opened h now hopen
    rw [if_neg hopen, hsame, hnone]
    rfl

/-- **Waking some resources** wakes each of their circuits, in turn. Only a listener that fails keeps
    the rest from waking. -/
theorem wake_eq (h : e.cache.IsTidy) (now : Nat) (hrs : rs.Nodup) :
    e.wake now rs = {
      engine := e.mapCircuits (onAll (e.woken now rs) (Circuit.wakened now))
      result := match rs.findSome? (e.wakeFault? now) with
        | some message => .error message
        | none => .ok ()
      notices := (e.woken now rs).flatMap fun r =>
        (deliverAny e.listeners (e.wakeNews r now)).notices } := by
  induction rs generalizing e with
  | nil =>
      simp only [wake, woken, mapCircuits_onAll_nil h]
      rfl
  | cons r rest ih =>
      obtain ⟨hr, hrest⟩ := List.nodup_cons.mp hrs
      have htidy : (e.mapCircuits (onAll [r] (Circuit.wakened now))).cache.IsTidy :=
        isTidy_wakened h [r] now
      -- what comes later is told as it stands before
      have hne : ∀ s ∈ rest, s ≠ r := fun s hs hsr => hr (hsr ▸ hs)
      have hfaults : ∀ s ∈ rest,
          (e.mapCircuits (onAll [r] (Circuit.wakened now))).wakeFault? now s =
            e.wakeFault? now s := fun s hs => wakeFault?_mapCircuits_of_ne (hne s hs) _ now
      rw [List.findSome?_cons, woken]
      cases hf : e.wakeFault? now r with
      | some message =>
          rw [wake_of_fault h hf]
          simp
      | none =>
          have hwoken := woken_congr hfaults
          have hrw : r ∉ e.woken now rest := fun hmem => hr ((e.woken_prefix now rest).subset hmem)
          rw [wake_of_no_fault h hf]
          simp only [ih htidy hrest, hwoken, findSome?_congr hfaults, mapCircuits_onAll_cons hrw,
            Option.isSome_none, Bool.false_eq_true, ↓reduceIte, List.flatMap_cons]
          refine congrArg (Reply.mk _ _) (congrArg _ (List.flatMap_congr fun s hs => ?_))
          rw [wakeNews_mapCircuits_of_ne (hne s ((e.woken_prefix now rest).subset hs))]
          rfl

/-! ## Slots -/

/-- **Giving slots back** gives one back in the circuit of each resource. -/
theorem giveBack_eq (h : cache.IsTidy) (htaken : taken.Nodup) :
    giveBack cache taken = cache.mapCircuits (onAll taken Circuit.releaseProbe) := by
  induction taken generalizing cache with
  | nil => exact (CircuitCache.mapCircuits_onAll_nil h _).symm
  | cons r rest ih =>
      obtain ⟨hr, hrest⟩ := List.nodup_cons.mp htaken
      have hcons : giveBack cache (r :: rest) = giveBack (giveBack cache [r]) rest := rfl
      have hone : giveBack cache [r] = cache.mapCircuits (onAll [r] Circuit.releaseProbe) := by
        cases hc : cache.circuit? r with
        | some c =>
            have hput : giveBack cache [r] = cache.put r c.releaseProbe := by simp [giveBack, hc]
            rw [hput]
            exact CircuitCache.put_of_circuit? h hc Circuit.releaseProbe
        | none =>
            have hsame : giveBack cache [r] = cache := by simp [giveBack, hc]
            rw [hsame]
            refine (CircuitCache.mapCircuits_onAll_singleton_eq_self h fun c hs => ?_).symm
            rw [hc] at hs
            cases hs
      have htidy : (cache.mapCircuits (onAll [r] Circuit.releaseProbe)).IsTidy :=
        CircuitCache.isTidy_mapCircuits_onAll h [r] fun _ => rfl
      rw [hcons, hone, ih htidy hrest, CircuitCache.mapCircuits_onAll_cons hr]

/-- The circuits of some resources. -/
def circuitsOf (cache : CircuitCache) (rs : List Resource) : List Circuit :=
  rs.filterMap cache.circuit?

/-- What is done to the circuits of other resources does not show. -/
theorem circuitsOf_mapCircuits_onAll {f : Circuit → Circuit} (hrs : ∀ s ∈ rs, s ∉ taken) :
    circuitsOf (cache.mapCircuits (onAll taken f)) rs = circuitsOf cache rs :=
  List.filterMap_congr fun s hs => CircuitCache.circuit?_mapCircuits_of_not_mem (hrs s hs) f cache

theorem find?_circuitsOf_cons (hnone : ∀ c, cache.circuit? r = some c → c.isFull = false) :
    (circuitsOf cache (r :: rs)).find? Circuit.isFull =
      (circuitsOf cache rs).find? Circuit.isFull := by
  unfold circuitsOf
  cases hc : cache.circuit? r with
  | none => rw [List.filterMap_cons_none hc]
  | some c => rw [List.filterMap_cons_some hc, List.find?_cons_of_neg (by simp [hnone c hc])]

/-- Taking a slot and giving it back with others is giving back the others. -/
theorem giveBack_admitted {c : Circuit} (h : cache.IsTidy) (hc : cache.circuit? r = some c)
    {d : Circuit} (hd : c.acquireProbe? = some d) (hr : r ∉ taken) :
    (cache.mapCircuits (onAll [r] Circuit.admitted)).mapCircuits
        (onAll (taken ++ [r]) Circuit.releaseProbe) =
      cache.mapCircuits (onAll taken Circuit.releaseProbe) := by
  rw [CircuitCache.mapCircuits_mapCircuits]
  refine CircuitCache.mapCircuits_congr h fun s x hx => ?_
  by_cases hs : s = r
  · subst hs
    rw [hc] at hx
    cases hx
    rw [onAll_of_mem List.mem_cons_self, onAll_of_mem (by simp), onAll_of_not_mem hr,
      Circuit.admitted_of_acquireProbe? hd, Circuit.releaseProbe_of_acquireProbe? hd]
  · rw [onAll_of_not_mem (List.mem_singleton.not.mpr hs)]
    unfold onAll
    simp [hs]

/-- A circuit that is not half open gives no slot. -/
theorem takeSlots_of_not_halfOpen
    (hphase : ∀ c, cache.circuit? r = some c → c.phase ≠ .halfOpen) :
    takeSlots cache taken (r :: rs) = takeSlots cache taken rs := by
  rw [takeSlots]
  cases hc : cache.circuit? r with
  | none => rfl
  | some c => simp only [if_neg (hphase c hc)]

/-- A circuit that is full ends the round. -/
theorem takeSlots_of_full {c : Circuit} (hc : cache.circuit? r = some c) (hp : c.phase = .halfOpen)
    (ha : c.acquireProbe? = none) :
    takeSlots cache taken (r :: rs) =
      (giveBack cache taken, .refused c.rule.name c.rule.fallback?) := by
  rw [takeSlots, hc]
  simp only [if_pos hp, ha]

/-- Otherwise a slot is taken, and the round goes on. -/
theorem takeSlots_of_free (h : cache.IsTidy) {c d : Circuit} (hc : cache.circuit? r = some c)
    (hp : c.phase = .halfOpen) (ha : c.acquireProbe? = some d) :
    takeSlots cache taken (r :: rs) =
      takeSlots (cache.mapCircuits (onAll [r] Circuit.admitted)) (taken ++ [r]) rs := by
  have hput : cache.put r d = cache.mapCircuits (onAll [r] Circuit.admitted) := by
    rw [← Circuit.admitted_of_acquireProbe? ha, CircuitCache.put_of_circuit? h hc]
  rw [takeSlots, hc]
  simp only [if_pos hp, ha, hput]

/-- **Slots are taken in all half-open circuits or in none.** The first that is full refuses the call,
    and the slots taken before, here and earlier, are given back. -/
theorem takeSlots_eq (h : cache.IsTidy) (hnodup : (taken ++ rs).Nodup) :
    takeSlots cache taken rs =
      match (circuitsOf cache rs).find? Circuit.isFull with
      | some c =>
          (cache.mapCircuits (onAll taken Circuit.releaseProbe),
            .refused c.rule.name c.rule.fallback?)
      | none => (cache.mapCircuits (onAll rs Circuit.admitted), {}) := by
  induction rs generalizing cache taken with
  | nil => rw [CircuitCache.mapCircuits_onAll_nil h]; rfl
  | cons r rest ih =>
      have hr : r ∉ rest := (List.nodup_cons.mp hnodup.of_append_right).1
      by_cases hhalf : ∃ c, cache.circuit? r = some c ∧ c.phase = .halfOpen
      · obtain ⟨c, hc, hp⟩ := hhalf
        cases ha : c.acquireProbe? with
        | none =>
            have hfull : c.isFull = true := by simp [Circuit.isFull, hp, ha]
            have hfind : (circuitsOf cache (r :: rest)).find? Circuit.isFull = some c := by
              unfold circuitsOf
              rw [List.filterMap_cons_some hc, List.find?_cons_of_pos hfull]
            rw [hfind, takeSlots_of_full hc hp ha, giveBack_eq h hnodup.of_append_left]
        | some d =>
            have htidy : (cache.mapCircuits (onAll [r] Circuit.admitted)).IsTidy :=
              CircuitCache.isTidy_mapCircuits_onAll h [r] fun x => by
                obtain ⟨ops, hops⟩ := x.admitted_eq_run
                rw [hops, Circuit.resource_run]
            have hmoved : (taken ++ [r] ++ rest).Nodup := by simpa using hnodup
            have htaken : r ∉ taken := fun hmem =>
              (List.nodup_append.mp hnodup).2.2 r hmem r List.mem_cons_self rfl
            have hothers : ∀ s ∈ rest, s ∉ [r] := by
              intro s hs hmem
              rw [List.mem_singleton.mp hmem] at hs
              exact hr hs
            have hfind : (circuitsOf cache (r :: rest)).find? Circuit.isFull =
                (circuitsOf cache rest).find? Circuit.isFull := by
              refine find?_circuitsOf_cons fun x hx => ?_
              rw [hc] at hx
              cases hx
              simp [Circuit.isFull, ha]
            rw [takeSlots_of_free h hc hp ha, ih htidy hmoved, circuitsOf_mapCircuits_onAll hothers,
              hfind, giveBack_admitted h hc ha htaken, CircuitCache.mapCircuits_onAll_cons hr]
      · -- a circuit that gives no slot is as if it were not there
        have hphase : ∀ c, cache.circuit? r = some c → c.phase ≠ .halfOpen :=
          fun c hc hp => hhalf ⟨c, hc, hp⟩
        have hskip : (taken ++ rest).Nodup :=
          hnodup.sublist ((List.sublist_cons_self r rest).append_left taken)
        have hfind : (circuitsOf cache (r :: rest)).find? Circuit.isFull =
            (circuitsOf cache rest).find? Circuit.isFull :=
          find?_circuitsOf_cons fun c hc => by simp [Circuit.isFull, hphase c hc]
        have hall : cache.mapCircuits (onAll (r :: rest) Circuit.admitted) =
            cache.mapCircuits (onAll rest Circuit.admitted) := by
          rw [← CircuitCache.mapCircuits_onAll_cons hr,
            CircuitCache.mapCircuits_onAll_singleton_eq_self h fun c hc =>
              Circuit.admitted_of_phase_ne (hphase c hc)]
        rw [takeSlots_of_not_halfOpen hphase, ih h hskip, hfind, hall]

/-! ## Permissions -/

/-- The answer to a call, as the circuits that guard the resource stand: the first that is open refuses
    it, or else the first half-open one without a free slot. -/
def verdict (e : Engine) (r : Resource) : Permission :=
  match (e.guards r).find? fun c => c.phase == .opened with
  | some c => .refused c.status.rule c.status.fallback
  | none =>
      match (e.guards r).find? Circuit.isFull with
      | some c => .refused c.rule.name c.rule.fallback?
      | none => {}

/-- No resource guards itself twice. -/
theorem nodup_cons_parents (r : Resource) : (r :: r.parents).Nodup := by
  cases r <;> simp [Resource.parents]

/-- **Any open circuit refuses the call.** -/
theorem verdict_of_opened {c : Circuit} (hc : c ∈ e.guards r) (hp : c.phase = .opened) :
    (e.verdict r).granted = false := by
  unfold verdict
  cases hfind : (e.guards r).find? fun c => c.phase == .opened with
  | some d => rfl
  | none =>
      have hnone := List.find?_eq_none.mp hfind c hc
      exact absurd (beq_iff_eq.mpr hp) hnone

/-- The engine once the circuits that guard a resource are awake. -/
def awake (e : Engine) (r : Resource) (now : Nat) : Engine :=
  e.mapCircuits (onAll (r :: r.parents) (Circuit.wakened now))

theorem isTidy_awake (h : e.cache.IsTidy) (r : Resource) (now : Nat) :
    (e.awake r now).cache.IsTidy :=
  isTidy_wakened h (r :: r.parents) now

/-- The engine after it answered a call, with the circuits awake: a call that may be sent has a slot in
    each that is half open. -/
def answered (e : Engine) (r : Resource) : Engine :=
  if (e.verdict r).granted then e.mapCircuits (onAll (r :: r.parents) Circuit.admitted) else e

/-- **What asking for a permission comes to.** If a listener fails over a circuit that wakes, those after
    it have not been looked at. If none does, the answer is read off the circuits that guard the
    resource, awake, and slots are taken if the call may be sent. -/
theorem acquire_eq (h : e.cache.IsTidy) (hactive : e.isActive = true) (r : Resource) (now : Nat) :
    e.acquire r now = {
      engine := match (r :: r.parents).findSome? (e.wakeFault? now) with
        | some _ => e.mapCircuits (onAll (e.woken now (r :: r.parents)) (Circuit.wakened now))
        | none => (e.awake r now).answered r
      result := match (r :: r.parents).findSome? (e.wakeFault? now) with
        | some message => .error message
        | none => .ok ((e.awake r now).verdict r)
      notices := (e.woken now (r :: r.parents)).flatMap fun s =>
        (deliverAny e.listeners (e.wakeNews s now)).notices } := by
  have htidy := isTidy_awake h r now
  unfold acquire
  rw [if_pos hactive, wake_eq h now (nodup_cons_parents r)]
  cases hfault : (r :: r.parents).findSome? (e.wakeFault? now) with
  | some message => rfl
  | none =>
      have hall : e.woken now (r :: r.parents) = r :: r.parents := woken_eq_self hfault
      have hawake : e.mapCircuits (onAll (e.woken now (r :: r.parents)) (Circuit.wakened now)) =
          e.awake r now := by
        rw [hall]
        rfl
      have hslots : takeSlots (e.awake r now).cache [] (r :: r.parents) =
          match ((e.awake r now).guards r).find? Circuit.isFull with
          | some c =>
              ((e.awake r now).cache.mapCircuits (onAll [] Circuit.releaseProbe),
                .refused c.rule.name c.rule.fallback?)
          | none =>
              ((e.awake r now).cache.mapCircuits (onAll (r :: r.parents) Circuit.admitted), {}) :=
        takeSlots_eq htidy (nodup_cons_parents r)
      rw [CircuitCache.mapCircuits_onAll_nil htidy] at hslots
      simp only [hawake]
      unfold answered verdict
      cases hopen : ((e.awake r now).guards r).find? fun c => c.phase == .opened with
      | some c => rfl
      | none =>
          simp only [hslots]
          cases ((e.awake r now).guards r).find? Circuit.isFull with
          | some c => rfl
          | none => rfl

/-- The two ways that asking for a permission can end. -/
theorem acquire_cases (h : e.cache.IsTidy) (hactive : e.isActive = true) (r : Resource) (now : Nat) :
    ((e.acquire r now).result = .ok ((e.awake r now).verdict r) ∧
      (e.acquire r now).engine = (e.awake r now).answered r) ∨
    ∃ message woke, (e.acquire r now).result = .error message ∧ CanFail e.listeners message ∧
      (e.acquire r now).engine = e.mapCircuits (onAll woke (Circuit.wakened now)) ∧
      woke <+: r :: r.parents := by
  rw [acquire_eq h hactive]
  cases hfault : (r :: r.parents).findSome? (e.wakeFault? now) with
  | none => exact Or.inl ⟨rfl, rfl⟩
  | some message =>
      obtain ⟨s, _, hs⟩ := List.exists_of_findSome?_eq_some hfault
      exact Or.inr ⟨message, _, rfl, canFail_of_fault hs, rfl, e.woken_prefix now _⟩

end Engine

end CircuitBreaker

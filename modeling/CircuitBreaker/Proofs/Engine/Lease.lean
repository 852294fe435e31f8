import CircuitBreaker.Proofs.Engine.Admission
import CircuitBreaker.Proofs.Engine.Protection
import CircuitBreaker.Proofs.Engine.Slots

/-!
# `Proofs.Engine.Lease` — how long a trial call keeps its slot

A trial call that does not come back must not hold its slot for ever, so a half-open circuit has a
deadline, and the first tick from then on gives up all slots that are taken. The deadline belongs to the
circuit and not to the call: it is set when the circuit becomes half open, one sleep window ahead, and
again each time that slots are given up (`probeDeadline_run`). Until then no slot is lost, whatever is
done except reporting on the resource (`keeps_run`).

A call that is let through late has what is left of the sleep window, and one that is let through after
the deadline has nothing at all: the next tick gives its slot up (`lease_cut_short`). Ticks do not renew
a deadline while no slot is taken.

## Contents
- `Circuit.Leases`, `Keeps`: slots that are taken until a deadline.
- `renews`, `stepTimes`: when deadlines are set.
- `slots_kept_until_deadline`: what a trial call can rely on.
- `KeepsFullLease`, `lease_cut_short`: what it cannot.
-/

namespace CircuitBreaker

namespace Circuit

variable {c d : Circuit} {slots deadline now : Nat}

/-! ## Slots that are taken -/

/-- **A circuit leases slots until a deadline**: it is half open and has at least so many taken. -/
structure Leases (slots deadline : Nat) (c : Circuit) : Prop where
  phase : c.phase = .halfOpen
  probeDeadline : c.probeDeadline = deadline
  slots_le : slots ≤ c.probe.inFlight

/-- Looking at it before the deadline does nothing. -/
theorem evaluate_of_leases (h : c.Leases slots deadline) (hnow : now < deadline) :
    (c.evaluate now).1 = c := by
  have hearly : ¬(c.probeDeadline ≤ now ∧ 0 < c.probe.inFlight) := by
    rw [h.probeDeadline]
    omega
  unfold evaluate
  simp only [h.phase]
  exact if_neg hearly

theorem wakened_of_leases (h : c.Leases slots deadline) : c.wakened now = c := by
  unfold wakened
  rw [if_neg]
  simp [h.phase]

theorem admitted_cases (c : Circuit) :
    c.admitted = c ∨
      c.phase = .halfOpen ∧ c.admitted = { c with probe := { c.probe with
        inFlight := c.probe.inFlight + 1 } } := by
  cases ha : c.acquireProbe? with
  | none =>
      refine Or.inl ?_
      unfold admitted
      rw [ha]
      rfl
  | some d =>
      obtain ⟨hp, _, hd⟩ := acquireProbe?_eq_some_iff.mp ha
      exact Or.inr ⟨hp, (admitted_of_acquireProbe? ha).trans hd⟩

/-- Letting another call through takes no slot away. -/
theorem Leases.admitted (h : c.Leases slots deadline) : c.admitted.Leases slots deadline := by
  rcases c.admitted_cases with hsame | ⟨_, hone⟩
  · rwa [hsame]
  · rw [hone]
    exact ⟨h.phase, h.probeDeadline, Nat.le_succ_of_le h.slots_le⟩

/-! ## When a deadline is set -/

/-- **The deadline of a circuit stands** over a change if the circuit was half open before it, and neither
    the deadline nor the rule is another. -/
structure Stands (c d : Circuit) : Prop where
  phase : c.phase = .halfOpen
  probeDeadline : d.probeDeadline = c.probeDeadline
  rule : d.rule = c.rule

/-- The deadline of a circuit is one sleep window after a time. -/
def SetAt (now : Nat) (c : Circuit) : Prop :=
  c.probeDeadline = Clock.after now c.rule.recovery.sleepWindow

theorem Stands.refl (h : c.phase = .halfOpen) : Stands c c := ⟨h, rfl, rfl⟩

/-- A report sets no deadline, since it makes no circuit half open. -/
theorem stands_of_effect {o : Outcome} {t : Option Transition} (h : Effect c (.report o now) d t)
    (hp : c.phase = .halfOpen) (hhalf : d.phase = .halfOpen) : Stands c d := by
  refine ⟨hp, ?_, (blank_eq_iff.mp (blank_effect h)).2.1⟩
  cases h with
  | nothing => rfl
  | touched t => rfl
  | counted o t hclosed hq => rfl
  | tripped o reason t hclosed =>
      rw [phase_enter] at hhalf
      cases hhalf
  | succeeded o t _ hs => rfl
  | concluded o success target reason t _ he =>
      rw [phase_enter] at hhalf
      rw [hhalf] at he
      exact absurd he (Phase.not_mem_next_self .halfOpen)
  | moved target reason t he =>
      rw [phase_enter] at hhalf
      rw [hhalf, hp] at he
      exact absurd he (Phase.not_mem_next_self .halfOpen)

theorem stands_report {o : Outcome} (hhalf : (c.report o now).1.phase = .halfOpen) :
    Stands c (c.report o now).1 :=
  stands_of_effect (effect_report o now) (inFlight_report hhalf).1 hhalf

theorem stands_admitted (hhalf : c.admitted.phase = .halfOpen) : Stands c c.admitted := by
  rcases c.admitted_cases with hsame | ⟨hp, hone⟩
  · rw [hsame] at hhalf ⊢
    exact .refl hhalf
  · rw [hone]
    exact ⟨hp, rfl, rfl⟩

/-- A circuit that becomes half open sets its deadline. -/
theorem setAt_enter (c : Circuit) (reason : String) (now : Nat) :
    SetAt now (c.enter .halfOpen reason now) := rfl

/-- A half-open circuit that is looked at sets its deadline if it gives up slots. -/
theorem releaseLost_cases (c : Circuit) (now : Nat) :
    c.releaseLost now = c ∨
      (0 < c.probe.inFlight ∧ (c.releaseLost now).probe.inFlight = 0) ∧ SetAt now (c.releaseLost now) := by
  unfold releaseLost
  split
  · rename_i hlost
    exact Or.inr ⟨⟨hlost.2, rfl⟩, rfl⟩
  · exact Or.inl rfl

/-- A circuit that is half open after it was looked at is as it was, or it has become half open, or it has
    given up slots. -/
theorem evaluate_cases (hhalf : (c.evaluate now).1.phase = .halfOpen) :
    (c.evaluate now).1 = c ∨
      (c.phase = .halfOpen → 0 < c.probe.inFlight ∧ (c.evaluate now).1.probe.inFlight = 0) ∧
        SetAt now (c.evaluate now).1 := by
  unfold evaluate at hhalf ⊢
  cases hp : c.phase with
  | closed =>
      simp only [hp] at hhalf ⊢
      cases hcheck : c.check now with
      | none => exact Or.inl rfl
      | some reason =>
          simp only [hcheck, trip, move_of_phase .opened reason now hp, phase_enter] at hhalf
          cases hhalf
  | opened =>
      simp only [hp] at hhalf ⊢
      cases c.hasSlept now with
      | false => exact Or.inl rfl
      | true =>
          simp only [startProbing, move_of_phase .halfOpen _ now hp, if_true]
          refine Or.inr ⟨fun h => ?_, setAt_enter c _ now⟩
          cases h
  | halfOpen => exact (c.releaseLost_cases now).imp_right fun h => ⟨fun _ => h.1, h.2⟩
  | destroyed => exact Or.inl rfl

/-- A circuit that is half open once it was woken was so before, or has become so. -/
theorem wakened_cases (hstands : Stands (c.wakened now) d) :
    Stands c d ∨ c.phase ≠ .halfOpen ∧ SetAt now d := by
  rw [wakened_eq_roused] at hstands
  unfold roused at hstands
  split at hstands
  · rename_i hslept
    refine Or.inr ⟨by simp [hslept.1], ?_⟩
    unfold SetAt
    rw [hstands.rule, hstands.probeDeadline]
    exact setAt_enter c _ now
  · exact Or.inl hstands

end Circuit

namespace Engine

open Circuit (Leases Stands SetAt)

variable {e : Engine} {op : Op} {r q : Resource} {c d : Circuit} {slots deadline now : Nat}

/-! ## Slots that are not lost -/

/-- **An engine keeps slots of a resource taken until a deadline**, or has forgotten the resource. -/
def Keeps (e : Engine) (r : Resource) (slots deadline : Nat) : Prop :=
  ∀ x, e.cache.find? r = some x → ∃ c, x.slot.circuit? = some c ∧ c.Leases slots deadline

/-- **No operation takes a slot away before the deadline**, unless it reports on the resource. -/
theorem keeps_step (h : e.IsOrderly) (hkeeps : e.Keeps r slots deadline)
    (hreport : op.reportOn? r = none) (htick : ∀ now, op = .tick now → now < deadline) :
    (e.step op).1.Keeps r slots deadline := by
  have heffect := entryEffect_step h op r
  unfold Keeps at hkeeps ⊢
  generalize e.cache.find? r = x? at heffect hkeeps
  generalize (e.step op).1.cache.find? r = y? at heffect ⊢
  -- what is done to the circuit in place keeps the slots if it does so for every such circuit
  have inPlace {f : Circuit → Circuit} (hf : ∀ c, c.Leases slots deadline → (f c).Leases slots deadline) :
      ∀ y, x?.map (CacheEntry.mapCircuit f) = some y →
        ∃ c, y.slot.circuit? = some c ∧ c.Leases slots deadline := by
    intro y hy
    obtain ⟨x, rfl, rfl⟩ := Option.map_eq_some_iff.mp hy
    obtain ⟨c, hc, hleases⟩ := hkeeps x rfl
    refine ⟨f c, ?_, hf c hleases⟩
    rw [CacheEntry.mapCircuit, Slot.circuit?_mapCircuit, hc]
    rfl
  cases heffect with
  | passed _ hop => exact hkeeps
  | absent => exact hkeeps
  | reported o t hop hr x =>
      rw [reportOn?_eq_some hop hr] at hreport
      cases hreport
  | learned o t hop hr =>
      rw [reportOn?_eq_some hop hr] at hreport
      cases hreport
  | woken q t hop hq _ =>
      apply inPlace
      intro c hleases
      rwa [Circuit.wakened_of_leases hleases]
  | admitted q t hop hq hgranted _ =>
      apply inPlace
      intro c hleases
      rw [Circuit.wakened_of_leases hleases]
      exact hleases.admitted
  | evaluated t hop _ =>
      apply inPlace
      intro c hleases
      rwa [Circuit.evaluate_of_leases hleases (htick t hop)]
  | swept t hop x hidle =>
      intro y hy
      cases hy
  | dropped hop _ =>
      intro y hy
      cases hy

theorem keeps_run (h : e.IsOrderly) (hkeeps : e.Keeps r slots deadline) (ops : List Op)
    (hreports : ∀ op ∈ ops, op.reportOn? r = none) (hticks : ∀ now, .tick now ∈ ops → now < deadline) :
    (e.run ops).1.Keeps r slots deadline := by
  induction ops generalizing e with
  | nil => exact hkeeps
  | cons op rest ih =>
      have hstep : (e.step op).1.Keeps r slots deadline := by
        apply keeps_step h hkeeps (hreports op List.mem_cons_self)
        rintro now rfl
        exact hticks now List.mem_cons_self
      apply ih (isOrderly_step h op) hstep
      · intro p hp
        exact hreports p (List.mem_cons_of_mem op hp)
      · intro now hp
        exact hticks now (List.mem_cons_of_mem op hp)

/-! ## The times at which deadlines are set -/

/-- Whether the operation is a tick. -/
def Op.isTick : Op → Bool
  | .tick _ => true
  | _ => false

/-- **The operation renews the deadline** of the trial calls of a resource: its circuit becomes half open,
    or gives up all slots that are taken. -/
def renews (r : Resource) (e : Engine) (op : Op) : Bool :=
  ((e.step op).1.cache.circuit? r).any fun d =>
    d.phase == .halfOpen &&
      (!(e.cache.circuit? r).any (fun c => c.phase == .halfOpen) ||
        op.isTick && decide (0 < slotsTaken r e) && d.probe.inFlight == 0)

/-- The times of those of some operations that meet a condition, each on the engine that it finds. -/
def stepTimes (p : Engine → Op → Bool) (e : Engine) : List Op → List Nat
  | [] => []
  | op :: rest => (if p e op then op.time?.toList else []) ++ (e.step op).1.stepTimes p rest

theorem stepTimes_snoc (p : Engine → Op → Bool) (e : Engine) (ops : List Op) (op : Op) :
    e.stepTimes p (ops ++ [op]) =
      e.stepTimes p ops ++ (if p (e.run ops).1 op then op.time?.toList else []) := by
  induction ops generalizing e with
  | nil => exact List.append_nil _
  | cons first rest ih =>
      have hrun : (e.run (first :: rest)).1 = ((e.step first).1.run rest).1 := rfl
      simp only [List.cons_append, stepTimes, ih, hrun, List.append_assoc]

theorem renews_iff (hd : (e.step op).1.cache.circuit? r = some d) (hhalf : d.phase = .halfOpen) :
    renews r e op = true ↔ (∀ c, e.cache.circuit? r = some c → c.phase ≠ .halfOpen) ∨
      op.isTick = true ∧ 0 < slotsTaken r e ∧ d.probe.inFlight = 0 := by
  unfold renews
  rw [hd]
  cases hc : e.cache.circuit? r with
  | none => simp [hhalf]
  | some c => simp [hhalf, and_assoc]

/-- **What an operation can do to the deadline of a circuit** that is half open after it. -/
inductive DeadlineStep (c? : Option Circuit) (op : Op) (d : Circuit) : Prop where
  /-- The deadline stands, and a tick has not given up any slot. -/
  | stood (c : Circuit) (hc : c? = some c) (hstands : Stands c d)
      (hslots : op.isTick = true → d.probe.inFlight = c.probe.inFlight)
  /-- The deadline is set, since the circuit became half open or gave up the slots that were taken. -/
  | set (now : Nat) (htime : op.time? = some now) (hset : SetAt now d)
      (hgave : ∀ c, c? = some c → c.phase = .halfOpen →
        op.isTick = true ∧ 0 < c.probe.inFlight ∧ d.probe.inFlight = 0)

/-- Asking for a permission sets a deadline only if the circuit wakes. -/
theorem deadlineStep_of_acquire {c? : Option Circuit} (hop : op = .acquire q now) (hc : c? = some c)
    (hstands : Stands (c.wakened now) d) : DeadlineStep c? op d := by
  subst hop hc
  rcases Circuit.wakened_cases hstands with hsame | ⟨hnew, hset⟩
  · exact .stood c rfl hsame fun htick => by cases htick
  · refine .set now rfl hset ?_
    rintro b ⟨⟩ hp
    exact absurd hp hnew

theorem deadlineStep_of_tick {c? : Option Circuit} (hop : op = .tick now) (hc : c? = some c)
    (hhalf : (c.evaluate now).1.phase = .halfOpen) : DeadlineStep c? op (c.evaluate now).1 := by
  subst hop hc
  rcases Circuit.evaluate_cases hhalf with hsame | ⟨hgave, hset⟩
  · rw [hsame] at hhalf ⊢
    exact .stood c rfl (.refl hhalf) fun _ => rfl
  · refine .set now rfl hset ?_
    rintro b ⟨⟩ hp
    exact ⟨rfl, hgave hp⟩

/-- **Every operation does one of the two.** -/
theorem deadline_step (h : e.IsOrderly) (hd : (e.step op).1.cache.circuit? r = some d)
    (hhalf : d.phase = .halfOpen) : DeadlineStep (e.cache.circuit? r) op d := by
  have heffect := entryEffect_step h op r
  unfold CircuitCache.circuit? at hd ⊢
  generalize e.cache.find? r = x? at heffect ⊢
  generalize (e.step op).1.cache.find? r = y? at heffect hd
  cases heffect with
  | passed _ hop => exact .stood d hd (.refl hhalf) fun _ => rfl
  | absent => cases hd
  | reported o t hop hr x =>
      have hentry : x.slot.circuit?.map (fun c => (c.report o t).1) = some d :=
        (Slot.circuit?_mapCircuit _ x.slot).symm.trans hd
      obtain ⟨c, hc, rfl⟩ := Option.map_eq_some_iff.mp hentry
      refine .stood c hc (Circuit.stands_report hhalf) fun htick => ?_
      cases op with
      | tick _ => cases hop
      | _ => cases htick
  | learned o t hop hr => exact absurd hhalf (phase_ne_of_learned h hd)
  | woken q t hop hq _ =>
      rw [bind_map_mapCircuit] at hd
      obtain ⟨c, hc, rfl⟩ := Option.map_eq_some_iff.mp hd
      exact deadlineStep_of_acquire hop hc (.refl hhalf)
  | admitted q t hop hq hgranted _ =>
      rw [bind_map_mapCircuit] at hd
      obtain ⟨c, hc, rfl⟩ := Option.map_eq_some_iff.mp hd
      exact deadlineStep_of_acquire hop hc (Circuit.stands_admitted hhalf)
  | evaluated t hop _ =>
      rw [bind_map_mapCircuit] at hd
      obtain ⟨c, hc, rfl⟩ := Option.map_eq_some_iff.mp hd
      exact deadlineStep_of_tick hop hc hhalf
  | swept t hop x hidle => cases hd
  | dropped hop _ => cases hd

theorem slotsTaken_of_halfOpen (hc : e.cache.circuit? r = some c) (hp : c.phase = .halfOpen) :
    slotsTaken r e = c.probe.inFlight := by
  unfold slotsTaken
  rw [hc]
  exact Circuit.slots_of_halfOpen hp

/-- An operation renews a deadline exactly if it sets it. -/
theorem renews_of_stood (hd : (e.step op).1.cache.circuit? r = some d) (hhalf : d.phase = .halfOpen)
    (hc : e.cache.circuit? r = some c) (hp : c.phase = .halfOpen)
    (hslots : op.isTick = true → d.probe.inFlight = c.probe.inFlight) : renews r e op = false := by
  rw [← Bool.not_eq_true, renews_iff hd hhalf, slotsTaken_of_halfOpen hc hp]
  rintro (hnew | ⟨htick, htaken, hnone⟩)
  · exact hnew c hc hp
  · have hsame := hslots htick
    omega

theorem renews_of_set (hd : (e.step op).1.cache.circuit? r = some d) (hhalf : d.phase = .halfOpen)
    (hgave : ∀ c, e.cache.circuit? r = some c → c.phase = .halfOpen →
      op.isTick = true ∧ 0 < c.probe.inFlight ∧ d.probe.inFlight = 0) : renews r e op = true := by
  rw [renews_iff hd hhalf]
  by_cases hbefore : ∃ c, e.cache.circuit? r = some c ∧ c.phase = .halfOpen
  · obtain ⟨c, hc, hp⟩ := hbefore
    rw [slotsTaken_of_halfOpen hc hp]
    exact Or.inr (hgave c hc hp)
  · refine Or.inl ?_
    intro c hc hp
    exact hbefore ⟨c, hc, hp⟩

/-- **The deadline of a half-open circuit** is one sleep window after the last operation that renewed it. -/
theorem probeDeadline_run (h : e.IsOrderly) (hempty : e.cache.entries = []) (ops : List Op)
    (hd : (e.run ops).1.cache.circuit? r = some d) (hhalf : d.phase = .halfOpen) :
    ∃ since, (e.stepTimes (renews r) ops).getLast? = some since ∧ SetAt since d := by
  -- the last operation may be the one that renewed the deadline, so the induction is from the end
  induction ops using List.reverseRecOn generalizing d with
  | nil =>
      obtain ⟨x, hx, _⟩ := CircuitCache.exists_of_circuit? h.cache.isPlaced hd
      rw [hempty] at hx
      cases hx
  | append_singleton ops op ih =>
      rw [run_snoc] at hd
      rw [stepTimes_snoc]
      cases deadline_step (isOrderly_run h ops) hd hhalf with
      | stood c hc hstands hslots =>
          obtain ⟨since, hlast, hset⟩ := ih hc hstands.phase
          have hkept := renews_of_stood hd hhalf hc hstands.phase hslots
          refine ⟨since, by simpa [hkept] using hlast, ?_⟩
          unfold SetAt at hset ⊢
          rw [hstands.probeDeadline, hstands.rule, hset]
      | set now htime hset hgave =>
          have hrenewed := renews_of_set hd hhalf hgave
          exact ⟨now, by simp [hrenewed, htime], hset⟩

/-! ## What a trial call can rely on -/

/-- No guard is full when a call may be sent. -/
theorem isFull_of_granted (hgranted : (e.verdict q).granted = true) (hc : c ∈ e.guards q) :
    c.isFull = false := by
  unfold verdict at hgranted
  cases hopen : (e.guards q).find? fun c => c.phase == .opened with
  | some b =>
      rw [hopen] at hgranted
      cases hgranted
  | none =>
      cases hfull : (e.guards q).find? Circuit.isFull with
      | some b =>
          simp only [hopen, hfull] at hgranted
          cases hgranted
      | none => simpa using List.find?_eq_none.mp hfull c hc

/-- **A call that may be sent takes a slot** in every half-open circuit that guards its resource: one more
    is taken than before. -/
theorem inFlight_of_granted (h : e.IsOrderly)
    (hgranted : (e.step (.acquire q now)).2.1.isGranted = true) (hr : r ∈ q :: q.parents)
    (hc : (e.step (.acquire q now)).1.cache.circuit? r = some c) (hp : c.phase = .halfOpen) :
    c.probe.inFlight = slotsTaken r e + 1 := by
  simp only [step, Answer.ofReply_engine] at hc
  -- an engine that does no work lets every call pass, but has no circuits
  have hactive : e.isActive = true := by
    by_contra hidle
    have hsame : (e.acquire q now).engine = e := by
      unfold acquire
      rw [if_neg hidle]
    rw [hsame] at hc
    exact hidle (h.isActive_of_circuit? hc)
  rcases acquire_cases h.cache hactive q now with ⟨hresult, hengine⟩ | ⟨message, _, hresult, _⟩
  · simp only [step, Answer.ofReply, hresult] at hgranted
    have hslots : (e.acquire q now).engine =
        (e.awake q now).mapCircuits (onAll (q :: q.parents) Circuit.admitted) := by
      rw [hengine]
      exact if_pos hgranted
    have hadmitted : (e.acquire q now).engine.cache.circuit? r =
        ((e.awake q now).cache.circuit? r).map Circuit.admitted := by
      have hplace := CircuitCache.circuit?_mapCircuits (onAll (q :: q.parents) Circuit.admitted)
        (e.awake q now).cache r
      rw [onAll_of_mem hr] at hplace
      rw [hslots]
      exact hplace
    rw [hadmitted] at hc
    obtain ⟨b, hb, rfl⟩ := Option.map_eq_some_iff.mp hc
    have hfree := isFull_of_granted hgranted (List.mem_filterMap.mpr ⟨r, hr, hb⟩)
    -- the circuit before the call, which may have been woken by it
    have hawake : (e.awake q now).cache.circuit? r =
        (e.cache.circuit? r).map (Circuit.wakened now) := by
      have hplace := CircuitCache.circuit?_mapCircuits
        (onAll (q :: q.parents) (Circuit.wakened now)) e.cache r
      rwa [onAll_of_mem hr] at hplace
    rw [hawake] at hb
    obtain ⟨a, ha, rfl⟩ := Option.map_eq_some_iff.mp hb
    have htaken : slotsTaken r e = (a.wakened now).slots := by
      unfold slotsTaken slotsOf
      rw [ha, Circuit.slots_wakened]
      rfl
    rw [Circuit.admitted_eq_withSlot hfree] at hp ⊢
    unfold Circuit.withSlot at hp ⊢
    split at hp
    · rename_i hhalf
      rw [if_pos hhalf, htaken, Circuit.slots_of_halfOpen hhalf]
    · rename_i hother
      exact absurd hp hother
  · -- a listener that fails keeps the caller from a permission
    simp only [step, Answer.ofReply, hresult] at hgranted
    cases hgranted

/-- **A trial call keeps its slot until the deadline of its circuit.** Take an engine that was built, any
    operations, and a call that may be sent. Let a circuit that guards the resource of the call, its own
    or that of its service, be half open then.
    * The call has taken a slot of it: one more is taken than before the call.
    * The deadline of the circuit is one sleep window after the last time at which the circuit became
      half open or gave up the slots that were taken.
    * Over any operations after the call, none of which reports on the resource of the circuit, and with
      ticks before the deadline only, the circuit stays half open with no slot less taken, unless it is
      forgotten. -/
theorem slots_kept_until_deadline {setup : EngineSetup} {start : Nat} {first : Engine}
    (hbuild : build? setup start = .ok first) (pre : List Op) {t : Nat}
    (hgranted : ((first.run pre).1.step (.acquire q t)).2.1.isGranted = true)
    (hr : r ∈ q :: q.parents)
    (hc : (first.run (pre ++ [.acquire q t])).1.cache.circuit? r = some c) (hp : c.phase = .halfOpen) :
    c.probe.inFlight = slotsTaken r (first.run pre).1 + 1 ∧
    (∃ since, (first.stepTimes (renews r) (pre ++ [.acquire q t])).getLast? = some since ∧
      c.probeDeadline = Clock.after since c.rule.recovery.sleepWindow) ∧
    ∀ mid d, (∀ op ∈ mid, op.reportOn? r = none) →
      (∀ now, .tick now ∈ mid → now < c.probeDeadline) →
      (first.run (pre ++ [.acquire q t] ++ mid)).1.cache.circuit? r = some d →
      d.phase = .halfOpen ∧ c.probe.inFlight ≤ d.probe.inFlight := by
  have h := isOrderly_build? hbuild
  have hempty : first.cache.entries = [] := by
    obtain ⟨_, rfl⟩ := eq_of_build? hbuild
    rfl
  refine ⟨?_, probeDeadline_run h hempty _ hc hp, ?_⟩
  · rw [run_snoc] at hc
    exact inFlight_of_granted (isOrderly_run h pre) hgranted hr hc hp
  · intro mid d hreports hticks hd
    have hkeeps : (first.run (pre ++ [.acquire q t])).1.Keeps r c.probe.inFlight c.probeDeadline := by
      intro x hx
      refine ⟨c, ?_, hp, rfl, Nat.le_refl _⟩
      unfold CircuitCache.circuit? at hc
      rwa [hx] at hc
    have hlater := keeps_run (isOrderly_run h _) hkeeps mid hreports hticks
    rw [run_append] at hd
    obtain ⟨x, hx, hslot⟩ := Option.bind_eq_some_iff.mp hd
    obtain ⟨b, hb, hleases⟩ := hlater x hx
    rw [hslot] at hb
    cases hb
    exact ⟨hleases.phase, hleases.slots_le⟩

/-- The sample circuit is half open from 1006 on, with a deadline at 2006. -/
def halfOpenAt1006 : List Op := failures 5 6 ++ [.tick 1006]

/-- A call to a method of the sample service takes the only slot at 1500, and keeps it over a late tick,
    a call that is refused, a reload of another service and a sweep. -/
theorem sample_slot_kept :
    (let mid := [Op.tick 2005, .acquire Circuit.sample.resource 5000,
       .load { realm := "default", name := "other" } [], .cleanup 5001]
     build? plainSetup 0 = .ok sample ∧
     ((sample.run halfOpenAt1006).1.step (.acquire sampleMethod 1500)).2.1.isGranted = true ∧
     ∃ c d, (sample.run (halfOpenAt1006 ++ [.acquire sampleMethod 1500])).1.cache.circuit?
         Circuit.sample.resource = some c ∧ c.phase = .halfOpen ∧ c.probe.inFlight = 1 ∧
       c.probeDeadline = Clock.after 1006 c.rule.recovery.sleepWindow ∧
       (sample.run (halfOpenAt1006 ++ [.acquire sampleMethod 1500] ++ mid)).1.cache.circuit?
         Circuit.sample.resource = some d ∧ d.phase = .halfOpen ∧
       c.probe.inFlight ≤ d.probe.inFlight) := by
  intro mid
  have hbuild : build? plainSetup 0 = .ok sample := rfl
  have hgranted :
      ((sample.run halfOpenAt1006).1.step (.acquire sampleMethod 1500)).2.1.isGranted = true := by
    decide
  have hstate : ((sample.run (halfOpenAt1006 ++ [.acquire sampleMethod 1500])).1.cache.circuit?
      Circuit.sample.resource).map (fun c => (c.phase, c.probeDeadline)) =
        some (.halfOpen, 2006) := by decide
  obtain ⟨c, hc, hstate⟩ := Option.map_eq_some_iff.mp hstate
  injection hstate with hp hdeadline
  obtain ⟨d, hd⟩ : ∃ d, (sample.run (halfOpenAt1006 ++ [.acquire sampleMethod 1500] ++ mid)).1.cache.circuit?
      Circuit.sample.resource = some d := Option.isSome_iff_exists.mp (by decide)
  obtain ⟨htaken, ⟨since, hsince, hset⟩, hkept⟩ :=
    slots_kept_until_deadline hbuild halfOpenAt1006 hgranted (by decide) hc hp
  have htimes : sample.stepTimes (renews Circuit.sample.resource)
      (halfOpenAt1006 ++ [.acquire sampleMethod 1500]) = [1006] := by decide
  rw [htimes] at hsince
  cases hsince
  have hfree : slotsTaken Circuit.sample.resource (sample.run halfOpenAt1006).1 = 0 := by decide
  rw [hfree] at htaken
  have hticks : ∀ now, .tick now ∈ mid → now < c.probeDeadline := by
    intro now hnow
    rw [hdeadline]
    have hlate : now = 2005 := by simpa [mid] using hnow
    omega
  obtain ⟨hphase, hle⟩ := hkept mid d (by decide) hticks hd
  exact ⟨hbuild, hgranted, c, d, hc, hp, htaken, hset, hd, hphase, hle⟩

/-! ## What it cannot rely on -/

/-- The promise that a trial call keeps its slot for a whole sleep window after it was let through, made for
    some calls, each known by its circuit and its time: over timely operations within that window, none of
    which reports on the resource of the circuit, no slot less is taken as long as the circuit is half
    open. -/
def KeepsFullLease (setup : EngineSetup) (covers : Circuit → Nat → Prop) : Prop :=
  ∀ (start : Nat) (first : Engine) (pre mid : List Op) (r q : Resource) (t : Nat) (c d : Circuit),
    build? setup start = .ok first → IsTimely (pre ++ [.acquire q t] ++ mid) →
    ((first.run pre).1.step (.acquire q t)).2.1.isGranted = true → r ∈ q :: q.parents →
    (first.run (pre ++ [.acquire q t])).1.cache.circuit? r = some c → c.phase = .halfOpen →
    covers c t → (∀ op ∈ mid, op.reportOn? r = none) →
    (∀ op ∈ mid, ∀ now, op.time? = some now → now < t + c.rule.recovery.sleepWindow) →
    (first.run (pre ++ [.acquire q t] ++ mid)).1.cache.circuit? r = some d → d.phase = .halfOpen →
    c.probe.inFlight ≤ d.probe.inFlight

/-- A promise made for more calls is harder to keep. -/
theorem KeepsFullLease.mono {setup : EngineSetup} {covers more : Circuit → Nat → Prop}
    (h : ∀ c t, covers c t → more c t) (hall : KeepsFullLease setup more) :
    KeepsFullLease setup covers := by
  intro start first pre mid r q t c d hbuild htimely hgranted hr hc hp hcovers
  exact hall start first pre mid r q t c d hbuild htimely hgranted hr hc hp (h c t hcovers)

/-- One call that loses its slot at a tick breaks the promise. -/
theorem not_keepsFullLease {setup : EngineSetup} {covers : Circuit → Nat → Prop} {first : Engine}
    (hbuild : build? setup 0 = .ok first) (pre : List Op) (t tick window deadline : Nat)
    (hgranted : ((first.run pre).1.step (.acquire r t)).2.1.isGranted = true)
    (htimely : IsTimely (pre ++ [.acquire r t] ++ [.tick tick]))
    (hbefore : ((first.run (pre ++ [.acquire r t])).1.cache.circuit? r).map
      (fun c => (c.phase, c.probe.inFlight, c.probeDeadline, c.rule.recovery.sleepWindow)) =
        some (.halfOpen, 1, deadline, window))
    (hcovers : ∀ c, c.probeDeadline = deadline → covers c t) (htick : tick < t + window)
    (hafter : ((first.run (pre ++ [.acquire r t] ++ [.tick tick])).1.cache.circuit? r).map
      (fun d => (d.phase, d.probe.inFlight)) = some (.halfOpen, 0)) :
    ¬KeepsFullLease setup covers := by
  intro hall
  obtain ⟨c, hc, hbefore⟩ := Option.map_eq_some_iff.mp hbefore
  injection hbefore with hp hbefore
  injection hbefore with hone hbefore
  injection hbefore with hdeadline hwindow
  obtain ⟨d, hd, hafter⟩ := Option.map_eq_some_iff.mp hafter
  injection hafter with hstill hnone
  have hreports : ∀ op ∈ [Op.tick tick], op.reportOn? r = none := by
    intro op hop
    rw [List.mem_singleton.mp hop]
    rfl
  have htimes : ∀ op ∈ [Op.tick tick], ∀ now, op.time? = some now →
      now < t + c.rule.recovery.sleepWindow := by
    intro op hop now hnow
    rw [List.mem_singleton.mp hop] at hnow
    cases hnow
    rwa [hwindow]
  have hle := hall 0 first pre [.tick tick] r r t c d hbuild htimely hgranted List.mem_cons_self hc hp
    (hcovers c hdeadline) hreports htimes hd hstill
  omega

/-- **A trial call can have less than a sleep window.** The sample circuit is half open from 1006 on, and its
    sleep window is a second. A call at 2000 has its slot for six milliseconds, as the deadline of the
    circuit is at 2006. A call at 2500, when that deadline is over, loses its slot at the next tick. -/
theorem lease_cut_short :
    ¬KeepsFullLease plainSetup (fun _ _ => True) ∧
    ¬KeepsFullLease plainSetup (fun c t => t < c.probeDeadline) ∧
    ¬KeepsFullLease plainSetup (fun c t => c.probeDeadline ≤ t) := by
  have hbuild : build? plainSetup 0 = .ok sample := rfl
  have hearly : ¬KeepsFullLease plainSetup fun c t => t < c.probeDeadline := by
    refine not_keepsFullLease (r := Circuit.sample.resource) hbuild halfOpenAt1006 2000 2006 1000 2006
      ?_ ?_ ?_ ?_ (by decide) ?_
    · decide
    · unfold IsTimely
      decide
    · decide
    · intro c hdeadline
      rw [hdeadline]
      decide
    · decide
  have hlate : ¬KeepsFullLease plainSetup fun c t => c.probeDeadline ≤ t := by
    refine not_keepsFullLease (r := Circuit.sample.resource) hbuild halfOpenAt1006 2500 2501 1000 2006
      ?_ ?_ ?_ ?_ (by decide) ?_
    · decide
    · unfold IsTimely
      decide
    · decide
    · intro c hdeadline
      rw [hdeadline]
      decide
    · decide
  exact ⟨mt (KeepsFullLease.mono fun _ _ _ => trivial) hearly, hearly, hlate⟩

end Engine

end CircuitBreaker

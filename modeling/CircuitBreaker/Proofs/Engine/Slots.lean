import Mathlib.Data.List.Induction
import CircuitBreaker.Proofs.Engine.Freshness
import CircuitBreaker.Proofs.Engine.OneResource

/-!
# `Proofs.Engine.Slots` — which slots for trial calls come back

A call that may be sent takes a slot in every half-open circuit that guards its resource, that of its
service among them. Its outcome is reported on the resource itself, and so gives back a slot in one
circuit only. The slots are counted here for one resource: a **call** to it that may be sent takes one
(`admits`), a report on it gives one back (`returns`), and a **stray** is a call to a part of it that
takes one and does not give it back (`strays`).

As long as no more is reported than was sent, the slots taken and the calls returned are at most the
calls sent and the strays (`slotsTaken_add_returned_le`). So when every call has come back, only strays
hold slots. There are none where a resource has no parts, but a service can be left with a slot that is
taken for good (`stray_keeps_slot`).
-/

namespace CircuitBreaker

namespace Circuit

variable {c : Circuit} {now : Nat}

/-- The slots that are taken, while the circuit is half open. -/
def slots (c : Circuit) : Nat := if c.phase = .halfOpen then c.probe.inFlight else 0

theorem slots_of_halfOpen (hp : c.phase = .halfOpen) : c.slots = c.probe.inFlight := if_pos hp

theorem slots_of_ne (hp : c.phase ≠ .halfOpen) : c.slots = 0 := if_neg hp

/-- A report gives a slot back, if there is one that is taken. -/
theorem slots_report (c : Circuit) (o : Outcome) (now : Nat) :
    (c.report o now).1.slots = 0 ∨
      (c.report o now).1.slots + (if o.verdict = .reject then 0 else 1) ≤ c.slots := by
  by_cases hhalf : (c.report o now).1.phase = .halfOpen
  · obtain ⟨hp, hslots⟩ := inFlight_report hhalf
    rw [slots_of_halfOpen hhalf, slots_of_halfOpen hp, hslots]
    split <;> omega
  · exact Or.inl (slots_of_ne hhalf)

/-- A circuit that wakes starts without a slot taken, and looking at it takes none. -/
theorem slots_evaluate_le (c : Circuit) (now : Nat) : (c.evaluate now).1.slots ≤ c.slots := by
  unfold evaluate
  cases hp : c.phase with
  | closed =>
      simp only
      cases c.check now with
      | none => exact Nat.le_refl _
      | some reason =>
          simp only [trip, move, hp, if_true]
          rw [slots_of_ne (by simp)]
          exact Nat.zero_le _
  | opened =>
      simp only
      split
      · simp only [startProbing, move, hp, if_true]
        rw [slots_of_halfOpen (phase_enter _ _ _ _)]
        exact Nat.zero_le _
      · exact Nat.le_refl _
  | halfOpen =>
      show (c.releaseLost now).slots ≤ c.slots
      unfold releaseLost
      split
      · rw [slots_of_halfOpen (by exact hp)]
        exact Nat.zero_le _
      · exact Nat.le_refl _
  | destroyed => exact Nat.le_refl _

/-- Waking takes no slot and gives none back: a circuit that becomes half open has none taken. -/
theorem slots_wakened (c : Circuit) (now : Nat) : (c.wakened now).slots = c.slots := by
  unfold wakened
  split
  · rename_i hopen
    have hnone : c.slots = 0 := slots_of_ne (by simp [hopen])
    have hle := slots_evaluate_le c now
    omega
  · rfl

/-- A call that passes takes one slot at most. -/
theorem slots_admitted_le (c : Circuit) : c.admitted.slots ≤ c.slots + 1 := by
  unfold admitted
  cases ha : c.acquireProbe? with
  | none => exact Nat.le_succ _
  | some d =>
      obtain ⟨hp, _, rfl⟩ := acquireProbe?_eq_some_iff.mp ha
      rw [slots_of_halfOpen hp]
      exact Nat.le_of_eq (slots_of_halfOpen hp)

end Circuit

namespace Engine

/-! ## Counting -/

/-- How many of some operations meet a condition, each on the engine that it finds. -/
def countSteps (p : Engine → Op → Bool) (e : Engine) : List Op → Nat
  | [] => 0
  | op :: rest => (p e op).toNat + (e.step op).1.countSteps p rest

/-- The operation asks for a call to the resource, which may be sent. -/
def admits (r : Resource) (e : Engine) : Op → Bool
  | .acquire q now => q == r && (e.step (.acquire q now)).2.1.isGranted
  | _ => false

/-- The operation reports that a call to the resource came back. -/
def returns (r : Resource) (_ : Engine) (op : Op) : Bool :=
  op.report?.any fun p => p.1.resource == r && p.1.verdict != .reject

/-- The operation asks for a call to a part of the resource, which may be sent as a trial call. -/
def strays (r : Resource) (e : Engine) : Op → Bool
  | .acquire q now =>
      decide (r ∈ q.parents) && (e.step (.acquire q now)).2.1.isGranted
        && ((e.step (.acquire q now)).1.cache.circuit? r).any fun c => c.phase == .halfOpen
  | _ => false

/-- The slots that are taken in a circuit, if there is one. -/
def slotsOf (c? : Option Circuit) : Nat := (c?.map Circuit.slots).getD 0

/-- The slots that are taken in the circuit of a resource, while it is half open. -/
def slotsTaken (r : Resource) (e : Engine) : Nat := slotsOf (e.cache.circuit? r)

variable {e : Engine} {op : Op} {r : Resource}

theorem countSteps_snoc (p : Engine → Op → Bool) (e : Engine) (ops : List Op) (op : Op) :
    e.countSteps p (ops ++ [op]) = e.countSteps p ops + (p (e.run ops).1 op).toNat := by
  induction ops generalizing e with
  | nil => simp [countSteps]
  | cons first rest ih =>
      have hrun : (e.run (first :: rest)).1 = ((e.step first).1.run rest).1 := rfl
      simp only [List.cons_append, countSteps, ih, hrun, Nat.add_assoc]

/-! ## One operation -/

theorem slotsTaken_of_find? {x? : Option CacheEntry} (h : e.cache.find? r = x?) :
    slotsTaken r e = slotsOf (x?.bind fun x => x.slot.circuit?) := by
  unfold slotsTaken CircuitCache.circuit?
  rw [h]

theorem bind_map_mapCircuit (f : Circuit → Circuit) (x? : Option CacheEntry) :
    ((x?.map (CacheEntry.mapCircuit f)).bind fun x => x.slot.circuit?) =
      (x?.bind fun x => x.slot.circuit?).map f := by
  cases x? with
  | none => rfl
  | some x => exact Slot.circuit?_mapCircuit f x.slot

/-- What a change of the circuit does to the slots is what it does to those of the circuit. -/
theorem slotsOf_map_le {f : Circuit → Circuit} {c? : Option Circuit} {given taken : Nat}
    (hf : ∀ c, c? = some c → (f c).slots = 0 ∨ (f c).slots + given ≤ c.slots + taken) :
    slotsOf (c?.map f) = 0 ∨ slotsOf (c?.map f) + given ≤ slotsOf c? + taken := by
  cases c? with
  | none => exact Or.inl rfl
  | some c => exact hf c rfl

theorem returns_eq_zero (h : ∀ o now, op.report? = some (o, now) → o.resource ≠ r) :
    (returns r e op).toNat = 0 := by
  unfold returns
  cases hreport : op.report? with
  | none => rfl
  | some p =>
      have hne := h p.1 p.2 hreport
      simp [hne]

theorem returns_of_report? {o : Outcome} {now : Nat} (hop : op.report? = some (o, now))
    (hr : o.resource = r) : (returns r e op).toNat = if o.verdict = .reject then 0 else 1 := by
  unfold returns
  rw [hop]
  by_cases hv : o.verdict = .reject <;> simp [hr, hv]

/-- A call that is let pass by a half-open circuit is one to its resource, or a stray. -/
theorem one_le_admits_add_strays {q : Resource} {now : Nat} (hop : op = .acquire q now)
    (hq : r ∈ q :: q.parents) (hgranted : (e.step op).2.1.isGranted = true) {c : Circuit}
    (hafter : (e.step op).1.cache.circuit? r = some c) (hhalf : c.phase = .halfOpen) :
    1 ≤ (admits r e op).toNat + (strays r e op).toNat := by
  subst hop
  rcases List.mem_cons.mp hq with rfl | hparent
  · simp [admits, hgranted]
  · simp [strays, hparent, hgranted, hafter, hhalf]

/-- A circuit that is made for a first report is closed before it, and so not half open after it. -/
theorem phase_ne_of_learned (h : e.IsOrderly) {o : Outcome} {now : Nat} {c : Circuit}
    (hc : (CacheEntry.mapCircuit (fun c => (c.report o now).1) (e.cache.added r now
      (e.newCircuit? r o.caller now (e.patterns, e.source)).1)).slot.circuit? = some c) :
    c.phase ≠ .halfOpen := by
  intro hhalf
  generalize hmade : (e.newCircuit? r o.caller now (e.patterns, e.source)).1 = made at hc
  cases made with
  | none => cases hc
  | some new =>
      obtain ⟨rule, bs, rfl⟩ := exists_of_newCircuit? h.patterns hmade
      cases hc
      cases (Circuit.inFlight_report hhalf).1

/-- **One operation** leaves no slot taken, or takes no more slots than calls are sent, and gives one
    back for a call that returns. -/
theorem slotsTaken_step (h : e.IsOrderly) (op : Op) (r : Resource) :
    slotsTaken r (e.step op).1 = 0 ∨
      slotsTaken r (e.step op).1 + (returns r e op).toNat ≤
        slotsTaken r e + ((admits r e op).toNat + (strays r e op).toNat) := by
  have heffect := entryEffect_step h op r
  generalize hx : e.cache.find? r = x? at heffect
  generalize hy : (e.step op).1.cache.find? r = y? at heffect
  rw [slotsTaken_of_find? hx, slotsTaken_of_find? hy]
  have silent (hop : op.report? = none) : (returns r e op).toNat = 0 :=
    returns_eq_zero fun o now ho => by rw [hop] at ho; cases ho
  cases heffect with
  | passed x hop =>
      have hreturns : (returns r e op).toNat = 0 := returns_eq_zero hop
      omega
  | absent => exact Or.inl rfl
  | reported o now hop hr x =>
      have hentry : (some (CacheEntry.mapCircuit (fun c => (c.report o now).1)
            { x with lastAccess := max x.lastAccess now })).bind (fun x => x.slot.circuit?) =
          ((some x).bind fun x => x.slot.circuit?).map fun c => (c.report o now).1 :=
        Slot.circuit?_mapCircuit _ _
      rw [hentry, returns_of_report? hop hr]
      refine slotsOf_map_le fun c _ => ?_
      exact (c.slots_report o now).imp_right fun hle => by omega
  | learned o now hop hr =>
      refine Or.inl ?_
      unfold slotsOf
      rw [Option.bind_some]
      cases hmade : (CacheEntry.mapCircuit (fun c => (c.report o now).1) (e.cache.added r now
          (e.newCircuit? r o.caller now (e.patterns, e.source)).1)).slot.circuit? with
      | none => rfl
      | some c => exact Circuit.slots_of_ne (phase_ne_of_learned h hmade)
  | woken q now hop hq x =>
      rw [bind_map_mapCircuit, silent (hop ▸ rfl)]
      refine slotsOf_map_le fun c _ => Or.inr ?_
      have hsame := c.slots_wakened now
      omega
  | admitted q now hop hq hgranted x =>
      rw [bind_map_mapCircuit, silent (hop ▸ rfl)]
      refine slotsOf_map_le fun c hc => ?_
      by_cases hhalf : (c.wakened now).admitted.phase = .halfOpen
      · have hafter : (e.step op).1.cache.circuit? r = some (c.wakened now).admitted := by
          unfold CircuitCache.circuit?
          rw [hy, bind_map_mapCircuit, hc]
          rfl
        have hcounted := one_le_admits_add_strays hop hq hgranted hafter hhalf
        have hwakened := c.slots_wakened now
        have hadmitted := (c.wakened now).slots_admitted_le
        exact Or.inr (by omega)
      · exact Or.inl (Circuit.slots_of_ne hhalf)
  | evaluated now hop x =>
      rw [bind_map_mapCircuit, silent (hop ▸ rfl)]
      refine slotsOf_map_le fun c _ => Or.inr ?_
      have hle := c.slots_evaluate_le now
      omega
  | swept now hop x hidle => exact Or.inl rfl
  | dropped hop x => exact Or.inl rfl

/-! ## Every run -/

/-- Calls to a resource come back no more often than they were sent, at any time. -/
def ReturnsOnce (e : Engine) (ops : List Op) (r : Resource) : Prop :=
  ∀ done, done <+: ops → e.countSteps (returns r) done ≤ e.countSteps (admits r) done

/-- Every call to a resource that was sent has come back. -/
def AllReturned (e : Engine) (ops : List Op) (r : Resource) : Prop :=
  e.countSteps (returns r) ops = e.countSteps (admits r) ops

/-- **Slots are accounted for**: those that are taken and the calls that came back are at most the calls
    that were sent and the strays. -/
theorem slotsTaken_add_returned_le (h : e.IsOrderly) (hnone : slotsTaken r e = 0) (ops : List Op)
    (hreturns : e.ReturnsOnce ops r) :
    slotsTaken r (e.run ops).1 + e.countSteps (returns r) ops ≤
      e.countSteps (admits r) ops + e.countSteps (strays r) ops := by
  -- how much came back is known of all that was done before, so the induction is from the end
  induction ops using List.reverseRecOn with
  | nil =>
      rw [run_nil, hnone]
      exact Nat.zero_le _
  | append_singleton ops op ih =>
      have hbefore := ih fun done hdone => hreturns done (hdone.trans (List.prefix_append ops [op]))
      have hall := hreturns _ List.prefix_rfl
      have hstep := slotsTaken_step (isOrderly_run h ops) op r
      rw [← run_snoc] at hstep
      rw [countSteps_snoc, countSteps_snoc] at hall
      rw [countSteps_snoc, countSteps_snoc, countSteps_snoc]
      omega

theorem countSteps_eq_zero {p : Engine → Op → Bool} {ops : List Op}
    (hp : ∀ d, ∀ op ∈ ops, p d op = false) : e.countSteps p ops = 0 := by
  induction ops generalizing e with
  | nil => rfl
  | cons op rest ih =>
      rw [countSteps, hp e op List.mem_cons_self,
        ih fun d q hq => hp d q (List.mem_cons_of_mem op hq)]
      rfl

/-- Only services have parts, and so strays. -/
theorem strays_eq_false (hr : r.level ≠ .service) (d : Engine) (op : Op) : strays r d op = false := by
  cases op with
  | acquire q now =>
      have hq : r ∉ q.parents := fun hmem => hr (Resource.level_of_mem_parents hmem)
      simp [strays, hq]
  | _ => rfl

/-- **Only strays keep slots.** Take an engine that was built, and any operations by which no more calls
    to a resource come back than were sent, and in the end all. If its circuit is half open then, at
    most as many slots are taken as trial calls were sent to parts of the resource. So none is taken
    unless the resource is a service. -/
theorem only_strays_keep_slots {setup : EngineSetup} {start : Nat} {first : Engine}
    (hbuild : build? setup start = .ok first) (ops : List Op) (hreturns : first.ReturnsOnce ops r)
    (hall : first.AllReturned ops r) {c : Circuit}
    (hc : (first.run ops).1.cache.circuit? r = some c) (hp : c.phase = .halfOpen) :
    c.probe.inFlight ≤ first.countSteps (strays r) ops ∧
      (r.level ≠ .service → c.probe.inFlight = 0) := by
  have h := isOrderly_build? hbuild
  have hnone : slotsTaken r first = 0 := by
    obtain ⟨_, rfl⟩ := eq_of_build? hbuild
    unfold slotsTaken CircuitCache.circuit? CircuitCache.find?
    cases r <;> rfl
  have hle := slotsTaken_add_returned_le h hnone ops hreturns
  have htaken : slotsTaken r (first.run ops).1 = c.probe.inFlight := by
    unfold slotsTaken
    rw [hc]
    exact Circuit.slots_of_halfOpen hp
  unfold AllReturned at hall
  refine ⟨by omega, fun hr => ?_⟩
  have hstrays : first.countSteps (strays r) ops = 0 :=
    countSteps_eq_zero fun d op _ => strays_eq_false hr d op
  omega

/-! ## A slot that is taken for good -/

/-- Whether the operations so far can be counted is seen by looking at each number of them. -/
theorem returnsOnce_iff (e : Engine) (ops : List Op) (r : Resource) :
    e.ReturnsOnce ops r ↔ ∀ n ≤ ops.length,
      e.countSteps (returns r) (ops.take n) ≤ e.countSteps (admits r) (ops.take n) := by
  constructor
  · intro h n _
    exact h _ (List.take_prefix n ops)
  · intro h done hdone
    rw [List.prefix_iff_eq_take.mp hdone]
    exact h _ hdone.length_le

/-- Two calls fail, over which the sample circuit opens. A second later a call to a method of the service
    goes through as a trial call, and comes back well. -/
def strayOps : List Op :=
  [.acquire Circuit.sample.resource 0, .report (Circuit.sampleOutcome .fail) 1,
    .acquire Circuit.sample.resource 2, .report (Circuit.sampleOutcome .fail) 3,
    .acquire (.method Circuit.sample.resource.key "/echo") 1003,
    .report { resource := .method Circuit.sample.resource.key "/echo" } 1004]

/-- The sample circuit is left half open with a slot taken, which is that of the one stray. -/
theorem sample_stray_keeps_slot :
    build? plainSetup 0 = .ok sample ∧
    sample.ReturnsOnce strayOps Circuit.sample.resource ∧
    sample.AllReturned strayOps Circuit.sample.resource ∧
    ∃ c, (sample.run strayOps).1.cache.circuit? Circuit.sample.resource = some c ∧
      c.phase = .halfOpen ∧ c.probe.inFlight = 1 ∧
      c.probe.inFlight ≤ sample.countSteps (strays Circuit.sample.resource) strayOps ∧
      sample.countSteps (strays Circuit.sample.resource) strayOps = 1 := by
  have hbuild : build? plainSetup 0 = .ok sample := rfl
  have hreturns : sample.ReturnsOnce strayOps Circuit.sample.resource :=
    (returnsOnce_iff _ _ _).mpr (by decide)
  have hall : sample.AllReturned strayOps Circuit.sample.resource := by
    unfold AllReturned
    decide
  have hstate : ((sample.run strayOps).1.cache.circuit? Circuit.sample.resource).map
      (fun c => (c.phase, c.probe.inFlight)) = some (.halfOpen, 1) := by decide
  obtain ⟨c, hc, hstate⟩ := Option.map_eq_some_iff.mp hstate
  injection hstate with hp hone
  exact ⟨hbuild, hreturns, hall, c, hc, hp, hone,
    (only_strays_keep_slots hbuild strayOps hreturns hall hc hp).1, by decide⟩

/-- Whether an operation asks for a call or reports one that was sent. -/
def Op.isCall : Op → Bool
  | .acquire _ _ => true
  | .report o _ => o.verdict != .reject
  | _ => false

/-- The resource of the call that an operation asks for or reports. -/
def Op.callee? : Op → Option Resource
  | .acquire q _ => some q
  | op => op.report?.map fun p => p.1.resource

/-- A resource that no call goes to has nothing to count. -/
theorem counted_of_callee? {ops : List Op} (hops : ∀ op ∈ ops, op.callee? ≠ some r) :
    e.countSteps (admits r) ops = 0 ∧ e.countSteps (returns r) ops = 0 := by
  refine ⟨countSteps_eq_zero fun d op hop => ?_, countSteps_eq_zero fun d op hop => ?_⟩
  · have hne := hops op hop
    cases op with
    | acquire q now =>
        have hq : q ≠ r := fun hqr => hne (by rw [hqr]; rfl)
        simp [admits, hq]
    | _ => rfl
  · have hne := hops op hop
    unfold returns
    cases op with
    | report o now =>
        have ho : o.resource ≠ r := fun hor => hne (by rw [← hor]; rfl)
        simp [Op.report?, ho]
    | reportSeen o now =>
        have ho : o.resource ≠ r := fun hor => hne (by rw [← hor]; rfl)
        simp [Op.report?, ho]
    | _ => rfl

/-- The promise that every slot comes back: calls are asked for and reported on the same resource, each
    that was sent once, and when all have come back no half-open circuit has a slot taken. -/
def ReturnsEverySlot (setup : EngineSetup) : Prop :=
  ∀ (start : Nat) (first : Engine) (ops : List Op) (r : Resource) (c : Circuit),
    build? setup start = .ok first →
    (∀ op ∈ ops, op.isCall = true) →
    (∀ q, first.ReturnsOnce ops q ∧ first.AllReturned ops q) →
    (first.run ops).1.cache.circuit? r = some c → c.phase = .halfOpen → c.probe.inFlight = 0

/-- **A stray keeps its slot.** The service of the sample circuit is left half open, with its only slot
    taken by a call that came back long ago. -/
theorem stray_keeps_slot : ¬ReturnsEverySlot plainSetup := by
  intro hall
  have hstate : ((sample.run strayOps).1.cache.circuit? Circuit.sample.resource).map
      (fun c => (c.phase, c.probe.inFlight)) = some (.halfOpen, 1) := by decide
  obtain ⟨c, hc, hstate⟩ := Option.map_eq_some_iff.mp hstate
  injection hstate with hp hone
  have hcalls : ∀ q, sample.ReturnsOnce strayOps q ∧ sample.AllReturned strayOps q := by
    intro q
    by_cases hq : q ∈ [Circuit.sample.resource, .method Circuit.sample.resource.key "/echo"]
    · have hchecked : ∀ q ∈ [Circuit.sample.resource, .method Circuit.sample.resource.key "/echo"],
          (∀ n ≤ strayOps.length, sample.countSteps (returns q) (strayOps.take n) ≤
            sample.countSteps (admits q) (strayOps.take n)) ∧
          sample.countSteps (returns q) strayOps = sample.countSteps (admits q) strayOps := by
        decide
      exact ⟨(returnsOnce_iff _ _ _).mpr (hchecked q hq).1, (hchecked q hq).2⟩
    · have hothers : ∀ op ∈ strayOps, op.callee? ≠ some q := by
        have hcallees : ∀ op ∈ strayOps, ∃ p ∈ [Circuit.sample.resource,
            .method Circuit.sample.resource.key "/echo"], op.callee? = some p := by
          decide
        intro op hop hcallee
        obtain ⟨p, hp, hpcallee⟩ := hcallees op hop
        rw [hcallee] at hpcallee
        cases hpcallee
        exact hq hp
      have hnothing {ops : List Op} (hops : ops <+: strayOps) :=
        counted_of_callee? (e := sample) fun op hop => hothers op (hops.subset hop)
      have hequal {ops : List Op} (hops : ops <+: strayOps) :
          sample.countSteps (returns q) ops = sample.countSteps (admits q) ops :=
        (hnothing hops).2.trans (hnothing hops).1.symm
      exact ⟨fun done hdone => Nat.le_of_eq (hequal hdone), hequal List.prefix_rfl⟩
  have hzero := hall 0 sample strayOps Circuit.sample.resource c rfl (by decide) hcalls hc hp
  rw [hone] at hzero
  cases hzero

end Engine

end CircuitBreaker

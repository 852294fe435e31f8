import CircuitBreaker.Proofs.Circuit.Stay

/-!
# `Proofs.Circuit.Trial` — how long a circuit is half open, and where it goes from there

A half-open circuit is on trial. Slots are taken and given back, lost trial calls are given up, time
passes, and none of that matters for the verdict: the circuit goes by the calls that come back. It
counts them as long as they succeed, so at each moment of the trial the successes are the calls reported
since it began (`successes_of_stays`). The first that fails opens the circuit again, and the last that
is needed closes it.

One operation is looked at first (`phase_step_halfOpen_iff`), and the whole trial follows: it lasts
exactly as long as no call fails, fewer calls came back than are needed, and the circuit is not
destroyed (`stays_halfOpen_iff`).

The direct moves (`Op.isMove`) are what these decisions are carried out with; a trial is a sequence of
the other operations.
-/

namespace CircuitBreaker

namespace Block

/-- **A call fails as a trial call in the view of a block** if it is an error of the block, or if it took
    as long as some trigger for slow calls takes for slow. -/
def Fails (b : Block) (o : Outcome) : Prop :=
  b.isError o = true ∨
    ∃ t ∈ b.triggers, ∃ least limit, t.condition = .slowRate least limit ∧ least ≤ o.delay

variable {b : Block} {o : Outcome}

/-- The delay that a trigger takes for slow is in its condition. -/
theorem isSlow_eq_true_iff {t : Trigger} {delay : Nat} :
    isSlow t delay = true ↔ ∃ least limit, t.condition = .slowRate least limit ∧ least ≤ delay := by
  cases t with
  | streak limit errors => simp [isSlow, Trigger.condition]
  | errorRate limit window => simp [isSlow, Trigger.condition]
  | slowRate least limit window => simp [isSlow, Trigger.condition]

theorem isProbeFailure_iff (hsent : o.verdict ≠ .reject) : b.isProbeFailure o = true ↔ b.Fails o := by
  have hfails : b.isProbeFailure o = true ↔
      b.isError o = true ∨ ∃ t ∈ b.triggers, isSlow t o.delay = true := by
    simp [isProbeFailure, hsent]
  rw [hfails]
  unfold Fails
  simp only [isSlow_eq_true_iff]

/-- What fails does not depend on what was counted. -/
theorem fails_reset : b.reset.Fails o ↔ b.Fails o := by
  have herror : b.reset.isError o = b.isError o := rfl
  unfold Fails
  rw [herror]
  simp only [reset, List.mem_map, exists_exists_and_eq_and, Trigger.condition_reset]

end Block

namespace Circuit

variable {c d : Circuit} {op : Op} {ops : List Op} {o : Outcome} {now : Nat}

/-! ## Calls that fail -/

/-- **A call fails as a trial call** if it does in the view of some block. -/
def FailsTrial (c : Circuit) (o : Outcome) : Prop := ∃ b ∈ c.blocks, b.Fails o

/-- Whether a call fails depends on what never changes. -/
theorem failsTrial_congr (h : d.blank = c.blank) : d.FailsTrial o ↔ c.FailsTrial o := by
  have hreset (e : Circuit) : e.FailsTrial o ↔ ∃ b ∈ e.blocks.map Block.reset, b.Fails o := by
    unfold FailsTrial
    simp [Block.fails_reset]
  obtain ⟨_, _, hblocks, _⟩ := blank_eq_iff.mp h
  rw [hreset, hreset, hblocks]

/-- The block that is to blame for a failed trial call. -/
theorem exists_find?_of_failsTrial (hsent : o.verdict ≠ .reject) (hf : c.FailsTrial o) :
    ∃ b, (c.blocks.find? fun b => b.isProbeFailure o) = some b := by
  obtain ⟨b, hb, hfails⟩ := hf
  apply Option.isSome_iff_exists.mp
  rw [List.find?_isSome]
  exact ⟨b, hb, (Block.isProbeFailure_iff hsent).mpr hfails⟩

theorem find?_of_not_failsTrial (hsent : o.verdict ≠ .reject) (hf : ¬c.FailsTrial o) :
    (c.blocks.find? fun b => b.isProbeFailure o) = none := by
  rw [List.find?_eq_none]
  intro b hb hfails
  exact hf ⟨b, hb, (Block.isProbeFailure_iff hsent).mp hfails⟩

/-! ## One operation -/

/-- Whether an operation asks for a move to another phase directly. -/
def Op.isMove : Op → Bool
  | .trip _ _ | .startProbing _ | .reopen _ _ | .recover _ => true
  | _ => false

/-- A call that fails opens the circuit again, from then on. -/
theorem step_of_failsTrial (now : Nat) (hp : c.phase = .halfOpen) (hsent : o.verdict ≠ .reject)
    (hf : c.FailsTrial o) :
    (c.step (.report o now)).1.phase = .opened ∧ (c.step (.report o now)).1.status.since = now := by
  obtain ⟨b, hb⟩ := exists_find?_of_failsTrial hsent hf
  have hstep : (c.step (.report o now)).1 =
      (c.finishing false now).enter .opened (probeFailureText b.name o) now := by
    rw [step_of_halfOpen hp hsent, reportProbe_of_failure hp hb]
  rw [hstep]
  exact ⟨phase_enter _ _ _ _, rfl⟩

/-- The last success that is needed closes the circuit. -/
theorem step_of_last (now : Nat) (hp : c.phase = .halfOpen) (hsent : o.verdict ≠ .reject)
    (hf : ¬c.FailsTrial o) (hn : c.probe.needed ≤ c.probe.successes + 1) :
    (c.step (.report o now)).1.phase = .closed := by
  obtain ⟨reason, hlast⟩ :=
    reportProbe_of_last now hp (find?_of_not_failsTrial hsent hf) hn
  rw [step_of_halfOpen hp hsent, hlast]
  exact phase_enter _ _ _ _

/-- Any other success is counted. -/
theorem step_of_pending (now : Nat) (hp : c.phase = .halfOpen) (hsent : o.verdict ≠ .reject)
    (hf : ¬c.FailsTrial o) (hn : c.probe.successes + 1 < c.probe.needed) :
    (c.step (.report o now)).1.phase = .halfOpen ∧
      (c.step (.report o now)).1.probe.successes = c.probe.successes + 1 := by
  have hstep : (c.step (.report o now)).1 = c.finishing true now := by
    rw [step_of_halfOpen hp hsent,
      reportProbe_of_pending (find?_of_not_failsTrial hsent hf) hn]
  rw [hstep]
  exact ⟨hp, rfl⟩

/-- An operation that reports no call leaves the circuit on trial, unless it destroys it. -/
theorem step_of_no_call (hp : c.phase = .halfOpen) (hmove : op.isMove = false)
    (hcall : op.call? = none) : (c.step op).1.phase = .halfOpen ↔ op ≠ .destroy := by
  cases op with
  | report o now =>
      have hreject : o.verdict = .reject := by
        by_contra hsent
        rw [call?_of_sent hsent] at hcall
        cases hcall
      simp [step_of_reject hreject, hp]
  | evaluate now =>
      have hstep : (c.step (.evaluate now)).1 = c.releaseLost now := by
        simp [step, Answer.ofChange, evaluate, hp]
      simp [hstep, hp]
  | acquireProbe =>
      have hstill : (c.step .acquireProbe).1.phase = .halfOpen := by
        unfold step acquireProbe?
        rw [if_pos hp]
        cases c.probe.acquire? <;> exact hp
      simp [hstill]
  | releaseProbe => simp [step, show c.releaseProbe.phase = .halfOpen from hp]
  | touch now => simp [step, hp]
  | destroy => simp [step]
  | _ => cases hmove

/-- **One operation of a trial.** The circuit is still on trial after it if it is not destroyed, and if a
    call that came back succeeded and was not the last that is needed. -/
theorem phase_step_halfOpen_iff (hp : c.phase = .halfOpen) (hmove : op.isMove = false) :
    (c.step op).1.phase = .halfOpen ↔ op ≠ .destroy ∧
      ∀ call ∈ op.call?, ¬c.FailsTrial call.1 ∧ c.probe.successes + 1 < c.probe.needed := by
  cases hcall : op.call? with
  | none => simp [step_of_no_call hp hmove hcall]
  | some call =>
      obtain ⟨rfl, hsent⟩ := eq_report_of_call? hcall
      by_cases hf : c.FailsTrial call.1
      · simp [(step_of_failsTrial call.2 hp hsent hf).1, hf]
      · by_cases hn : c.probe.successes + 1 < c.probe.needed
        · simp [(step_of_pending call.2 hp hsent hf hn).1, hf, hn]
        · simp [step_of_last call.2 hp hsent hf (by omega), hn]

/-- **What ends a trial**: destruction, a call that fails, or the last success that is needed. -/
theorem cause_of_left (hp : c.phase = .halfOpen) (hmove : op.isMove = false)
    (hleft : (c.step op).1.phase ≠ .halfOpen) :
    op = .destroy ∨ ∃ o now, op = .report o now ∧ o.verdict ≠ .reject ∧
      (c.FailsTrial o ∨ c.probe.needed ≤ c.probe.successes + 1) := by
  by_cases hdestroy : op = .destroy
  · exact Or.inl hdestroy
  · refine Or.inr ?_
    cases hcall : op.call? with
    | none => exact absurd ((step_of_no_call hp hmove hcall).mpr hdestroy) hleft
    | some call =>
        obtain ⟨hop, hsent⟩ := eq_report_of_call? hcall
        refine ⟨call.1, call.2, hop, hsent, ?_⟩
        by_contra hneither
        rw [not_or] at hneither
        apply hleft
        rw [hop]
        exact (step_of_pending call.2 hp hsent hneither.1 (by omega)).1

/-- While the trial lasts, each call that comes back is one success more. -/
theorem successes_step (hp : c.phase = .halfOpen) (hmove : op.isMove = false)
    (hstill : (c.step op).1.phase = .halfOpen) :
    (c.step op).1.probe.successes = c.probe.successes + op.call?.toList.length := by
  cases hcall : op.call? with
  | none => exact (kept_of_call?_eq_none hcall (hstill.trans hp.symm)).2
  | some call =>
      obtain ⟨_, hgood⟩ := (phase_step_halfOpen_iff hp hmove).mp hstill
      obtain ⟨hf, hn⟩ := hgood call hcall
      obtain ⟨rfl, hsent⟩ := eq_report_of_call? hcall
      exact (step_of_pending call.2 hp hsent hf hn).2

/-! ## The whole trial -/

/-- **The successes of a trial are the calls that came back in it.** -/
theorem successes_of_stays (hs : c.probe.successes = 0) (hmoves : ∀ op ∈ ops, op.isMove = false)
    (h : c.Stays .halfOpen ops) : (c.run ops).1.probe.successes = (calls ops).length := by
  induction ops using List.reverseRecOn with
  | nil => exact hs
  | append_singleton ops op ih =>
      obtain ⟨hops, hstill⟩ := stays_snoc_iff.mp h
      have hbefore := ih (fun q hq => hmoves q (List.mem_append_left [op] hq)) hops
      have hmove := hmoves op (List.mem_append_right ops List.mem_cons_self)
      rw [run_snoc, successes_step hops.phase hmove hstill, hbefore, calls_snoc, List.length_append]

/-- The number of successes that are needed never changes. -/
theorem needed_run (c : Circuit) (ops : List Op) : (c.run ops).1.probe.needed = c.probe.needed := by
  obtain ⟨_, _, _, hprobe⟩ := blank_eq_iff.mp (blank_run c ops)
  have hneeded : (c.run ops).1.probe.reset.needed = c.probe.reset.needed :=
    congrArg Probe.needed hprobe
  exact hneeded

/-- **How long a trial lasts.** A circuit that has just become half open stays so exactly as long as it is
    not destroyed, no call that comes back fails, and fewer come back than are needed. -/
theorem stays_halfOpen_iff (hp : c.phase = .halfOpen) (hs : c.probe.successes = 0)
    (hn : 1 ≤ c.probe.needed) (hmoves : ∀ op ∈ ops, op.isMove = false) :
    c.Stays .halfOpen ops ↔ .destroy ∉ ops ∧ (∀ call ∈ calls ops, ¬c.FailsTrial call.1) ∧
      (calls ops).length < c.probe.needed := by
  induction ops using List.reverseRecOn with
  | nil =>
      rw [stays_nil_iff]
      refine ⟨fun _ => ⟨List.not_mem_nil, fun call hcall => ?_, hn⟩, fun _ => hp⟩
      cases hcall
  | append_singleton ops op ih =>
      have hbefore := ih fun q hq => hmoves q (List.mem_append_left [op] hq)
      have hmove := hmoves op (List.mem_append_right ops List.mem_cons_self)
      -- the successes before the last operation are the calls before it
      have hlast (hops : c.Stays .halfOpen ops) :
          ((c.run ops).1.step op).1.phase = .halfOpen ↔ op ≠ .destroy ∧
            ∀ call ∈ op.call?, ¬c.FailsTrial call.1 ∧ (calls ops).length + 1 < c.probe.needed := by
        rw [phase_step_halfOpen_iff hops.phase hmove, needed_run,
          successes_of_stays hs (fun q hq => hmoves q (List.mem_append_left [op] hq)) hops]
        simp only [failsTrial_congr (blank_run c ops)]
      rw [stays_snoc_iff, calls_snoc]
      constructor
      · rintro ⟨hops, hstill⟩
        obtain ⟨hkept, hgood, hfew⟩ := hbefore.mp hops
        obtain ⟨hne, hcall⟩ := (hlast hops).mp hstill
        refine ⟨?_, ?_, ?_⟩
        · simpa using ⟨hkept, hne.symm⟩
        · intro call hmem
          rcases List.mem_append.mp hmem with hmem | hmem
          · exact hgood call hmem
          · exact (hcall call (Option.mem_toList.mp hmem)).1
        · cases hc : op.call? with
          | none => simpa [hc] using hfew
          | some call => simpa [hc] using (hcall call hc).2
      · rintro ⟨hkept, hgood, hfew⟩
        have hops : c.Stays .halfOpen ops := by
          refine hbefore.mpr ⟨fun hmem => hkept (List.mem_append_left [op] hmem), ?_, ?_⟩
          · intro call hmem
            exact hgood call (List.mem_append_left _ hmem)
          · rw [List.length_append] at hfew
            omega
        refine ⟨hops, (hlast hops).mpr ⟨?_, ?_⟩⟩
        · rintro rfl
          exact hkept (List.mem_append_right ops List.mem_cons_self)
        · intro call hcall
          refine ⟨hgood call (List.mem_append_right _ (Option.mem_toList.mpr hcall)), ?_⟩
          rw [Option.mem_def.mp hcall] at hfew
          simpa using hfew

section Build

variable {f : Compiler} {s : CircuitSettings} {resource : Resource} {rule : Rule}
  {blocks : List BlockRule} {start : Nat} {cache : PatternCache} {pre : List Op}

/-- A trial starts without a success, whatever came before it. -/
theorem trial_of_arrives (h : (build? f s resource rule blocks start cache).1 = .ok c)
    (hpre : c.Arrives .halfOpen pre) :
    (c.run pre).1.probe.successes = 0 ∧
      (c.run pre).1.probe.needed = rule.recovery.successes := by
  obtain ⟨bs, _, rfl⟩ := exists_of_build? h
  constructor
  · -- the circuit was built closed, so it has entered the phase
    rcases hpre.entered (by simp) with rfl | ⟨e, reason, now, _, henter⟩
    · have hclosed := hpre.1
      cases hclosed
    · rw [henter]
      rfl
  · exact needed_run _ pre

/-- **The verdict of a trial.** Take a circuit whose rule asks for at least one success, and operations
    that make it half open. Over any operations after that, direct moves aside,
    * it stays half open exactly as long as it is not destroyed, no call that comes back fails in any
      block, and fewer calls come back than successes are asked for;
    * the first call that fails opens it, from the time at which the call is reported, and the last
      success that is asked for closes it;
    * nothing else ends the trial but destruction. -/
theorem trial_decides (h : (build? f s resource rule blocks start cache).1 = .ok c)
    (hk : 1 ≤ rule.recovery.successes) (hpre : c.Arrives .halfOpen pre)
    (hmoves : ∀ op ∈ ops, op.isMove = false) :
    let first := (c.run pre).1
    let k := rule.recovery.successes
    (first.Stays .halfOpen ops ↔ .destroy ∉ ops ∧ (∀ call ∈ calls ops, ¬c.FailsTrial call.1) ∧
      (calls ops).length < k) ∧
    (first.Stays .halfOpen ops → ∀ o now, o.verdict ≠ .reject →
      let next := ((first.run ops).1.step (.report o now)).1
      (c.FailsTrial o → next.phase = .opened ∧ next.status.since = now) ∧
      (¬c.FailsTrial o → (calls ops).length + 1 = k → next.phase = .closed)) ∧
    (first.Stays .halfOpen ops → ∀ op, op.isMove = false →
      ((first.run ops).1.step op).1.phase ≠ .halfOpen →
      op = .destroy ∨ ∃ o now, op = .report o now ∧ o.verdict ≠ .reject ∧
        (c.FailsTrial o ∨ (calls ops).length + 1 = k)) := by
  intro first k
  obtain ⟨hnone, hneeded⟩ := trial_of_arrives h hpre
  have hfails (o : Outcome) : (c.run pre).1.FailsTrial o ↔ c.FailsTrial o :=
    failsTrial_congr (blank_run c pre)
  have hlater (o : Outcome) : (first.run ops).1.FailsTrial o ↔ c.FailsTrial o :=
    (failsTrial_congr (blank_run first ops)).trans (hfails o)
  -- while the trial lasts, the limiter has counted the calls that came back
  have hcount (hstays : first.Stays .halfOpen ops) :
      (first.run ops).1.probe.successes = (calls ops).length ∧
        (first.run ops).1.probe.needed = k :=
    ⟨successes_of_stays hnone hmoves hstays, (needed_run first ops).trans hneeded⟩
  refine ⟨?_, ?_, ?_⟩
  · rw [stays_halfOpen_iff hpre.1 hnone (hneeded ▸ hk) hmoves, hneeded]
    simp only [hfails]
    rfl
  · intro hstays o now hsent next
    obtain ⟨hsuccesses, hasked⟩ := hcount hstays
    constructor
    · intro hf
      exact step_of_failsTrial now hstays.phase hsent ((hlater o).mpr hf)
    · intro hf hlast
      apply step_of_last now hstays.phase hsent (fun hfail => hf ((hlater o).mp hfail))
      omega
  · intro hstays op hmove hleft
    obtain ⟨hsuccesses, hasked⟩ := hcount hstays
    have hfew := ((stays_halfOpen_iff hpre.1 hnone (hneeded ▸ hk) hmoves).mp hstays).2.2
    rcases cause_of_left hstays.phase hmove hleft with hdestroy | ⟨o, now, hop, hsent, hcause⟩
    · exact Or.inl hdestroy
    · refine Or.inr ⟨o, now, hop, hsent, ?_⟩
      rcases hcause with hfail | hlast
      · exact Or.inl ((hlater o).mp hfail)
      · rw [hneeded] at hfew
        exact Or.inr (by omega)

end Build

/-- The sample rule, except that two trial calls have to succeed. -/
def patientRule : Rule := { sampleRule with recovery := { sampleRule.recovery with successes := 2 } }

/-- A circuit built from `patientRule`. -/
def patient : Circuit :=
  fresh { buckets := 10, probes := 3 } sample.resource patientRule 0 sample.blocks

/-- Two failures open the circuit, and after the sleep window its trial begins. -/
def toTrial : List Op :=
  [.report (sampleOutcome .fail) 5, .report (sampleOutcome .fail) 3, .evaluate 1003]

/-- A first success comes back, and its slot was already given up for lost. -/
def firstSuccess : List Op :=
  [.acquireProbe, .evaluate 2003, .report (sampleOutcome .reject) 9, .touch 7,
    .report (sampleOutcome .success) 2004]

/-- After one success the circuit is still on trial; a second closes it, and a failure opens it from the
    time of its report on, early as that may be. -/
theorem patient_trial_decides :
    (build? standardCompiler { buckets := 10, probes := 3 } sample.resource patientRule
      patientRule.blocks 0 (PatternCache.ofCapacity 16)).1 = .ok patient ∧
    1 ≤ patientRule.recovery.successes ∧ patient.Arrives .halfOpen toTrial ∧
    (∀ op ∈ firstSuccess, op.isMove = false) ∧
    (let first := (patient.run toTrial).1
     first.Stays .halfOpen firstSuccess ∧
     ((first.run firstSuccess).1.step (.report (sampleOutcome .success) 2005)).1.phase = .closed ∧
     ((first.run firstSuccess).1.step (.report (sampleOutcome .fail) 8)).1.phase = .opened ∧
     ((first.run firstSuccess).1.step (.report (sampleOutcome .fail) 8)).1.status.since = 8) := by
  have h : (build? standardCompiler { buckets := 10, probes := 3 } sample.resource patientRule
      patientRule.blocks 0 (PatternCache.ofCapacity 16)).1 = .ok patient := rfl
  have hk : 1 ≤ patientRule.recovery.successes := by decide
  have hpre : patient.Arrives .halfOpen toTrial := by
    refine ⟨by decide, fun before op hbefore => ?_⟩
    have hsplit : [Op.report (sampleOutcome .fail) 5, .report (sampleOutcome .fail) 3] ++
        [.evaluate 1003] = before ++ [op] := hbefore
    rw [← (List.append_inj' hsplit rfl).1]
    decide
  have hmoves : ∀ op ∈ firstSuccess, op.isMove = false := by decide
  obtain ⟨hlasts, hends, _⟩ := trial_decides h hk hpre hmoves
  have hgood : ¬patient.FailsTrial (sampleOutcome .success) := by
    rintro ⟨b, hb, hfails⟩
    rw [← Block.isProbeFailure_iff (by decide)] at hfails
    revert b
    decide
  have hbad : patient.FailsTrial (sampleOutcome .fail) :=
    ⟨_, List.mem_cons_self, Or.inl (by decide)⟩
  have hcalls : calls firstSuccess = [(sampleOutcome .success, 2004)] := by decide
  have hstays := hlasts.mpr ⟨by simp [firstSuccess], by simpa [hcalls] using hgood, by decide⟩
  have hclose := (hends hstays (sampleOutcome .success) 2005 (by decide)).2 hgood (by decide)
  have hreopen := (hends hstays (sampleOutcome .fail) 8 (by decide)).1 hbad
  exact ⟨h, hk, hpre, hmoves, hstays, hclose, hreopen⟩

end Circuit

end CircuitBreaker

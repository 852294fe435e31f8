import CircuitBreaker.Proofs.Circuit.Invariant
import CircuitBreaker.Proofs.Circuit.Stay

/-!
# `Proofs.Circuit.Admission` — how many trial calls a half-open circuit lets through

A half-open circuit counts the slots that it gave out and not the calls that hold them. A result may come
from a call that never held one, and gives back the slot of another; with no slot taken it gives back
nothing. So the slots taken are not the calls let through less those that came back. They are at least
that many (`granted_le_of_stays`), and a slot that is given back where none is taken is the only
difference: each operation takes the slot that it grants and gives back one at most
(`grants_le_of_step`). With the bound on the slots, which holds in every phase, this bounds the calls
under way (`admission_bounded`).

A circuit that gives up lost trial calls forgets slots without a result, so this is said of runs in which
it does not (`KeepsSlots`).

## Contents
- `acquireProbe?_eq_some_iff`, `inFlight_report`: the slots after one operation.
- `inFlight_le_run`: the bound.
- `grants`, `granted`, `returned`: trial calls let through and slots given back unused.
- `givesUp`, `KeepsSlots`: lost trial calls.
-/

namespace CircuitBreaker.Circuit

variable {c d : Circuit} {op : Op} {ops : List Op} {now : Nat}

/-! ## Slots -/

/-- A slot is only taken in a half-open circuit that has one free. -/
theorem acquireProbe?_eq_some_iff :
    c.acquireProbe? = some d ↔
      c.phase = .halfOpen ∧ c.probe.inFlight < c.probe.bound ∧
        d = { c with probe := { c.probe with inFlight := c.probe.inFlight + 1 } } := by
  unfold acquireProbe? Probe.acquire?
  by_cases hp : c.phase = .halfOpen
  · by_cases hlt : c.probe.inFlight < c.probe.bound
    · simp only [hp, hlt, ↓reduceIte, Option.map_some, Option.some.injEq, true_and]
      exact eq_comm
    · simp [hlt]
  · simp [hp]

/-- **Giving back the slot that was just taken** leaves no trace. -/
theorem releaseProbe_of_acquireProbe? (h : c.acquireProbe? = some d) : d.releaseProbe = c := by
  obtain ⟨_, _, rfl⟩ := acquireProbe?_eq_some_iff.mp h
  rfl

/-- A circuit that closed calls are reported to does not become half open. -/
theorem phase_reportClosed (o : Outcome) (now : Nat) (hp : c.phase = .closed) :
    ((c.touch now).reportClosed o now).1.phase ≠ .halfOpen := by
  intro hhalf
  rcases status_effect (effect_reportClosed o now hp) with hs | hs | ⟨hs, _⟩
  · have hsame : ((c.touch now).reportClosed o now).1.phase = c.phase := congrArg Status.phase hs
    rw [hhalf, hp] at hsame
    cases hsame
  · rw [hhalf, hp] at hs
    simp [Phase.next] at hs
  · cases hs

/-- A move to another phase that leaves the circuit half open is none. -/
theorem move_eq_self {source target : Phase} {reason : String} (ht : target ≠ .halfOpen)
    (hhalf : (c.move source target reason now).1.phase = .halfOpen) :
    (c.move source target reason now).1 = c := by
  unfold move at hhalf ⊢
  split at hhalf
  · rw [phase_enter] at hhalf
    exact absurd hhalf ht
  · rename_i hp
    rw [if_neg hp]

/-- A trial call that comes back gives its slot back. -/
theorem inFlight_reportProbe {o : Outcome} (hhalf : (c.reportProbe o now).1.phase = .halfOpen) :
    (c.reportProbe o now).1.probe.inFlight = c.probe.inFlight - 1 := by
  have hfinish (success : Bool) : (c.probe.finish success).1.inFlight = c.probe.inFlight - 1 := by
    cases success <;> rfl
  simp only [reportProbe] at hhalf ⊢
  cases hc : (c.probe.finish (c.blocks.find? fun b => b.isProbeFailure o).isNone).2 with
  | pending => exact hfinish _
  | close =>
      simp only [hc] at hhalf ⊢
      rw [recover, move_eq_self (by simp) hhalf]
      exact hfinish _
  | reopen =>
      simp only [hc] at hhalf ⊢
      rw [reopen, move_eq_self (by simp) hhalf]
      exact hfinish _

/-- **A report gives one slot back**, unless the call was never sent. -/
theorem inFlight_report {o : Outcome} (hhalf : (c.report o now).1.phase = .halfOpen) :
    c.phase = .halfOpen ∧ (c.report o now).1.probe.inFlight =
      if o.verdict = .reject then c.probe.inFlight else c.probe.inFlight - 1 := by
  unfold report at hhalf ⊢
  by_cases hskip : (c.isDestroyed || o.verdict == .reject) = true
  · rw [if_pos hskip] at hhalf ⊢
    refine ⟨hhalf, ?_⟩
    have hreject : o.verdict = .reject := by
      have hlive : c.isDestroyed = false := by
        unfold isDestroyed
        rw [show c.phase = .halfOpen from hhalf]
        rfl
      rw [hlive, Bool.false_or] at hskip
      exact beq_iff_eq.mp hskip
    rw [if_pos hreject]
  · have hsent : o.verdict ≠ .reject := fun hv => hskip (by simp [hv])
    rw [if_neg hskip] at hhalf ⊢
    rw [if_neg hsent]
    simp only [phase_touch] at hhalf ⊢
    have stuck (hp : c.phase ≠ .halfOpen) : (c.touch now).phase ≠ .halfOpen := hp
    cases hp : c.phase with
    | closed =>
        simp only [hp] at hhalf
        exact absurd hhalf (phase_reportClosed o now hp)
    | opened =>
        simp only [hp] at hhalf
        exact absurd hhalf (stuck (by simp [hp]))
    | destroyed =>
        simp only [hp] at hhalf
        exact absurd hhalf (stuck (by simp [hp]))
    | halfOpen =>
        simp only [hp] at hhalf
        exact ⟨rfl, inFlight_reportProbe hhalf⟩

/-- Every effect keeps the slots taken within the bound. -/
theorem inFlight_le_effect {t : Option Transition} (he : Effect c op d t)
    (h : c.probe.inFlight ≤ c.probe.bound) : d.probe.inFlight ≤ d.probe.bound := by
  have enter (e : Circuit) (target : Phase) (reason : String) (now : Nat)
      (hle : e.probe.inFlight ≤ e.probe.bound) :
      (e.enter target reason now).probe.inFlight ≤ (e.enter target reason now).probe.bound := by
    cases target with
    | closed => exact Nat.zero_le _
    | halfOpen => exact Nat.zero_le _
    | opened => exact hle
    | destroyed => exact hle
  cases he with
  | nothing => exact h
  | touched now => exact h
  | counted o now hp hq => exact h
  | tripped o reason now hp => exact enter _ _ _ _ h
  | succeeded o now hp hs => exact inFlight_finish_le true h
  | concluded o success target reason now hp he => exact enter _ _ _ _ (inFlight_finish_le success h)
  | gaveUp now hp hd => exact Nat.zero_le _
  | acquired probe hp ha =>
      unfold Probe.acquire? at ha
      split at ha
      · rename_i hlt
        cases ha
        exact hlt
      · cases ha
  | released => exact Nat.le_trans (Nat.sub_le _ 1) h
  | moved target reason now he => exact enter _ _ _ _ h
  | destroyed =>
      unfold destroy
      split <;> exact h

/-- **No more slots are taken than there are**, whatever the rule and in every phase. -/
theorem inFlight_le_run {f : Compiler} {s : CircuitSettings} {resource : Resource} {rule : Rule}
    {blocks : List BlockRule} {start : Nat} {cache : PatternCache}
    (h : (build? f s resource rule blocks start cache).1 = .ok c) (ops : List Op) :
    (c.run ops).1.probe.bound = rule.recovery.probes.getD s.probes ∧
      (c.run ops).1.probe.inFlight ≤ (c.run ops).1.probe.bound := by
  obtain ⟨bs, _, rfl⟩ := exists_of_build? h
  constructor
  · obtain ⟨_, _, _, hprobe⟩ := blank_eq_iff.mp (blank_run (fresh s resource rule start bs) ops)
    exact congrArg Probe.bound hprobe
  · exact run_invariant (P := fun d => d.probe.inFlight ≤ d.probe.bound) inFlight_le_effect
      (Nat.zero_le _) ops

/-- **A half-open circuit refuses a trial call only if all slots are taken.** -/
theorem acquireProbe_refused_iff (hp : c.phase = .halfOpen) (hle : c.probe.inFlight ≤ c.probe.bound) :
    (c.step .acquireProbe).2.done = false ↔ c.probe.inFlight = c.probe.bound := by
  unfold step
  cases ha : c.acquireProbe? with
  | some d =>
      obtain ⟨_, hlt, _⟩ := acquireProbe?_eq_some_iff.mp ha
      simp only [Bool.true_eq_false, false_iff]
      omega
  | none =>
      have hfull : ¬c.probe.inFlight < c.probe.bound := by
        intro hlt
        rw [acquireProbe?_eq_some_iff.mpr ⟨hp, hlt, rfl⟩] at ha
        cases ha
      simp only [true_iff]
      omega

/-! ## Trial calls under way -/

/-- Whether an operation is a trial call that is let through. -/
def grants (c : Circuit) (op : Op) : Bool := op matches .acquireProbe && (c.step op).2.done

/-- How many trial calls are let through over some operations. -/
def granted (c : Circuit) : List Op → Nat
  | [] => 0
  | op :: rest => (c.grants op).toNat + (c.step op).1.granted rest

/-- How many slots are given back by calls that are not sent. -/
def returned (ops : List Op) : Nat := ops.countP fun op => op matches .releaseProbe

/-- Whether an operation makes the circuit give up lost trial calls. -/
def givesUp (c : Circuit) : Op → Bool
  | .evaluate now => decide (c.probeDeadline ≤ now ∧ 0 < c.probe.inFlight)
  | _ => false

/-- **No trial call is taken for lost** over some operations. -/
def KeepsSlots (c : Circuit) : List Op → Prop
  | [] => True
  | op :: rest => c.givesUp op = false ∧ (c.step op).1.KeepsSlots rest

/-- A half-open circuit that takes no trial call for lost stays as it is when time passes. -/
theorem evaluate_of_keeps (hp : c.phase = .halfOpen) (hkeeps : c.givesUp (.evaluate now) = false) :
    c.evaluate now = (c, none) := by
  have hlost : ¬(c.probeDeadline ≤ now ∧ 0 < c.probe.inFlight) := of_decide_eq_false hkeeps
  unfold evaluate releaseLost
  rw [hp]
  simp only [if_neg hlost]

/-- **The step.** A slot is taken for the call that is let through, and a call that comes back, or is not
    sent, gives back one at most. -/
theorem grants_le_of_step (hp : c.phase = .halfOpen) (hstill : (c.step op).1.phase = .halfOpen)
    (hkeeps : c.givesUp op = false) :
    c.probe.inFlight + (c.grants op).toNat ≤
      (c.step op).1.probe.inFlight + ((calls [op]).length + returned [op]) := by
  cases op with
  | report o now =>
      have hslots := (inFlight_report hstill).2
      show c.probe.inFlight + 0 ≤ (c.report o now).1.probe.inFlight + _
      by_cases hreject : o.verdict = .reject
      · rw [hslots, if_pos hreject]
        omega
      · rw [hslots, if_neg hreject]
        have hcall : (calls [.report o now]).length = 1 := by
          simp [calls, call?_of_sent hreject]
        omega
  | evaluate now =>
      show c.probe.inFlight + 0 ≤ (c.evaluate now).1.probe.inFlight + _
      rw [evaluate_of_keeps hp hkeeps]
      exact Nat.le_add_right _ _
  | acquireProbe =>
      unfold grants step
      cases ha : c.acquireProbe? with
      | none => exact Nat.le_add_right _ _
      | some d =>
          obtain ⟨_, _, rfl⟩ := acquireProbe?_eq_some_iff.mp ha
          exact Nat.le_add_right _ _
  | releaseProbe =>
      show c.probe.inFlight + 0 ≤ c.probe.inFlight - 1 + (0 + 1)
      omega
  | touch now => exact Nat.le_add_right _ _
  | destroy => exact absurd hstill (by simp [step])
  | trip reason now =>
      have hsame : (c.step (.trip reason now)).1 = c := move_eq_self (by simp) hstill
      rw [hsame]
      exact Nat.le_add_right _ _
  | startProbing now =>
      have hsame : (c.step (.startProbing now)).1 = c := by
        simp [step, Answer.ofChange, startProbing, move, hp]
      rw [hsame]
      exact Nat.le_add_right _ _
  | reopen reason now =>
      have hsame : (c.step (.reopen reason now)).1 = c := move_eq_self (by simp) hstill
      rw [hsame]
      exact Nat.le_add_right _ _
  | recover now =>
      have hsame : (c.step (.recover now)).1 = c := move_eq_self (by simp) hstill
      rw [hsame]
      exact Nat.le_add_right _ _

theorem length_calls_cons (op : Op) (ops : List Op) :
    (calls (op :: ops)).length = (calls [op]).length + (calls ops).length := by
  rw [← List.length_append]
  exact congrArg List.length (List.filterMap_append : calls ([op] ++ ops) = _)

theorem returned_cons (op : Op) (ops : List Op) :
    returned (op :: ops) = returned [op] + returned ops :=
  (List.countP_append : returned ([op] ++ ops) = _)

/-- **Every trial call that is let through holds a slot until one is given back.** -/
theorem granted_le_of_stays (h : c.Stays .halfOpen ops) (hkeeps : c.KeepsSlots ops) :
    c.probe.inFlight + c.granted ops ≤
      (c.run ops).1.probe.inFlight + ((calls ops).length + returned ops) := by
  induction ops generalizing c with
  | nil => exact Nat.le_refl _
  | cons op rest ih =>
      obtain ⟨hp, hrest⟩ := stays_cons_iff.mp h
      have hfirst := grants_le_of_step hp (hrest [] List.nil_prefix) hkeeps.1
      have hlater := ih hrest hkeeps.2
      rw [length_calls_cons, returned_cons, granted]
      show _ ≤ ((c.step op).1.run rest).1.probe.inFlight + _
      omega

/-- **Trial calls are bounded.** Take any rule, any of its blocks and any settings, and a part of any run
    over which the circuit is half open and takes no trial call for lost: slots asked for, results, slots
    given back and the passing of time in any order. At the end of it
    * the trial calls let through, less the results of calls that were sent and the slots given back by
      calls that were not, are at most the slots taken;
    * these are at most as many as the rule, or else the settings, allow;
    * a trial call is refused exactly if all of them are taken.

    Any result gives back a slot, that of a call that was never let through too. -/
theorem admission_bounded {f : Compiler} {s : CircuitSettings} {resource : Resource} {rule : Rule}
    {blocks : List BlockRule} {start : Nat} {cache : PatternCache} {pre mid : List Op}
    (h : (build? f s resource rule blocks start cache).1 = .ok c)
    (hstays : (c.run pre).1.Stays .halfOpen mid) (hkeeps : (c.run pre).1.KeepsSlots mid) :
    let d := (c.run (pre ++ mid)).1
    let bound := rule.recovery.probes.getD s.probes
    ((c.run pre).1.granted mid : Int) - ((calls mid).length + returned mid : Nat) ≤
        d.probe.inFlight ∧
      d.probe.inFlight ≤ bound ∧
      ((d.step .acquireProbe).2.done = false ↔ d.probe.inFlight = bound) := by
  intro d bound
  have hd : d = ((c.run pre).1.run mid).1 := by simp only [d, run_append]
  have hhalf : d.phase = .halfOpen := hd ▸ hstays.phase
  obtain ⟨hbound, hle⟩ := inFlight_le_run h (pre ++ mid)
  have hgranted := granted_le_of_stays hstays hkeeps
  rw [← hd] at hgranted
  refine ⟨by omega, Nat.le_trans hle (Nat.le_of_eq hbound), ?_⟩
  rw [acquireProbe_refused_iff hhalf hle, hbound]

/-- A rule that lets two trial calls through at a time, and needs three successes. -/
def doubleRule : Rule :=
  { sampleRule with recovery := { sleepWindow := 1000, successes := 3, probes := some 2 } }

/-- A circuit built from `doubleRule`. -/
def double : Circuit :=
  fresh { buckets := 10, probes := 3 } sample.resource doubleRule 0 sample.blocks

/-- Two failures open it, and after the sleep window it lets trial calls through until 2003. -/
def doubleOpening : List Op :=
  [.report (sampleOutcome .fail) 5, .report (sampleOutcome .fail) 3, .evaluate 1003]

/-- A result comes in before any call is let through; of the four slots asked for after that, one is
    given back and one is refused. -/
def doubleTrial : List Op :=
  [.report (sampleOutcome .success) 1004, .acquireProbe, .releaseProbe, .acquireProbe, .evaluate 1500,
    .acquireProbe, .report (sampleOutcome .reject) 1600, .acquireProbe]

/-- Three trial calls were let through and two slots are taken, one more than the results and the slots
    given back account for. Both are taken, so the next call is refused. -/
theorem double_admission_bounded :
    (build? standardCompiler { buckets := 10, probes := 3 } sample.resource doubleRule
      doubleRule.blocks 0 (PatternCache.ofCapacity 16)).1 = .ok double ∧
    (double.run doubleOpening).1.Stays .halfOpen doubleTrial ∧
    (double.run doubleOpening).1.KeepsSlots doubleTrial ∧
    (let d := (double.run (doubleOpening ++ doubleTrial)).1
     (double.run doubleOpening).1.granted doubleTrial = 3 ∧
     (calls doubleTrial).length + returned doubleTrial = 2 ∧
     d.probe.inFlight = 2 ∧ d.probe.inFlight ≤ 2 ∧ (d.step .acquireProbe).2.done = false) := by
  have h : (build? standardCompiler { buckets := 10, probes := 3 } sample.resource doubleRule
      doubleRule.blocks 0 (PatternCache.ofCapacity 16)).1 = .ok double := rfl
  have hstays : (double.run doubleOpening).1.Stays .halfOpen doubleTrial := by
    simp only [doubleTrial, stays_cons_iff, stays_nil_iff]
    decide
  have hkeeps : (double.run doubleOpening).1.KeepsSlots doubleTrial := by
    repeat' constructor
  obtain ⟨_, hle, hrefused⟩ := admission_bounded h hstays hkeeps
  exact ⟨h, hstays, hkeeps, by decide, by decide, by decide, hle, hrefused.mpr (by decide)⟩

end CircuitBreaker.Circuit

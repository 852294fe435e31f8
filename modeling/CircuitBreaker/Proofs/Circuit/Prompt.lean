import CircuitBreaker.Proofs.Circuit.Invariant
import CircuitBreaker.Proofs.Circuit.Stay

/-!
# `Proofs.Circuit.Prompt` — a report leaves nothing for the next tick to find

A closed circuit looks at its triggers in two ways. A report counts the call in every trigger of every
block, and remembers the first that it satisfied on the way. A tick counts nothing; it asks one trigger
after the other, and stops at the first that is satisfied.

They go apart in one place only: a call that was no error ends a streak of errors, and the report does
not ask the trigger any more. The tick does. It finds a streak of no errors, which satisfies the trigger
if its limit is zero, and that is what the check of a condition rules out. With limits above zero, what a
report finds is what a tick would find in the blocks once they have counted
(`Trigger.record_snd_eq_check`, and from it the same for blocks and circuits), so the report does what
the tick would do then (`report_eq_evaluate`).
-/

namespace CircuitBreaker

variable {o : Outcome} {now : Nat}

/-- **What a trigger finds in a call is what it finds afterwards**, if its limit is above zero. -/
theorem Trigger.record_snd_eq_check {t : Trigger} (h : t.reset.IsShort) (isError : Bool)
    (delay : Nat) : (t.record now isError delay).2 = (t.count now isError delay).check now := by
  cases t with
  | streak limit errors =>
      cases isError with
      | true => rfl
      | false =>
          have hpositive : ¬limit ≤ 0 := Nat.not_le_of_lt h
          exact (if_neg hpositive).symm
  | errorRate l w => rfl
  | slowRate n l w => rfl

/-- What a block finds in a call is what it finds afterwards. -/
theorem Block.record_snd_eq_check {b : Block} (h : b.reset.IsShort) :
    (b.record now o).2 = (b.count now o).check now := by
  have htriggers : b.triggers.findSome? (fun t => (t.record now (b.isError o) o.delay).2) =
      b.triggers.findSome? (fun t => (t.count now (b.isError o) o.delay).check now) :=
    findSome?_congr fun t ht =>
      Trigger.record_snd_eq_check (h t.reset (List.mem_map_of_mem ht)) _ _
  simp only [record, check, count, List.findSome?_map]
  exact congrArg (Option.map fun f => f.text b.name) htriggers

namespace Circuit

variable {c : Circuit}

/-- **The reason that a report gives is the one that a tick would give**, once the call is counted. -/
theorem recordAll_snd_eq_check (h : ∀ b ∈ c.blocks, b.reset.IsShort) :
    (recordAll c.blocks now o).2 = (c.counting o now).check now := by
  have hblocks : c.blocks.findSome? (fun b => (b.record now o).2) =
      c.blocks.findSome? (fun b => (b.count now o).check now) :=
    findSome?_congr fun b hb => Block.record_snd_eq_check (h b hb)
  simp only [recordAll, check, counting, List.findSome?_map]
  exact hblocks

/-- A tick opens a closed circuit if some block is satisfied, and otherwise leaves it alone. -/
theorem evaluate_of_closed (hp : c.phase = .closed) :
    c.evaluate now =
      match c.check now with
      | some reason =>
          (c.enter .opened reason now, some (c.changeTo (c.enter .opened reason now)))
      | none => (c, none) := by
  unfold evaluate
  simp only [hp]
  cases c.check now with
  | none => rfl
  | some reason => exact move_of_phase .opened reason now hp

/-- **A report does what a tick does once the call is counted.** -/
theorem report_eq_evaluate (h : ∀ b ∈ c.blocks, b.reset.IsShort) (hp : c.phase = .closed)
    (hsent : o.verdict ≠ .reject) (now : Nat) : c.report o now = (c.counting o now).evaluate now := by
  have hstill : (c.counting o now).phase = .closed := hp
  rw [report_of_closed hp hsent, evaluate_of_closed hstill, ← recordAll_snd_eq_check h]
  cases hr : (recordAll c.blocks now o).2 with
  | none => exact reportClosed_of_quiet hr
  | some reason => exact reportClosed_of_satisfied hp hr

/-- **A report opens a closed circuit if some block is satisfied once the call is counted.** -/
theorem phase_report_eq_opened_iff (h : ∀ b ∈ c.blocks, b.reset.IsShort) (hp : c.phase = .closed)
    (hsent : o.verdict ≠ .reject) (now : Nat) :
    (c.report o now).1.phase = .opened ↔ (c.counting o now).check now ≠ none := by
  have hstill : (c.counting o now).phase = .closed := hp
  rw [report_eq_evaluate h hp hsent now, evaluate_of_closed hstill]
  cases (c.counting o now).check now with
  | none => simp [hstill]
  | some reason => simp

section Build

variable {f : Compiler} {s : CircuitSettings} {resource : Resource} {rule : Rule}
  {blocks : List BlockRule} {start : Nat} {cache : PatternCache}

/-- **A report leaves nothing for the next tick to find.** Take block rules whose conditions all pass
    their checks, and any operations at any times that leave the circuit closed. For a call that was
    sent, reported at any time,
    * the report does what a tick at that time does once the call is counted in every block;
    * it opens the circuit for a reason exactly if that is the reason of the first block that is
      satisfied then;
    * if the circuit is still closed after it, a tick at that time changes nothing. -/
theorem report_leaves_nothing (hvalid : ∀ r ∈ blocks, ∀ cond ∈ r.triggers, cond.check = .ok ())
    (h : (build? f s resource rule blocks start cache).1 = .ok c) (ops : List Op)
    (hclosed : (c.run ops).1.phase = .closed) (hsent : o.verdict ≠ .reject) (now : Nat) :
    let d := (c.run ops).1
    d.report o now = (d.counting o now).evaluate now ∧
    (∀ reason, (d.report o now).1.phase = .opened ∧ (d.report o now).1.status.reason = reason ↔
      (d.counting o now).check now = some reason) ∧
    ((d.report o now).1.phase = .closed →
      (d.report o now).1.evaluate now = ((d.report o now).1, none)) := by
  intro d
  have hlimits : ∀ b ∈ d.blocks, b.reset.IsShort :=
    isShort_congr (blank_run c ops) (isShort_of_build? hvalid h)
  have hreport := report_eq_evaluate hlimits hclosed hsent now
  have hstill : (d.counting o now).phase = .closed := hclosed
  rw [hreport, evaluate_of_closed hstill]
  cases hcheck : (d.counting o now).check now with
  | none =>
      refine ⟨rfl, fun reason => ?_, fun _ => ?_⟩
      · simp [hstill]
      · rw [evaluate_of_closed hstill, hcheck]
  | some reason =>
      refine ⟨rfl, fun other => ?_, fun hagain => ?_⟩
      · rw [phase_enter, Option.some.injEq]
        exact and_iff_right rfl
      · rw [phase_enter] at hagain
        cases hagain

end Build

/-- A rule with every kind of condition, over two views of a call. -/
def mixedRule : Rule :=
  { sampleRule with
    blocks := [
      { name := "failure", triggers := [.consecutiveError 3, .errorRate ⟨0.5, 1000, 4⟩] },
      { name := "delay", triggers := [.slowRate 100 ⟨0.5, 1000, 4⟩], errors := [.delay 100] }] }

/-- A circuit built from `mixedRule`. -/
def mixed : Circuit :=
  fresh { buckets := 10, probes := 3 } sample.resource mixedRule 0
    [{ name := "failure", tests := [],
       triggers := [.streak 3 0, .errorRate ⟨0.5, 1000, 4⟩ ⟨1000, 100, List.replicate 10 {}⟩] },
     { name := "delay", tests := [.delay 100],
       triggers := [.slowRate 100 ⟨0.5, 1000, 4⟩ ⟨1000, 100, List.replicate 10 {}⟩] }]

/-- A success, a failure and a late success. -/
def threeCalls : List Op :=
  [.report (sampleOutcome .success) 1200, .report (sampleOutcome .fail) 1201,
    .report (sampleOutcome .success) 900]

/-- A second failure opens the mixed circuit over half of the four calls, for the reason that a tick would
    give; a third success leaves nothing for the tick. -/
theorem mixed_report_leaves_nothing :
    (∀ r ∈ mixedRule.blocks, ∀ cond ∈ r.triggers, cond.check = .ok ()) ∧
    (build? standardCompiler { buckets := 10, probes := 3 } sample.resource mixedRule
      mixedRule.blocks 0 (PatternCache.ofCapacity 16)).1 = .ok mixed ∧
    (mixed.run threeCalls).1.phase = .closed ∧
    (sampleOutcome .fail).verdict ≠ .reject ∧ (sampleOutcome .success).verdict ≠ .reject ∧
    (let d := (mixed.run threeCalls).1
     (d.report (sampleOutcome .fail) 1202).1.phase = .opened ∧
     (d.counting (sampleOutcome .fail) 1202).check 1202 =
       some (d.report (sampleOutcome .fail) 1202).1.status.reason ∧
     (d.report (sampleOutcome .success) 1202).1.phase = .closed ∧
     (d.report (sampleOutcome .success) 1202).1.evaluate 1202 =
       ((d.report (sampleOutcome .success) 1202).1, none)) := by
  have hshare : RateLimit.isShare 0.5 = true := by decide
  have hvalid : ∀ r ∈ mixedRule.blocks, ∀ cond ∈ r.triggers, cond.check = .ok () := by
    simp [mixedRule, TriggerCondition.check, RateLimit.check, hshare]
  have h : (build? standardCompiler { buckets := 10, probes := 3 } sample.resource mixedRule
      mixedRule.blocks 0 (PatternCache.ofCapacity 16)).1 = .ok mixed := rfl
  have hclosed : (mixed.run threeCalls).1.phase = .closed := by decide
  have hfail : (sampleOutcome .fail).verdict ≠ .reject := by decide
  have hsuccess : (sampleOutcome .success).verdict ≠ .reject := by decide
  obtain ⟨_, hreason, _⟩ := report_leaves_nothing hvalid h threeCalls hclosed hfail 1202
  obtain ⟨_, _, hquiet⟩ := report_leaves_nothing hvalid h threeCalls hclosed hsuccess 1202
  have hopened : ((mixed.run threeCalls).1.report (sampleOutcome .fail) 1202).1.phase = .opened := by
    decide
  have hstill : ((mixed.run threeCalls).1.report (sampleOutcome .success) 1202).1.phase = .closed := by
    decide
  exact ⟨hvalid, h, hclosed, hfail, hsuccess, hopened, (hreason _).mp ⟨hopened, rfl⟩, hstill,
    hquiet hstill⟩

end Circuit

end CircuitBreaker

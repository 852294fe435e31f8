import Mathlib.Data.List.Basic
import Mathlib.Data.List.Induction
import CircuitBreaker.Proofs.Circuit.Effect

/-!
# `Proofs.Circuit.Stay` — the times that a circuit spends in one phase

A run is cut into **stays**. Some operations bring the circuit to a phase (`Arrives`), and after each
number of those that follow it is still there (`Stays`). Every run that ends in a phase ends with a stay
in it (`exists_stay`), so what is to be said about the calls reported since a circuit closed, or since it
became half open, is said about one stay.

Two things are known of a stay without looking at its phase. It begins with the circuit entering the
phase (`Arrives.entered`), and only reports of calls that were sent count anything while it lasts
(`kept_of_call?_eq_none`).

## Contents
- `calls`: the calls that operations report.
- `Arrives`, `Stays`, `exists_stay`: cutting a run.
- `step_of_closed`, `step_of_halfOpen`: the reports that count.
- `kept_of_call?_eq_none`: the operations that do not.
- `blocks_of_stays_closed`, `blocks_of_arrives_closed`, `phase_report_of_closed`: what a closed circuit
  counts, what it starts from, and what opens it.
-/

namespace CircuitBreaker

/-- A block that counted some calls, one after the other. -/
def Block.countAll (b : Block) (calls : List (Outcome × Nat)) : Block :=
  calls.foldl (fun b call => b.count call.2 call.1) b

theorem Block.countAll_append (b : Block) (calls more : List (Outcome × Nat)) :
    b.countAll (calls ++ more) = (b.countAll calls).countAll more := List.foldl_append

namespace Circuit

variable {c d : Circuit} {p : Phase} {op : Op} {ops : List Op} {o : Outcome} {now : Nat}

/-! ## Calls -/

/-- The call that an operation reports, and when. One that was never sent does not count. -/
def Op.call? : Op → Option (Outcome × Nat)
  | .report o now => if o.verdict = .reject then none else some (o, now)
  | _ => none

/-- The calls that some operations report, in order. -/
def calls (ops : List Op) : List (Outcome × Nat) := ops.filterMap Op.call?

theorem call?_of_sent (hsent : o.verdict ≠ .reject) : (Op.report o now).call? = some (o, now) :=
  if_neg hsent

theorem call?_of_reject (hreject : o.verdict = .reject) : (Op.report o now).call? = none :=
  if_pos hreject

/-- Only a report reports a call. -/
theorem eq_report_of_call? {call : Outcome × Nat} (h : op.call? = some call) :
    op = .report call.1 call.2 ∧ call.1.verdict ≠ .reject := by
  cases op with
  | report o now =>
      by_cases hreject : o.verdict = .reject
      · rw [call?_of_reject hreject] at h
        cases h
      · rw [call?_of_sent hreject] at h
        cases h
        exact ⟨rfl, hreject⟩
  | _ => cases h

theorem calls_snoc (ops : List Op) (op : Op) : calls (ops ++ [op]) = calls ops ++ op.call?.toList := by
  unfold calls
  rw [List.filterMap_append]
  cases h : op.call? <;> simp [h]

/-! ## Stays -/

/-- **Operations bring a circuit to a phase** if it is there after them, and was not before the last. -/
def Arrives (c : Circuit) (p : Phase) (ops : List Op) : Prop :=
  (c.run ops).1.phase = p ∧ ∀ before op, ops = before ++ [op] → (c.run before).1.phase ≠ p

/-- **A circuit stays in a phase** over some operations if it is there before and after each of them. -/
def Stays (c : Circuit) (p : Phase) (ops : List Op) : Prop :=
  ∀ done, done <+: ops → (c.run done).1.phase = p

theorem run_snoc (c : Circuit) (ops : List Op) (op : Op) :
    (c.run (ops ++ [op])).1 = ((c.run ops).1.step op).1 := by
  rw [run_append]
  rfl

theorem stays_nil_iff : c.Stays p [] ↔ c.phase = p := by
  constructor
  · intro h
    exact h [] List.prefix_rfl
  · intro h done hdone
    rw [List.prefix_nil.mp hdone]
    exact h

/-- A stay ends where it is told to. -/
theorem Stays.phase (h : c.Stays p ops) : (c.run ops).1.phase = p := h ops List.prefix_rfl

/-- A stay is longer by one operation if the circuit is still in the phase. -/
theorem stays_snoc_iff :
    c.Stays p (ops ++ [op]) ↔ c.Stays p ops ∧ ((c.run ops).1.step op).1.phase = p := by
  rw [← run_snoc]
  constructor
  · intro h
    exact ⟨fun done hdone => h done (hdone.trans (List.prefix_append ops [op])), h.phase⟩
  · rintro ⟨hops, hlast⟩ done hdone
    rcases List.prefix_concat_iff.mp hdone with rfl | hdone
    · exact hlast
    · exact hops done hdone

/-- What comes after the first operation of a stay is a stay too. -/
theorem stays_cons_iff : c.Stays p (op :: ops) ↔ c.phase = p ∧ (c.step op).1.Stays p ops := by
  constructor
  · intro h
    refine ⟨h [] List.nil_prefix, fun done hdone => ?_⟩
    exact h (op :: done) ((List.prefix_cons_inj op).mpr hdone)
  · rintro ⟨hp, hops⟩ done hdone
    cases done with
    | nil => exact hp
    | cons first rest =>
        obtain ⟨rfl, hrest⟩ := List.cons_prefix_cons.mp hdone
        exact hops rest hrest

/-- **Every run that ends in a phase ends with a stay in it.** -/
theorem exists_stay (h : (c.run ops).1.phase = p) :
    ∃ pre mid, ops = pre ++ mid ∧ c.Arrives p pre ∧ (c.run pre).1.Stays p mid := by
  -- the last operation goes on with the stay if the circuit was in the phase before it
  induction ops using List.reverseRecOn with
  | nil =>
      refine ⟨[], [], rfl, ⟨h, ?_⟩, stays_nil_iff.mpr h⟩
      intro before op hnil
      simp at hnil
  | append_singleton ops op ih =>
      by_cases hp : (c.run ops).1.phase = p
      · obtain ⟨pre, mid, rfl, harrives, hstays⟩ := ih hp
        refine ⟨pre, mid ++ [op], List.append_assoc pre mid [op], harrives, ?_⟩
        apply stays_snoc_iff.mpr
        rw [run_snoc, run_append] at h
        exact ⟨hstays, h⟩
      · refine ⟨ops ++ [op], [], (List.append_nil _).symm, ⟨h, ?_⟩, stays_nil_iff.mpr h⟩
        intro before last hlast
        rw [← (List.append_inj' hlast rfl).1]
        exact hp

/-- **A stay begins with entering its phase**, unless the circuit was in it from the start. -/
theorem Arrives.entered (h : c.Arrives p ops) (hp : p ≠ .destroyed) :
    ops = [] ∨ ∃ (e : Circuit) (reason : String) (now : Nat),
      e.blank = c.blank ∧ (c.run ops).1 = e.enter p reason now := by
  rcases List.eq_nil_or_concat' ops with rfl | ⟨before, op, rfl⟩
  · exact Or.inl rfl
  · refine Or.inr ?_
    obtain ⟨hafter, hbefore⟩ := h
    have hne := hbefore before op rfl
    rw [run_snoc] at hafter ⊢
    have heffect := effect_step (c.run before).1 op
    have hedge : ((c.run before).1.step op).1.phase ∈ (c.run before).1.phase.next := by
      rcases status_effect heffect with hs | hs | ⟨_, hs⟩
      · exact absurd ((congrArg Status.phase hs).symm.trans hafter) hne
      · exact hs
      · exact absurd (hafter.symm.trans hs) hp
    have hchange := change_effect heffect
    rw [if_pos hedge] at hchange
    rw [hchange] at heffect
    obtain ⟨e, reason, now, hblank, henter⟩ := entered_of_effect heffect
    have htarget : ((c.run before).1.changeTo ((c.run before).1.step op).1).status.phase = p := hafter
    rw [htarget] at henter
    exact ⟨e, reason, now, hblank.trans (blank_run c before), henter⟩

/-! ## Operations that count -/

/-- A report of a call that was never sent does nothing. -/
theorem step_of_reject (hreject : o.verdict = .reject) : (c.step (.report o now)).1 = c := by
  have hreport : c.report o now = (c, none) := by
    unfold report
    simp [hreject]
  exact congrArg Prod.fst hreport

/-- A closed circuit counts a call that was sent. -/
theorem report_of_closed (hp : c.phase = .closed) (hsent : o.verdict ≠ .reject) :
    c.report o now = (c.touch now).reportClosed o now := by
  unfold report isDestroyed
  simp [hp, hsent]

theorem step_of_closed (hp : c.phase = .closed) (hsent : o.verdict ≠ .reject) :
    (c.step (.report o now)).1 = ((c.touch now).reportClosed o now).1 :=
  congrArg Prod.fst (report_of_closed hp hsent)

theorem step_of_halfOpen (hp : c.phase = .halfOpen) (hsent : o.verdict ≠ .reject) :
    (c.step (.report o now)).1 = ((c.touch now).reportProbe o now).1 := by
  have hreport : c.report o now = (c.touch now).reportProbe o now := by
    unfold report isDestroyed
    simp [hp, hsent]
  exact congrArg Prod.fst hreport

/-- What is not a report leaves the counts alone, unless it moves the circuit. -/
theorem kept_of_effect {t : Option Transition} (h : Effect c op d t)
    (hop : ∀ o now, op ≠ .report o now) (hp : d.phase = c.phase) :
    d.blocks = c.blocks ∧ d.probe.successes = c.probe.successes := by
  cases h with
  | nothing => exact ⟨rfl, rfl⟩
  | touched now => exact ⟨rfl, rfl⟩
  | counted o now => exact absurd rfl (hop o now)
  | tripped o reason now => exact absurd rfl (hop o now)
  | succeeded o now => exact absurd rfl (hop o now)
  | concluded o success target reason now => exact absurd rfl (hop o now)
  | gaveUp now => exact ⟨rfl, rfl⟩
  | acquired probe _ ha =>
      unfold Probe.acquire? at ha
      split at ha
      · cases ha
        exact ⟨rfl, rfl⟩
      · cases ha
  | released => exact ⟨rfl, rfl⟩
  | moved target reason now he =>
      rw [phase_enter] at hp
      rw [hp] at he
      exact absurd he (Phase.not_mem_next_self c.phase)
  | destroyed =>
      unfold destroy
      split <;> exact ⟨rfl, rfl⟩

/-- **Only calls count.** An operation that reports none, and leaves the circuit in its phase, leaves its
    blocks and its successes alone. -/
theorem kept_of_call?_eq_none (hcall : op.call? = none) (hp : (c.step op).1.phase = c.phase) :
    (c.step op).1.blocks = c.blocks ∧ (c.step op).1.probe.successes = c.probe.successes := by
  by_cases hreport : ∃ o now, op = .report o now
  · obtain ⟨o, now, rfl⟩ := hreport
    have hreject : o.verdict = .reject := by
      by_contra hsent
      rw [call?_of_sent hsent] at hcall
      cases hcall
    rw [step_of_reject hreject]
    exact ⟨rfl, rfl⟩
  · refine kept_of_effect (effect_step c op) ?_ hp
    intro o now hop
    exact hreport ⟨o, now, hop⟩

/-! ## Closed circuits -/

/-- **A closed circuit that stays closed counts the call that was reported**, if one was. -/
theorem blocks_step_of_closed (hp : c.phase = .closed) (hstill : (c.step op).1.phase = .closed) :
    (c.step op).1.blocks =
      c.blocks.map fun b => (op.call?.map fun call => b.count call.2 call.1).getD b := by
  cases hcall : op.call? with
  | none => simp [(kept_of_call?_eq_none hcall (hstill.trans hp.symm)).1]
  | some call =>
      obtain ⟨rfl, hsent⟩ := eq_report_of_call? hcall
      rw [step_of_closed hp hsent] at hstill ⊢
      cases hr : (recordAll c.blocks call.2 call.1).2 with
      | none =>
          rw [reportClosed_of_quiet hr]
          rfl
      | some reason =>
          rw [reportClosed_of_satisfied hp hr, phase_enter] at hstill
          cases hstill

/-- **Over a stay in the closed phase, every block counts the calls of the stay**, and no others. -/
theorem blocks_of_stays_closed (h : c.Stays .closed ops) :
    (c.run ops).1.blocks = c.blocks.map fun b => b.countAll (calls ops) := by
  induction ops using List.reverseRecOn with
  | nil => exact (List.map_id _).symm
  | append_singleton ops op ih =>
      obtain ⟨hops, hstill⟩ := stays_snoc_iff.mp h
      rw [run_snoc, blocks_step_of_closed hops.phase hstill, ih hops, List.map_map, calls_snoc]
      refine List.map_congr_left fun b _ => ?_
      rw [Block.countAll_append]
      cases op.call? <;> rfl

/-- A call opens a closed circuit if it satisfies some block. -/
theorem phase_report_of_closed (hp : c.phase = .closed) (hsent : o.verdict ≠ .reject) :
    (c.step (.report o now)).1.phase = .opened ↔ ∃ b ∈ c.blocks, (b.record now o).2 ≠ none := by
  rw [step_of_closed hp hsent]
  cases hr : (recordAll c.blocks now o).2 with
  | none =>
      have hstill : (c.counting o now).phase = .closed := hp
      rw [reportClosed_of_quiet hr, hstill]
      simpa using recordAll_snd_eq_none hr
  | some reason =>
      have hsome : (recordAll c.blocks now o).2 ≠ none := by simp [hr]
      rw [reportClosed_of_satisfied hp hr]
      simpa [recordAll, List.findSome?_map, List.findSome?_eq_none_iff] using hsome

/-- **A circuit that closes has counted nothing**, as when it was built. -/
theorem blocks_of_arrives_closed {f : Compiler} {s : CircuitSettings} {resource : Resource}
    {rule : Rule} {blocks : List BlockRule} {start : Nat} {cache : PatternCache}
    (h : (build? f s resource rule blocks start cache).1 = .ok c) (hops : c.Arrives .closed ops) :
    (c.run ops).1.blocks = c.blocks := by
  obtain ⟨bs, hbs, rfl⟩ := exists_of_build? h
  rcases hops.entered (by simp) with rfl | ⟨e, reason, now, hblank, henter⟩
  · rfl
  · obtain ⟨_, _, hblocks, _⟩ := blank_eq_iff.mp hblank
    rw [henter]
    exact hblocks.trans (Block.map_reset_buildAll? hbs)

end Circuit

end CircuitBreaker

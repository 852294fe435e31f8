import CircuitBreaker.Proofs.Circuit.Notification
import CircuitBreaker.Proofs.Transparency

/-!
# `Proofs.Circuit.Recovery` — a circuit that closed again is as good as new

When a half-open circuit closes, its limiter and its blocks are cleared. Three things are left of its
past: when and why it closed, when it was last needed, and the deadline of its last trial calls. None
of them matters: the deadline is set anew before it is read, and the others are only shown.

`Alike moves a b` relates two such circuits after the same operations, `moves` being the changes that
they made in the meantime. The first change of phase makes their statuses equal, and the first time
that they are half open makes their deadlines equal. Over one operation (`Alike.step`) they answer the
same and stay alike, and so they do for good (`Alike.run`).

Clearing leaves what building makes (`alike_closed`), since no run changes the shape of a circuit.
-/

namespace CircuitBreaker.Circuit

/-- **Two circuits that differ only in what does not matter**, after they made some changes of phase
    side by side. Resource, rule, limiter and everything that is counted are the same. -/
inductive Alike (moves : List Transition) (a : Circuit) : Circuit → Prop where
  | intro (status : Status) (deadline lastAccess : Nat)
      -- until the first change, they may differ in when and why they were closed
      (hs : status = a.status ∨
        moves = [] ∧ status = { a.status with reason := status.reason, since := status.since })
      -- until they are half open, they may differ in a deadline that nobody reads
      (hd : deadline = a.probeDeadline ∨ ∀ t ∈ moves, t.status.phase ≠ .halfOpen)
      (hclosed : moves = [] → a.phase = .closed ∨ a.phase = .destroyed)
      (hhalf : a.phase = .halfOpen → ∃ t ∈ moves, t.status.phase = .halfOpen) :
      Alike moves a { a with status, probeDeadline := deadline, lastAccess }

variable {moves : List Transition} {a b : Circuit}

namespace Alike

theorem phase_eq (h : Alike moves a b) : b.phase = a.phase := by
  obtain ⟨status, deadline, lastAccess, hs, _, _, _⟩ := h
  rcases hs with rfl | ⟨_, hs⟩
  · rfl
  · show status.phase = a.status.phase
    rw [hs]

theorem blocks_eq (h : Alike moves a b) : b.blocks = a.blocks := by cases h; rfl

theorem rule_eq (h : Alike moves a b) : b.rule = a.rule := by cases h; rfl

theorem probe_eq (h : Alike moves a b) : b.probe = a.probe := by cases h; rfl

/-- The statuses are equal once the circuits are neither closed nor destroyed. -/
theorem status_eq (h : Alike moves a b) (hc : a.phase ≠ .closed) (hd : a.phase ≠ .destroyed) :
    b.status = a.status := by
  obtain ⟨status, deadline, lastAccess, hs, _, hclosed, _⟩ := h
  rcases hs with hs | ⟨hnil, _⟩
  · exact hs
  · rcases hclosed hnil with h | h
    · exact absurd h hc
    · exact absurd h hd

/-- The deadlines are equal while the circuits are half open. -/
theorem deadline_eq (h : Alike moves a b) (hp : a.phase = .halfOpen) :
    b.probeDeadline = a.probeDeadline := by
  obtain ⟨status, deadline, lastAccess, _, hd, _, hhalf⟩ := h
  rcases hd with hd | hd
  · exact hd
  · obtain ⟨t, ht, hphase⟩ := hhalf hp
    exact absurd hphase (hd t ht)

/-! ## What keeps two circuits alike -/

/-- Noting that they were needed, at whatever times. -/
theorem touch (h : Alike moves a b) (now : Nat) : Alike moves (a.touch now) (b.touch now) := by
  obtain ⟨status, deadline, lastAccess, hs, hd, hclosed, hhalf⟩ := h
  exact .intro status deadline (max lastAccess now) hs hd hclosed hhalf

/-- Giving them the same blocks. -/
theorem withBlocks (h : Alike moves a b) (blocks : List Block) :
    Alike moves { a with blocks } { b with blocks } := by
  obtain ⟨status, deadline, lastAccess, hs, hd, hclosed, hhalf⟩ := h
  exact .intro status deadline lastAccess hs hd hclosed hhalf

/-- Giving them the same limiter. -/
theorem withProbe (h : Alike moves a b) (probe : Probe) :
    Alike moves { a with probe } { b with probe } := by
  obtain ⟨status, deadline, lastAccess, hs, hd, hclosed, hhalf⟩ := h
  exact .intro status deadline lastAccess hs hd hclosed hhalf

/-- Destroying them. -/
theorem destroy (h : Alike moves a b) : Alike moves a.destroy b.destroy := by
  have hphase := h.phase_eq
  unfold Circuit.destroy isDestroyed
  rw [hphase]
  split
  · exact h
  · obtain ⟨status, deadline, lastAccess, hs, hd, _, _⟩ := h
    refine .intro _ deadline lastAccess ?_ hd (fun _ => Or.inr rfl) (fun hp => by cases hp)
    rcases hs with hs | ⟨hnil, _⟩
    · exact Or.inl (by rw [hs])
    · exact Or.inr ⟨hnil, rfl⟩

/-- **Entering a phase** makes the statuses equal; entering the half-open phase sets both deadlines. -/
theorem enter (h : Alike moves a b) (target : Phase) (reason : String) (now : Nat) :
    b.changeTo (b.enter target reason now) = a.changeTo (a.enter target reason now) ∧
      Alike (moves ++ [a.changeTo (a.enter target reason now)]) (a.enter target reason now)
        (b.enter target reason now) := by
  have hphase := h.phase_eq
  obtain ⟨status, deadline, lastAccess, _, hd, _, _⟩ := h
  -- only the deadline and the last access of the second circuit are still its own
  have henter : enter { a with status, probeDeadline := deadline, lastAccess } target reason now =
      { a.enter target reason now with
        probeDeadline :=
          if target = .halfOpen then (a.enter target reason now).probeDeadline else deadline
        lastAccess } := by
    cases target <;> rfl
  rw [henter]
  refine ⟨?_, .intro (a.enter target reason now).status _ lastAccess (Or.inl rfl) ?_
    (fun hnil => by simp at hnil) (fun hp => ?_)⟩
  · unfold changeTo
    rw [hphase]
  · by_cases hp : target = .halfOpen
    · exact Or.inl (if_pos hp)
    · rw [if_neg hp, probeDeadline_enter, if_neg hp]
      refine hd.imp_right fun hbefore t ht => ?_
      rcases List.mem_append.mp ht with ht | ht
      · exact hbefore t ht
      · rw [List.mem_singleton.mp ht]
        exact fun hhalf => hp ((phase_enter a target reason now).symm.trans hhalf)
  · exact ⟨_, List.mem_append_right moves List.mem_cons_self, hp⟩

/-! ## Operations on circuits that are alike -/

/-- Two circuits made the same change, if any, and are alike after it. -/
def SameMove (moves : List Transition) (r s : Circuit × Option Transition) : Prop :=
  s.2 = r.2 ∧ Alike (moves ++ r.2.toList) r.1 s.1

theorem stay (h : Alike moves a b) : SameMove moves (a, none) (b, none) :=
  ⟨rfl, by rwa [Option.toList_none, List.append_nil]⟩

theorem move (h : Alike moves a b) (source target : Phase) (reason : String) (now : Nat) :
    SameMove moves (a.move source target reason now) (b.move source target reason now) := by
  unfold Circuit.move
  rw [h.phase_eq]
  split
  · rename_i hp
    subst hp
    obtain ⟨hchange, halike⟩ := h.enter target reason now
    rw [changeTo, h.phase_eq] at hchange
    exact ⟨congrArg some hchange, halike⟩
  · exact h.stay

theorem reportClosed (h : Alike moves a b) (o : Outcome) (now : Nat) :
    SameMove moves (a.reportClosed o now) (b.reportClosed o now) := by
  unfold Circuit.reportClosed
  rw [h.blocks_eq]
  cases recordAll a.blocks now o with
  | mk blocks reason =>
      cases reason with
      | none => exact (h.withBlocks blocks).stay
      | some reason => exact (h.withBlocks blocks).move .closed .opened reason now

theorem recover (h : Alike moves a b) (now : Nat) :
    SameMove moves (a.recover now) (b.recover now) := by
  unfold Circuit.recover
  rw [h.rule_eq]
  exact h.move .halfOpen .closed _ now

theorem reportProbe (h : Alike moves a b) (o : Outcome) (now : Nat) :
    SameMove moves (a.reportProbe o now) (b.reportProbe o now) := by
  have hprobe := h.withProbe (a.probe.finish (a.blocks.find? fun b => b.isProbeFailure o).isNone).1
  simp only [Circuit.reportProbe, h.blocks_eq, h.probe_eq] at hprobe ⊢
  cases (a.probe.finish (a.blocks.find? fun b => b.isProbeFailure o).isNone).2 with
  | pending => exact hprobe.stay
  | close => exact hprobe.recover now
  | reopen => exact hprobe.move .halfOpen .opened _ now

theorem report (h : Alike moves a b) (o : Outcome) (now : Nat) :
    SameMove moves (a.report o now) (b.report o now) := by
  unfold Circuit.report isDestroyed
  rw [h.phase_eq]
  split
  · exact h.stay
  · simp only [phase_touch, h.phase_eq]
    cases a.phase with
    | closed => exact (h.touch now).reportClosed o now
    | halfOpen => exact (h.touch now).reportProbe o now
    | opened => exact (h.touch now).stay
    | destroyed => exact (h.touch now).stay

/-- Half-open circuits that are alike give up their lost trial calls together. -/
theorem releaseLost (h : Alike moves a b) (hp : a.phase = .halfOpen) (now : Nat) :
    Alike moves (a.releaseLost now) (b.releaseLost now) := by
  unfold Circuit.releaseLost
  rw [h.deadline_eq hp, h.probe_eq, h.rule_eq]
  split
  · obtain ⟨status, deadline, lastAccess, hs, _, hclosed, hhalf⟩ := h
    exact .intro status _ lastAccess hs (Or.inl rfl) hclosed hhalf
  · exact h

theorem evaluate (h : Alike moves a b) (now : Nat) :
    SameMove moves (a.evaluate now) (b.evaluate now) := by
  unfold Circuit.evaluate
  rw [h.phase_eq]
  cases hp : a.phase with
  | closed =>
      have hcheck : b.check now = a.check now := by rw [check, check, h.blocks_eq]
      simp only [hcheck]
      cases a.check now with
      | none => exact h.stay
      | some reason => exact h.move .closed .opened reason now
  | opened =>
      have hslept : b.hasSlept now = a.hasSlept now := by
        rw [hasSlept, hasSlept, h.status_eq (by simp [hp]) (by simp [hp]), h.rule_eq]
      simp only [hslept]
      cases a.hasSlept now with
      | false => exact h.stay
      | true => exact h.move .opened .halfOpen _ now
  | halfOpen => exact (h.releaseLost hp now).stay
  | destroyed => exact h.stay

/-- Both take a slot, or neither does. -/
theorem acquireProbe (h : Alike moves a b) :
    (b.step .acquireProbe).2 = (a.step .acquireProbe).2 ∧
      Alike moves (a.step .acquireProbe).1 (b.step .acquireProbe).1 := by
  simp only [step, acquireProbe?, h.phase_eq, h.probe_eq]
  by_cases hp : a.phase = .halfOpen
  · cases a.probe.acquire? with
    | none =>
        simp only [if_pos hp, Option.map_none]
        exact ⟨trivial, h⟩
    | some probe =>
        simp only [if_pos hp, Option.map_some]
        exact ⟨trivial, h.withProbe probe⟩
  · simp only [if_neg hp]
    exact ⟨trivial, h⟩

/-- **One operation on two circuits that are alike**: they answer the same and stay alike. -/
theorem step (h : Alike moves a b) (op : Op) :
    (b.step op).2 = (a.step op).2 ∧
      Alike (moves ++ (a.step op).2.change.toList) (a.step op).1 (b.step op).1 := by
  have answer {r s : Circuit × Option Transition} (hm : SameMove moves r s) :
      (Answer.ofChange s).2 = (Answer.ofChange r).2 ∧
        Alike (moves ++ (Answer.ofChange r).2.change.toList) (Answer.ofChange r).1
          (Answer.ofChange s).1 := by
    refine ⟨?_, hm.2⟩
    unfold Answer.ofChange
    rw [hm.1]
  have quiet {d e : Circuit} (hq : Alike moves d e) : Alike (moves ++ none.toList) d e := hq.stay.2
  cases op with
  | report o now => exact answer (h.report o now)
  | evaluate now => exact answer (h.evaluate now)
  | acquireProbe =>
      obtain ⟨hanswer, halike⟩ := h.acquireProbe
      have hnone : (a.step .acquireProbe).2.change = none := change_step_eq_none a rfl
      rw [hnone]
      exact ⟨hanswer, quiet halike⟩
  | releaseProbe =>
      refine ⟨rfl, quiet ?_⟩
      simp only [Circuit.step, releaseProbe, h.probe_eq]
      exact h.withProbe a.probe.release
  | touch now => exact ⟨rfl, quiet (h.touch now)⟩
  | destroy => exact ⟨rfl, quiet h.destroy⟩
  | trip reason now => exact answer (h.move .closed .opened reason now)
  | startProbing now => exact answer (h.move .opened .halfOpen _ now)
  | reopen reason now => exact answer (h.move .halfOpen .opened reason now)
  | recover now => exact answer (h.recover now)

/-- **Circuits that are alike answer the same for good.** -/
theorem run (h : Alike moves a b) (ops : List Op) :
    (b.run ops).2 = (a.run ops).2 ∧
      Alike (moves ++ log (a.run ops).2) (a.run ops).1 (b.run ops).1 := by
  induction ops generalizing moves a b with
  | nil => exact ⟨rfl, h.stay.2⟩
  | cons op rest ih =>
      obtain ⟨hanswer, hstep⟩ := h.step op
      obtain ⟨hanswers, hrest⟩ := ih hstep
      simp only [run_cons, hanswer, hanswers, log_cons, ← List.append_assoc]
      exact ⟨trivial, hrest⟩

end Alike

/-! ## The circuit that closed again -/

section Build

variable {f : Compiler} {s : CircuitSettings} {resource : Resource} {rule : Rule}
  {blocks : List BlockRule} {now : Nat} {capacity : Nat} {texts : List String} {c : Circuit}

/-- A circuit can be built again at any time, with the same blocks, whatever is in the cache. -/
theorem exists_build?_again
    (h : (build? f s resource rule blocks now (PatternCache.warmed f capacity texts)).1 = .ok c)
    (now' : Nat) (texts' : List String) :
    (build? f s resource rule blocks now' (PatternCache.warmed f capacity texts')).1 =
      .ok (fresh s resource rule now' c.blocks) := by
  have answer (now : Nat) (texts : List String) := (answers_build? f s resource rule blocks now _
    (PatternCache.faithful_warmed f capacity texts)).1
  rw [answer] at h
  obtain ⟨bs, hbs, rfl⟩ := exists_of_map_ok h
  rw [answer, hbs]
  rfl

/-- **Closing brings back the circuit that was built**, with its blocks and its limiter clear. -/
theorem alike_closed {cache : PatternCache}
    (h : (build? f s resource rule blocks now cache).1 = .ok c) {e : Circuit}
    (he : e.blank = c.blank) (reason : String) (since now' : Nat) :
    Alike [] (fresh s resource rule now' c.blocks) (e.enter .closed reason since) := by
  obtain ⟨bs, hbs, rfl⟩ := exists_of_build? h
  obtain ⟨hresource, hrule, hblocks, hprobe⟩ := blank_eq_iff.mp he
  have hclear : (fresh s resource rule now bs).blocks.map Block.reset = bs :=
    Block.map_reset_buildAll? hbs
  have hback : e.enter .closed reason since =
      { fresh s resource rule now' bs with
        status := { rule := rule.name, phase := .closed, reason, since }
        probeDeadline := e.probeDeadline
        lastAccess := e.lastAccess } := by
    simp only [enter, hresource, hrule, hblocks.trans hclear, hprobe]
    rfl
  rw [hback]
  exact .intro _ _ _ (Or.inr ⟨rfl, rfl⟩) (Or.inr (by simp)) (fun _ => Or.inl rfl)
    (fun hp => by cases hp)

/-- **Nothing but its status tells a circuit that closed again from a new one.** Take a circuit that
    closes in the last operation of a run, and one that is built from the same rule and block rules at
    any time, with anything in the cache. Over whatever operations come later, they answer the same,
    the listeners hear the same, and the two circuits stay alike. -/
theorem recovered_like_new
    (h : (build? f s resource rule blocks now (PatternCache.warmed f capacity texts)).1 = .ok c)
    {pre : List Op} {op : Op} {t : Transition} (ht : ((c.run pre).1.step op).2.change = some t)
    (hclosed : t.status.phase = .closed) (now' : Nat) (texts' : List String) :
    ∃ new, (build? f s resource rule blocks now' (PatternCache.warmed f capacity texts')).1 = .ok new ∧
      ∀ (ls : List Listener) (later : List Op),
        let old := (c.run (pre ++ [op])).1
        (old.run later).2 = (new.run later).2 ∧
        (old.watchedRun ls later).2 = (new.watchedRun ls later).2 ∧
        (old.run later).1.phase = (new.run later).1.phase ∧
        Alike (log (new.run later).2) (new.run later).1 (old.run later).1 := by
  refine ⟨_, exists_build?_again h now' texts', fun ls later => ?_⟩
  obtain ⟨e, reason, since, he, hentered⟩ := entered_of_effect (ht ▸ effect_step (c.run pre).1 op)
  have hblank : e.blank = c.blank := he.trans (blank_run c pre)
  have hold : (c.run (pre ++ [op])).1 = e.enter .closed reason since := by
    rw [run_append, ← hclosed]
    exact hentered
  have halike := alike_closed h hblank reason since now'
  obtain ⟨hanswers, hlater⟩ := halike.run later
  rw [List.nil_append] at hlater
  simp only [hold]
  refine ⟨hanswers, ?_, hlater.phase_eq, hlater⟩
  rw [watchedRun_snd, watchedRun_snd, hanswers]

end Build

/-- The sample circuit closes over one successful trial call. It then opens and lets a trial call
    through once more, as a circuit does that is built at that time. -/
theorem sample_recovered_like_new :
    let success : Op := .report (sampleOutcome .success) 1004
    let built (now : Nat) (texts : List String) :=
      (build? standardCompiler { buckets := 10, probes := 3 } sample.resource sampleRule
        sampleRule.blocks now (PatternCache.warmed standardCompiler 16 texts)).1
    built 0 [] = .ok sample ∧
    ∃ t, ((sample.run sampleOps).1.step success).2.change = some t ∧ t.status.phase = .closed ∧
      ∃ new, built 1004 ["a*"] = .ok new ∧
        ((sample.run (sampleOps ++ [success])).1.run sampleOps).2 = (new.run sampleOps).2 ∧
        ((sample.run (sampleOps ++ [success])).1.run sampleOps).1.phase =
          (new.run sampleOps).1.phase := by
  intro success built
  have h : built 0 [] = .ok sample := rfl
  obtain ⟨t, ht, hclosed⟩ : ∃ t, ((sample.run sampleOps).1.step success).2.change = some t ∧
      t.status.phase = .closed := ⟨_, rfl, rfl⟩
  obtain ⟨new, hnew, like⟩ := recovered_like_new h ht hclosed 1004 ["a*"]
  exact ⟨h, t, ht, hclosed, new, hnew, (like [] sampleOps).1, (like [] sampleOps).2.2.1⟩

end CircuitBreaker.Circuit

import CircuitBreaker.Circuit.Watched
import CircuitBreaker.Proofs.Circuit.Effect

/-!
# `Proofs.Circuit.Notification` — the log of a circuit tells its history

A circuit answers, stores its phase and tells its listeners, and these three agree: an operation says
that it moved the circuit exactly if the phase went along an edge, and the listeners hear of those
moves, each once, and of nothing else. Put together, what they hear over a run is a path: it starts in
the first phase, every change starts where the one before it ended, and it ends in the phase that the
circuit has reached (`isPath_run`). Destruction ends the log without an entry
(`run_of_destroyed`).

Listeners are taken to be **steady**, that is, never to fail: one that fails keeps those after it from
hearing.
-/

namespace CircuitBreaker

/-! ## Listeners that do not fail -/

/-- What a reaction leaves behind. -/
def Reaction.notice? : Reaction → Option Notice
  | .notice n => some n
  | .silence => none
  | .fault _ => none

/-- A listener is **steady** if it never fails. -/
def Listener.IsSteady (l : Listener) : Prop := ∀ t message, l t ≠ .fault message

/-- What listeners leave behind when each of them is told of a change, once and in order. -/
def tellEach (ls : List Listener) (t : Transition) : List Notice :=
  ls.filterMap fun l => (l t).notice?

/-- **Steady listeners are all told**, and none of them fails. -/
theorem deliver_of_isSteady {ls : List Listener} (hls : ∀ l ∈ ls, l.IsSteady) (t : Transition) :
    deliver ls t = { notices := tellEach ls t, fault := none } := by
  induction ls with
  | nil => rfl
  | cons l rest ih =>
      have hrest := ih fun m hm => hls m (List.mem_cons_of_mem l hm)
      cases hl : l t with
      | fault message => exact absurd hl (hls l List.mem_cons_self t message)
      | silence => simp [deliver, hl, hrest, tellEach, Reaction.notice?]
      | notice n => simp [deliver, hl, hrest, tellEach, Reaction.notice?]

namespace Circuit

theorem observe_of_isSteady {ls : List Listener} (hls : ∀ l ∈ ls, l.IsSteady) (a : Answer) :
    observe ls a = { result := .ok a.done, notices := a.change.toList.flatMap (tellEach ls) } := by
  unfold observe
  cases a.change with
  | none => rfl
  | some t => simp [deliverAny, deliver_of_isSteady hls]

/-! ## One operation -/

/-- Whether an operation may move the circuit along an edge; it then answers whether it did. -/
def Op.mayMove : Op → Bool
  | .report _ _ | .evaluate _ => true
  | .trip _ _ | .startProbing _ | .reopen _ _ | .recover _ => true
  | .acquireProbe | .releaseProbe | .touch _ | .destroy => false

/-- Whether an operation destroys the circuit. -/
def Op.isDestroy : Op → Bool
  | .destroy => true
  | _ => false

/-- **One operation is faithful** if what it answers and what the listeners hear agrees with what it
    did to the status. -/
structure FaithfulStep (ls : List Listener) (c : Circuit) (op : Op) : Prop where
  /-- The status stays, or the phase goes along one edge, or the circuit is destroyed. -/
  status : (c.step op).1.status = c.status ∨ (c.step op).1.phase ∈ c.phase.next ∨
    op = .destroy ∧ (c.step op).1.phase = .destroyed
  /-- The answer is whether an edge was taken. -/
  result : op.mayMove = true →
    (c.watchedStep ls op).2.result = .ok (decide ((c.step op).1.phase ∈ c.phase.next))
  /-- Operations that ask for no move take no edge, and always answer. -/
  quiet : op.mayMove = false →
    (c.step op).1.phase ∉ c.phase.next ∧ ∃ done, (c.watchedStep ls op).2.result = .ok done
  /-- Every listener hears of an edge once, with the phase before and the status after it. -/
  notices : (c.watchedStep ls op).2.notices =
    if (c.step op).1.phase ∈ c.phase.next then tellEach ls (c.changeTo (c.step op).1) else []

theorem change_step (c : Circuit) (op : Op) :
    (c.step op).2.change =
      if (c.step op).1.phase ∈ c.phase.next then some (c.changeTo (c.step op).1) else none :=
  change_effect (effect_step c op)

/-- An operation that may move the circuit answers whether there was a change. -/
theorem done_step (c : Circuit) {op : Op} (h : op.mayMove = true) :
    (c.step op).2.done = (c.step op).2.change.isSome := by
  cases op <;> first | rfl | cases h

/-- Other operations make no change. -/
theorem change_step_eq_none (c : Circuit) {op : Op} (h : op.mayMove = false) :
    (c.step op).2.change = none := by
  cases op with
  | acquireProbe => simp only [step]; cases c.acquireProbe? <;> rfl
  | releaseProbe => rfl
  | touch now => rfl
  | destroy => rfl
  | _ => cases h

/-- **Every operation is faithful.** -/
theorem faithfulStep {ls : List Listener} (hls : ∀ l ∈ ls, l.IsSteady) (c : Circuit) (op : Op) :
    FaithfulStep ls c op := by
  have hobs : (c.watchedStep ls op).2 =
      { result := .ok (c.step op).2.done,
        notices := (c.step op).2.change.toList.flatMap (tellEach ls) } :=
    observe_of_isSteady hls _
  refine ⟨status_effect (effect_step c op), fun h => ?_, fun h => ⟨?_, ?_⟩, ?_⟩
  · rw [hobs, done_step c h, change_step]
    split <;> rename_i he <;> simp [he]
  · intro he
    have hchange := change_step c op
    rw [if_pos he, change_step_eq_none c h] at hchange
    cases hchange
  · rw [hobs]
    exact ⟨_, rfl⟩
  · rw [hobs, change_step]
    split <;> simp

/-! ## The log of a run -/

/-- The changes among some answers, in order. -/
def log (as : List Answer) : List Transition := as.filterMap Answer.change

/-- A log is a **path** from one status to another if every change goes along an edge from the phase
    where the one before it ended. -/
def IsPath (start : Status) : List Transition → Status → Prop
  | [], final => final = start
  | t :: rest, final =>
      t.prior = start.phase ∧ t.status.phase ∈ t.prior.next ∧ IsPath t.status rest final

theorem log_cons (a : Answer) (as : List Answer) : log (a :: as) = a.change.toList ++ log as := by
  unfold log
  rw [List.filterMap_cons]
  cases a.change <;> rfl

/-- One operation on a circuit that stays in use adds its change to the log. -/
theorem isPath_step {c : Circuit} {op : Op} {rest : List Transition} {final : Status}
    (hop : op.isDestroy = false) (h : IsPath (c.step op).1.status rest final) :
    IsPath c.status ((c.step op).2.change.toList ++ rest) final := by
  rw [change_step]
  by_cases he : (c.step op).1.phase ∈ c.phase.next
  · rw [if_pos he]
    exact ⟨rfl, he, h⟩
  · rw [if_neg he]
    rcases status_effect (effect_step c op) with hs | hs | ⟨hs, _⟩
    · exact hs ▸ h
    · exact absurd hs he
    · subst hs; cases hop

/-- What the listeners leave behind over a run is what they leave behind of its log. -/
theorem notices_watchedRun {ls : List Listener} (hls : ∀ l ∈ ls, l.IsSteady) (c : Circuit)
    (ops : List Op) :
    (c.watchedRun ls ops).2.flatMap Observation.notices =
      (log (c.run ops).2).flatMap (tellEach ls) := by
  rw [watchedRun_snd]
  induction (c.run ops).2 with
  | nil => rfl
  | cons a as ih =>
      rw [List.map_cons, List.flatMap_cons, ih, log_cons, List.flatMap_append,
        observe_of_isSteady hls]

/-! ## Destruction -/

/-- A destroyed circuit stays so, and every operation on it comes to nothing. -/
theorem step_of_destroyed {c : Circuit} (h : c.phase = .destroyed) (op : Op) :
    (c.step op).1.phase = .destroyed ∧ (c.step op).2 = {} := by
  have hnone : (c.step op).1.phase ∉ c.phase.next := by rw [h]; simp [Phase.next]
  have hchange : (c.step op).2.change = none := by rw [change_step, if_neg hnone]
  constructor
  · rcases status_effect (effect_step c op) with hs | hs | ⟨_, hs⟩
    · exact (congrArg Status.phase hs).trans h
    · exact absurd hs hnone
    · exact hs
  · have hdone : (c.step op).2.done = false := by
      cases op with
      | acquireProbe => simp [step, acquireProbe?, h]
      | releaseProbe => rfl
      | touch now => rfl
      | destroy => rfl
      | _ => rw [done_step c rfl, hchange]; rfl
    cases ha : (c.step op).2 with
    | mk done change =>
        rw [ha] at hdone hchange
        cases hdone
        cases hchange
        rfl

/-- **A destroyed circuit is out of use for good.** -/
theorem run_of_destroyed {c : Circuit} (h : c.phase = .destroyed) (ops : List Op) :
    (c.run ops).1.phase = .destroyed ∧ ∀ a ∈ (c.run ops).2, a = {} := by
  induction ops generalizing c with
  | nil => exact ⟨h, fun a ha => by cases ha⟩
  | cons op rest ih =>
      obtain ⟨hp, ha⟩ := step_of_destroyed h op
      obtain ⟨hrest, hall⟩ := ih hp
      refine ⟨hrest, fun a hmem => ?_⟩
      rcases List.mem_cons.mp hmem with rfl | hmem
      · exact ha
      · exact hall a hmem

/-- The operations before the first that destroys the circuit. -/
def live (ops : List Op) : List Op := ops.takeWhile fun op => !op.isDestroy

/-- **The log of a run is a path** from the first status to the last before destruction. -/
theorem isPath_run (c : Circuit) (ops : List Op) :
    IsPath c.status (log (c.run ops).2) (c.run (live ops)).1.status := by
  induction ops generalizing c with
  | nil => rfl
  | cons op rest ih =>
      rw [run_cons, log_cons]
      cases hop : op.isDestroy with
      | false =>
          have hlive : live (op :: rest) = op :: live rest := by simp [live, hop]
          rw [hlive, run_cons]
          exact isPath_step hop (ih (c.step op).1)
      | true =>
          have hlive : live (op :: rest) = [] := by simp [live, hop]
          cases op with
          | destroy =>
              have hdead := (run_of_destroyed (phase_destroy c) rest).2
              have hlog : log (c.destroy.run rest).2 = [] :=
                List.filterMap_eq_nil_iff.mpr fun a ha => by rw [hdead a ha]
              rw [hlive, show (c.step .destroy).1 = c.destroy from rfl, hlog]
              rfl
          | _ => cases hop

section Build

variable {f : Compiler} {s : CircuitSettings} {resource : Resource} {rule : Rule}
  {blocks : List BlockRule} {now : Nat} {cache : PatternCache} {c : Circuit}

/-- **Answers, statuses and notifications agree.** Take a new circuit with steady listeners and any
    operations on it.
    * Every operation is faithful.
    * What the listeners leave behind is what each of them leaves behind of the log, change by change.
      The log is a path from the closed phase to the status before the circuit is destroyed.
    * Once it is destroyed every operation comes to nothing, nobody hears of anything, and others see
      the status of a resource without a circuit. -/
theorem watchedRun_faithful (h : (build? f s resource rule blocks now cache).1 = .ok c)
    {ls : List Listener} (hls : ∀ l ∈ ls, l.IsSteady) (ops : List Op) :
    (∀ pre op post, ops = pre ++ op :: post → FaithfulStep ls (c.run pre).1 op) ∧
    (c.phase = .closed ∧
      (c.watchedRun ls ops).2.flatMap Observation.notices =
        (log (c.run ops).2).flatMap (tellEach ls) ∧
      IsPath c.status (log (c.run ops).2) (c.run (live ops)).1.status) ∧
    (∀ pre post, ops = pre ++ .destroy :: post →
      (∀ seen ∈ ((c.run (pre ++ [.destroy])).1.watchedRun ls post).2,
        seen = { result := .ok false, notices := [] }) ∧
      (c.run ops).1.currentStatus = .untracked) := by
  refine ⟨fun pre op post _ => faithfulStep hls _ op, ⟨?_, notices_watchedRun hls c ops,
    isPath_run c ops⟩, fun pre post hops => ?_⟩
  · obtain ⟨bs, _, rfl⟩ := exists_of_build? h
    rfl
  · have hdead : (c.run (pre ++ [.destroy])).1.phase = .destroyed := by
      rw [run_append]
      exact phase_destroy _
    obtain ⟨hphase, hnothing⟩ := run_of_destroyed hdead post
    constructor
    · intro seen hseen
      rw [watchedRun_snd] at hseen
      obtain ⟨a, ha, rfl⟩ := List.mem_map.mp hseen
      rw [hnothing a ha, observe_of_isSteady hls]
      rfl
    · have hsplit : (c.run ops).1 = ((c.run (pre ++ [.destroy])).1.run post).1 := by
        rw [hops, ← List.singleton_append, ← List.append_assoc, run_append]
      rw [hsplit, currentStatus, isDestroyed, hphase]
      rfl

end Build

/-- A recorder never fails. -/
theorem isSteady_recorder (mark : String) : (Listener.recorder mark).IsSteady := by
  intro t message h
  cases h

/-- The sample circuit tells two recorders of its way to the half-open phase, and then no more. -/
theorem sample_faithful :
    (build? standardCompiler { buckets := 10, probes := 3 } sample.resource sampleRule
      sampleRule.blocks 0 (PatternCache.ofCapacity 16)).1 = .ok sample ∧
    (∀ l ∈ [Listener.recorder "first", Listener.recorder "second"], l.IsSteady) ∧
    (let ops := sampleOps ++ [.destroy, .evaluate 5000]
     (log (sample.run ops).2).map (fun t => (t.prior, t.status.phase)) =
       [(.closed, .opened), (.opened, .halfOpen)] ∧
     IsPath sample.status (log (sample.run ops).2) (sample.run sampleOps).1.status ∧
     (sample.run ops).1.currentStatus = .untracked) := by
  have h : (build? standardCompiler { buckets := 10, probes := 3 } sample.resource sampleRule
      sampleRule.blocks 0 (PatternCache.ofCapacity 16)).1 = .ok sample := rfl
  have hls : ∀ l ∈ [Listener.recorder "first", Listener.recorder "second"], l.IsSteady := by
    simp [isSteady_recorder]
  have faithful := watchedRun_faithful h hls (sampleOps ++ [.destroy, .evaluate 5000])
  exact ⟨h, hls, by decide, faithful.2.1.2.2, (faithful.2.2 sampleOps [.evaluate 5000] rfl).2⟩

end Circuit

end CircuitBreaker

import CircuitBreaker.Circuit
import CircuitBreaker.Proofs.Counting
import CircuitBreaker.Regex.Reader

/-!
# `Proofs.Circuit.Effect` — what one operation can do to a circuit

Ten operations act on a circuit, but there are only a few things that they can do to it: count a call,
free or take a slot, move to another phase along one of four edges, destroy it. `Effect` lists them
once, with the phase in which each can happen, and `effect_step` shows that every operation does one of
them. What holds of every run is then shown by a case for each effect.

The first such fact is the **frame**: `blank`, the circuit as it was built, never changes
(`blank_run`).

## Contents
- `Phase.next`: the edges between phases.
- `Circuit.Effect`, `effect_step`: the effects of one operation.
- `run_append`, `run_invariant`: sequences of operations.
- `Circuit.fresh`, `build?_fst`: the circuit that is built.
- `Circuit.blank`, `blank_run`: what never changes.
-/

namespace CircuitBreaker

/-- The phases that a circuit can go to from a phase, destruction aside. -/
def Phase.next : Phase → List Phase
  | .closed => [.opened]
  | .opened => [.halfOpen]
  | .halfOpen => [.opened, .closed]
  | .destroyed => []

/-- No edge leads from a phase to itself. -/
theorem Phase.not_mem_next_self (p : Phase) : p ∉ p.next := by cases p <;> simp [next]

/-- No edge leads out of use. -/
theorem Phase.destroyed_not_mem_next (p : Phase) : .destroyed ∉ p.next := by cases p <;> simp [next]

namespace Circuit

/-! ## Fields after entering a phase -/

section Enter

variable (c : Circuit) (target : Phase) (reason : String) (now : Nat)

@[simp]
theorem phase_enter : (c.enter target reason now).phase = target := by cases target <;> rfl

@[simp]
theorem rule_enter : (c.enter target reason now).rule = c.rule := by cases target <;> rfl

@[simp]
theorem resource_enter : (c.enter target reason now).resource = c.resource := by cases target <;> rfl

/-- What callers may answer with is known while the circuit is open, and only then. -/
@[simp]
theorem fallback_enter :
    (c.enter target reason now).status.fallback =
      if target = .opened then c.rule.fallback? else none := by
  cases target <;> rfl

/-- Trial calls get a deadline when they are first let through. -/
theorem probeDeadline_enter :
    (c.enter target reason now).probeDeadline =
      if target = .halfOpen then Clock.after now c.rule.recovery.sleepWindow
      else c.probeDeadline := by
  cases target <;> rfl

@[simp]
theorem map_reset_blocks_enter :
    (c.enter target reason now).blocks.map Block.reset = c.blocks.map Block.reset := by
  cases target <;> simp [enter]

@[simp]
theorem reset_probe_enter : (c.enter target reason now).probe.reset = c.probe.reset := by
  cases target <;> rfl

end Enter

@[simp]
theorem phase_touch (c : Circuit) (now : Nat) : (c.touch now).phase = c.phase := rfl

@[simp]
theorem phase_releaseLost (c : Circuit) (now : Nat) : (c.releaseLost now).phase = c.phase := by
  unfold releaseLost
  split <;> rfl

@[simp]
theorem phase_destroy (c : Circuit) : c.destroy.phase = .destroyed := by
  unfold destroy
  split
  · rename_i h
    exact beq_iff_eq.mp h
  · rfl

/-! ## The effects -/

/-- The circuit after an outcome is counted in every block. -/
def counting (c : Circuit) (o : Outcome) (now : Nat) : Circuit :=
  { c.touch now with blocks := c.blocks.map fun b => b.count now o }

/-- The circuit after a trial call gave its slot back, with one success more if it was one. -/
def finishing (c : Circuit) (success : Bool) (now : Nat) : Circuit :=
  { c.touch now with probe := (c.probe.finish success).1 }

/-- The change that listeners are told when a circuit becomes another. -/
def changeTo (c d : Circuit) : Transition :=
  { resource := c.resource, prior := c.phase, status := d.status }

/-- **What an operation can do to a circuit**, and the change of phase that it makes. -/
inductive Effect (c : Circuit) : Op → Circuit → Option Transition → Prop where
  | nothing {op : Op} : Effect c op c none
  | touched {op : Op} (now : Nat) : Effect c op (c.touch now) none
  /-- A closed circuit counts a call, and no block is satisfied. -/
  | counted (o : Outcome) (now : Nat) (hp : c.phase = .closed)
      (hq : ∀ b ∈ c.blocks, (b.record now o).2 = none) :
      Effect c (.report o now) (c.counting o now) none
  /-- A closed circuit counts a call and opens over it. -/
  | tripped (o : Outcome) (reason : String) (now : Nat) (hp : c.phase = .closed) :
      Effect c (.report o now) ((c.counting o now).enter .opened reason now)
        (some (c.changeTo ((c.counting o now).enter .opened reason now)))
  /-- A trial call succeeded, and more successes are needed. -/
  | succeeded (o : Outcome) (now : Nat) (hp : c.phase = .halfOpen)
      (hs : c.probe.successes + 1 < c.probe.needed) :
      Effect c (.report o now) (c.finishing true now) none
  /-- A trial call came back and decided on the circuit. -/
  | concluded (o : Outcome) (success : Bool) (target : Phase) (reason : String) (now : Nat)
      (hp : c.phase = .halfOpen) (he : target ∈ Phase.halfOpen.next) :
      Effect c (.report o now) ((c.finishing success now).enter target reason now)
        (some (c.changeTo ((c.finishing success now).enter target reason now)))
  /-- Lost trial calls were given up. -/
  | gaveUp (now : Nat) (hp : c.phase = .halfOpen) (hd : c.probeDeadline ≤ now) :
      Effect c (.evaluate now)
        { c with
          probe := c.probe.releaseAll
          probeDeadline := Clock.after now c.rule.recovery.sleepWindow } none
  | acquired (probe : Probe) (hp : c.phase = .halfOpen) (ha : c.probe.acquire? = some probe) :
      Effect c .acquireProbe { c with probe } none
  | released : Effect c .releaseProbe c.releaseProbe none
  /-- The circuit changed its phase without counting anything. -/
  | moved {op : Op} (target : Phase) (reason : String) (now : Nat) (he : target ∈ c.phase.next) :
      Effect c op (c.enter target reason now) (some (c.changeTo (c.enter target reason now)))
  | destroyed : Effect c .destroy c.destroy none

variable {c d : Circuit} {op : Op} {t : Option Transition}

/-- A move from the phase that the circuit is in is made. -/
theorem move_of_phase {source : Phase} (target : Phase) (reason : String) (now : Nat)
    (hp : c.phase = source) :
    c.move source target reason now =
      (c.enter target reason now, some (c.changeTo (c.enter target reason now))) := by
  unfold move
  rw [if_pos hp, changeTo, hp]

theorem effect_move {source target : Phase} (reason : String) (now : Nat)
    (he : target ∈ source.next) :
    Effect c op (c.move source target reason now).1 (c.move source target reason now).2 := by
  by_cases hp : c.phase = source
  · rw [move_of_phase target reason now hp]
    subst hp
    exact .moved target reason now he
  · unfold move
    rw [if_neg hp]
    exact .nothing

/-- Recording in every block counts in every block. -/
theorem recordAll_fst (blocks : List Block) (now : Nat) (o : Outcome) :
    (recordAll blocks now o).1 = blocks.map fun b => b.count now o := by
  simp [recordAll]

theorem recordAll_snd_eq_none {blocks : List Block} {now : Nat} {o : Outcome}
    (h : (recordAll blocks now o).2 = none) : ∀ b ∈ blocks, (b.record now o).2 = none := by
  simpa [recordAll, List.findSome?_map, List.findSome?_eq_none_iff] using h

/-! ### Reports -/

variable {o : Outcome} {now : Nat}

/-- A call that satisfies no block is counted. -/
theorem reportClosed_of_quiet (h : (recordAll c.blocks now o).2 = none) :
    (c.touch now).reportClosed o now = (c.counting o now, none) := by
  have hsnd : (recordAll (c.touch now).blocks now o).2 = none := h
  simp only [reportClosed, hsnd, recordAll_fst]
  rfl

/-- A call that satisfies a block is counted, and opens the circuit. -/
theorem reportClosed_of_satisfied {reason : String} (hp : c.phase = .closed)
    (h : (recordAll c.blocks now o).2 = some reason) :
    (c.touch now).reportClosed o now =
      ((c.counting o now).enter .opened reason now,
        some (c.changeTo ((c.counting o now).enter .opened reason now))) := by
  have hsnd : (recordAll (c.touch now).blocks now o).2 = some reason := h
  have htrip : (c.touch now).reportClosed o now = (c.counting o now).trip reason now := by
    simp only [reportClosed, hsnd, recordAll_fst]
    rfl
  rw [htrip, trip, move_of_phase .opened reason now (show (c.counting o now).phase = .closed from hp)]
  rfl

theorem effect_reportClosed (o : Outcome) (now : Nat) (hp : c.phase = .closed) :
    Effect c (.report o now) ((c.touch now).reportClosed o now).1
      ((c.touch now).reportClosed o now).2 := by
  cases hr : (recordAll c.blocks now o).2 with
  | none =>
      rw [reportClosed_of_quiet hr]
      exact .counted o now hp (recordAll_snd_eq_none hr)
  | some reason =>
      rw [reportClosed_of_satisfied hp hr]
      exact .tripped o reason now hp

/-- A trial call that fails in some block opens the circuit again. -/
theorem reportProbe_of_failure {b : Block} (hp : c.phase = .halfOpen)
    (hf : (c.blocks.find? fun b => b.isProbeFailure o) = some b) :
    (c.touch now).reportProbe o now =
      ((c.finishing false now).enter .opened (probeFailureText b.name o) now,
        some (c.changeTo
          ((c.finishing false now).enter .opened (probeFailureText b.name o) now))) := by
  have hreopen : (c.touch now).reportProbe o now =
      (c.finishing false now).reopen (probeFailureText b.name o) now := by
    simp [reportProbe, touch, hf, Probe.finish, finishing]
  rw [hreopen, reopen,
    move_of_phase .opened _ now (show (c.finishing false now).phase = .halfOpen from hp)]
  rfl

/-- A trial call that is the last success needed closes the circuit. -/
theorem reportProbe_of_last (now : Nat) (hp : c.phase = .halfOpen)
    (hf : (c.blocks.find? fun b => b.isProbeFailure o) = none)
    (hn : c.probe.needed ≤ c.probe.successes + 1) :
    ∃ reason, (c.touch now).reportProbe o now =
      ((c.finishing true now).enter .closed reason now,
        some (c.changeTo ((c.finishing true now).enter .closed reason now))) := by
  have hrecover : (c.touch now).reportProbe o now = (c.finishing true now).recover now := by
    simp [reportProbe, touch, hf, Probe.finish, Probe.release, hn, finishing]
  rw [hrecover, recover,
    move_of_phase .closed _ now (show (c.finishing true now).phase = .halfOpen from hp)]
  exact ⟨_, rfl⟩

/-- Any other trial call that succeeds is noted. -/
theorem reportProbe_of_pending (hf : (c.blocks.find? fun b => b.isProbeFailure o) = none)
    (hn : c.probe.successes + 1 < c.probe.needed) :
    (c.touch now).reportProbe o now = (c.finishing true now, none) := by
  have hmore : ¬c.probe.needed ≤ c.probe.successes + 1 := Nat.not_le_of_lt hn
  simp [reportProbe, touch, hf, Probe.finish, Probe.release, hmore, finishing]

theorem effect_reportProbe (o : Outcome) (now : Nat) (hp : c.phase = .halfOpen) :
    Effect c (.report o now) ((c.touch now).reportProbe o now).1
      ((c.touch now).reportProbe o now).2 := by
  -- a failure in any block decides at once, a success only if it is the last that is needed
  cases hf : c.blocks.find? fun b => b.isProbeFailure o with
  | some b =>
      rw [reportProbe_of_failure hp hf]
      exact .concluded o false .opened _ now hp (by simp [Phase.next])
  | none =>
      by_cases hn : c.probe.needed ≤ c.probe.successes + 1
      · obtain ⟨reason, hlast⟩ := reportProbe_of_last now hp hf hn
        rw [hlast]
        exact .concluded o true .closed reason now hp (by simp [Phase.next])
      · rw [reportProbe_of_pending hf (by omega)]
        exact .succeeded o now hp (by omega)

theorem effect_report (o : Outcome) (now : Nat) :
    Effect c (.report o now) (c.report o now).1 (c.report o now).2 := by
  unfold report
  split
  · exact .nothing
  · simp only [phase_touch]
    cases hp : c.phase with
    | closed => exact effect_reportClosed o now hp
    | halfOpen => exact effect_reportProbe o now hp
    | opened => exact .touched now
    | destroyed => exact .touched now

theorem effect_evaluate (now : Nat) :
    Effect c (.evaluate now) (c.evaluate now).1 (c.evaluate now).2 := by
  unfold evaluate
  cases hp : c.phase with
  | closed =>
      cases c.check now with
      | none => exact .nothing
      | some reason => exact effect_move reason now (by simp [Phase.next])
  | opened =>
      cases c.hasSlept now with
      | false => exact .nothing
      | true => exact effect_move _ now (by simp [Phase.next])
  | halfOpen =>
      by_cases hl : c.probeDeadline ≤ now ∧ 0 < c.probe.inFlight
      · simp only [releaseLost, if_pos hl]
        exact .gaveUp now hp hl.1
      · simp only [releaseLost, if_neg hl]
        exact .nothing
  | destroyed => exact .nothing

theorem effect_acquireProbe? (h : c.acquireProbe? = some d) : Effect c .acquireProbe d none := by
  unfold acquireProbe? at h
  split at h
  · rename_i hp
    obtain ⟨probe, ha, rfl⟩ := Option.map_eq_some_iff.mp h
    exact .acquired probe hp ha
  · cases h

/-- **Every operation has one of the effects.** -/
theorem effect_step (c : Circuit) (op : Op) :
    Effect c op (c.step op).1 (c.step op).2.change := by
  cases op with
  | report o now => exact effect_report o now
  | evaluate now => exact effect_evaluate now
  | acquireProbe =>
      simp only [step]
      cases h : c.acquireProbe? with
      | none => exact .nothing
      | some d => exact effect_acquireProbe? h
  | releaseProbe => exact .released
  | touch now => exact .touched now
  | destroy => exact .destroyed
  | trip reason now => exact effect_move reason now (by simp [Phase.next])
  | startProbing now => exact effect_move _ now (by simp [Phase.next])
  | reopen reason now => exact effect_move reason now (by simp [Phase.next])
  | recover now => exact effect_move _ now (by simp [Phase.next])

/-! ## What an effect tells -/

/-- **A change is told exactly when an edge is taken**, with the phase before it and the status after
    it. -/
theorem change_effect (h : Effect c op d t) :
    t = if d.phase ∈ c.phase.next then some (c.changeTo d) else none := by
  -- most effects stay in the phase, and no edge leads from a phase to itself
  have stay {e : Circuit} (he : e.phase = c.phase) :
      none = if e.phase ∈ c.phase.next then some (c.changeTo e) else none := by
    rw [if_neg (he ▸ Phase.not_mem_next_self c.phase)]
  cases h with
  | nothing => exact stay rfl
  | touched now => exact stay rfl
  | counted o now hp hq => exact stay rfl
  | tripped o reason now hp => rw [phase_enter, hp, if_pos (by simp [Phase.next])]
  | succeeded o now hp hs => exact stay rfl
  | concluded o success target reason now hp he => rw [phase_enter, hp, if_pos he]
  | gaveUp now hp hd => exact stay rfl
  | acquired probe hp ha => exact stay rfl
  | released => exact stay rfl
  | moved target reason now he => rw [phase_enter, if_pos he]
  | destroyed => rw [phase_destroy, if_neg (Phase.destroyed_not_mem_next _)]

/-- **A status changes along an edge or by destruction**, and in no other way. -/
theorem status_effect (h : Effect c op d t) :
    d.status = c.status ∨ d.phase ∈ c.phase.next ∨ op = .destroy ∧ d.phase = .destroyed := by
  cases h with
  | nothing => exact Or.inl rfl
  | touched now => exact Or.inl rfl
  | counted o now hp hq => exact Or.inl rfl
  | tripped o reason now hp => exact Or.inr (Or.inl (by simp [hp, Phase.next]))
  | succeeded o now hp hs => exact Or.inl rfl
  | concluded o success target reason now hp he => exact Or.inr (Or.inl (by rwa [phase_enter, hp]))
  | gaveUp now hp hd => exact Or.inl rfl
  | acquired probe hp ha => exact Or.inl rfl
  | released => exact Or.inl rfl
  | moved target reason now he => exact Or.inr (Or.inl (by rwa [phase_enter]))
  | destroyed => exact Or.inr (Or.inr ⟨rfl, phase_destroy c⟩)

/-! ## Sequences of operations -/

@[simp]
theorem run_nil (c : Circuit) : c.run [] = (c, []) := rfl

theorem run_cons (c : Circuit) (op : Op) (ops : List Op) :
    c.run (op :: ops) =
      (((c.step op).1.run ops).1, (c.step op).2 :: ((c.step op).1.run ops).2) := rfl

/-- A run may be cut in two. -/
theorem run_append (c : Circuit) (ops more : List Op) :
    c.run (ops ++ more) =
      (((c.run ops).1.run more).1, (c.run ops).2 ++ ((c.run ops).1.run more).2) := by
  induction ops generalizing c with
  | nil => rfl
  | cons op rest ih => simp only [List.cons_append, run_cons, ih]

/-- **What every effect keeps holds after every run.** -/
theorem run_invariant {P : Circuit → Prop} (hP : ∀ {c op d t}, Effect c op d t → P c → P d) (h : P c)
    (ops : List Op) : P (c.run ops).1 := by
  induction ops generalizing c with
  | nil => exact h
  | cons op rest ih => exact ih (hP (effect_step c op) h)

/-! ## The circuit that is built -/

/-- A new circuit guarded by some blocks. -/
def fresh (s : CircuitSettings) (resource : Resource) (rule : Rule) (now : Nat)
    (blocks : List Block) : Circuit where
  resource
  rule
  blocks
  probe := {
    bound := rule.recovery.probes.getD s.probes
    needed := rule.recovery.successes }
  status := { rule := rule.name, phase := .closed, since := now }
  lastAccess := now

section Build

variable {f : Compiler} {s : CircuitSettings} {resource : Resource} {rule : Rule}
  {blocks : List BlockRule} {now : Nat} {cache : PatternCache}

/-- Building a circuit is building its blocks. -/
theorem build?_fst :
    (build? f s resource rule blocks now cache).1 =
      (Block.buildAll? f s.buckets blocks cache).1.map (fresh s resource rule now) := by
  unfold build?
  split <;> rename_i h <;> rw [h] <;> rfl

/-- What is known of a circuit that was built. -/
theorem exists_of_build? (h : (build? f s resource rule blocks now cache).1 = .ok c) :
    ∃ bs, (Block.buildAll? f s.buckets blocks cache).1 = .ok bs ∧
      c = fresh s resource rule now bs := by
  rw [build?_fst] at h
  obtain ⟨bs, hbs, rfl⟩ := exists_of_map_ok h
  exact ⟨bs, hbs, rfl⟩

theorem rule_of_build? (h : (build? f s resource rule blocks now cache).1 = .ok c) :
    c.rule = rule := by
  obtain ⟨_, _, rfl⟩ := exists_of_build? h
  rfl

/-- **Block rules that pass their checks give a circuit.** -/
theorem exists_build? {g : Compiler} (hbuckets : s.buckets ≠ 0)
    (hblocks : ∀ b ∈ blocks, b.check g = .ok ()) :
    ∃ c, (build? f s resource rule blocks now cache).1 = .ok c := by
  obtain ⟨bs, hbs⟩ := Block.buildAll?_eq_ok f hbuckets hblocks cache
  rw [build?_fst, hbs]
  exact ⟨fresh s resource rule now bs, rfl⟩

end Build

/-- A rule that opens a circuit after two errors in a row and lets one trial call through at a time. -/
def sampleRule : Rule where
  name := "errors"
  blocks := [{ name := "failure", triggers := [.consecutiveError 2] }]
  recovery := { sleepWindow := 1000, successes := 1, probes := some 1 }
  fallback := some { enabled := true, response := { code := 503 } }

/-- A circuit built from `sampleRule`. -/
def sample : Circuit :=
  fresh { buckets := 10, probes := 3 } (.service { realm := "default", name := "echo" }) sampleRule 0
    [{ name := "failure", tests := [], triggers := [.streak 2 0] }]

/-- An outcome with a verdict, for `sample`. -/
def sampleOutcome (verdict : Verdict) : Outcome := { resource := sample.resource, verdict }

/-- Two failures open `sample`; after the sleep window a trial call takes the only slot. -/
def sampleOps : List Op :=
  [.report (sampleOutcome .fail) 5, .report (sampleOutcome .fail) 3, .evaluate 1003, .acquireProbe]

/-! ## What never changes -/

/-- The circuit as it was built, times aside: its resource, its rule, its blocks and its limits, with
    nothing counted. -/
def blank (c : Circuit) : Circuit where
  resource := c.resource
  rule := c.rule
  blocks := c.blocks.map Block.reset
  probe := c.probe.reset
  status := { rule := c.rule.name, phase := .closed, since := 0 }
  lastAccess := 0

theorem blank_eq_iff {c d : Circuit} :
    c.blank = d.blank ↔ c.resource = d.resource ∧ c.rule = d.rule ∧
      c.blocks.map Block.reset = d.blocks.map Block.reset ∧ c.probe.reset = d.probe.reset := by
  constructor
  · intro h
    injection h with hr hu hb hp
    exact ⟨hr, hu, hb, hp⟩
  · rintro ⟨hr, hu, hb, hp⟩
    unfold blank
    rw [hr, hu, hb, hp]

@[simp]
theorem blank_enter (c : Circuit) (target : Phase) (reason : String) (now : Nat) :
    (c.enter target reason now).blank = c.blank := by
  simp [blank_eq_iff]

@[simp]
theorem blank_counting (c : Circuit) (o : Outcome) (now : Nat) :
    (c.counting o now).blank = c.blank := by
  simp [blank_eq_iff, counting, touch, Function.comp_def]

@[simp]
theorem blank_finishing (c : Circuit) (success : Bool) (now : Nat) :
    (c.finishing success now).blank = c.blank := by
  cases success <;> rfl

/-- **The frame.** No effect touches the resource, the rule, the blocks or the limits. -/
theorem blank_effect (h : Effect c op d t) : d.blank = c.blank := by
  cases h with
  | nothing => rfl
  | touched now => rfl
  | counted o now hp hq => exact blank_counting c o now
  | tripped o reason now hp => rw [blank_enter, blank_counting]
  | succeeded o now hp hs => exact blank_finishing c true now
  | concluded o success target reason now hp he => rw [blank_enter, blank_finishing]
  | gaveUp now hp hd => rfl
  | acquired probe hp ha =>
      unfold Probe.acquire? at ha
      split at ha
      · cases ha; rfl
      · cases ha
  | released => rfl
  | moved target reason now he => exact blank_enter c target reason now
  | destroyed => unfold destroy; split <;> rfl

/-- A change of phase enters the phase, from a circuit of the same frame. -/
theorem entered_of_effect {u : Transition} (h : Effect c op d (some u)) :
    ∃ (e : Circuit) (reason : String) (now : Nat),
      e.blank = c.blank ∧ d = e.enter u.status.phase reason now := by
  have same (e : Circuit) (target : Phase) (reason : String) (now : Nat) :
      e.enter target reason now =
        e.enter (c.changeTo (e.enter target reason now)).status.phase reason now :=
    congrArg (enter e · reason now) (phase_enter e target reason now).symm
  cases h with
  | tripped o reason now hp =>
      exact ⟨c.counting o now, reason, now, blank_counting c o now, same _ _ _ _⟩
  | concluded o success target reason now hp he =>
      exact ⟨c.finishing success now, reason, now, blank_finishing c success now, same _ _ _ _⟩
  | moved target reason now he => exact ⟨c, reason, now, rfl, same _ _ _ _⟩

@[simp]
theorem blank_run (c : Circuit) (ops : List Op) : (c.run ops).1.blank = c.blank :=
  run_invariant (P := fun d => d.blank = c.blank) (fun he h => (blank_effect he).trans h) rfl ops

/-- No operation on a circuit makes it one for another resource. -/
theorem resource_run (c : Circuit) (ops : List Op) : (c.run ops).1.resource = c.resource :=
  (blank_eq_iff.mp (blank_run c ops)).1

/-- No operation on a circuit changes its rule. -/
theorem rule_run (c : Circuit) (ops : List Op) : (c.run ops).1.rule = c.rule :=
  (blank_eq_iff.mp (blank_run c ops)).2.1

end Circuit

end CircuitBreaker

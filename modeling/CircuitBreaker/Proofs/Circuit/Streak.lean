import CircuitBreaker.Proofs.Circuit.Invariant
import CircuitBreaker.Proofs.Circuit.Stay

/-!
# `Proofs.Circuit.Streak` — when errors in a row open a circuit

A circuit whose triggers all look at errors in a row forgets everything but the errors at the end of what
it was told. Each block has its own view of what an error is, and so a streak of its own.

The whole development rests on one closed form. Over a stay in the closed phase the blocks are those that
the circuit was built with, each at the streak that the calls of the stay end with
(`streaks_of_stays_closed`). Nothing is left of what came before the stay, since a circuit clears its
blocks when it closes, and nothing is counted in another phase, since such a report is not part of the
stay. What the next report does is then read off (`record_atStreak_ne_none_iff`), and so is what the
passing of time does, which is nothing: a streak that is long enough has opened the circuit already.

## Contents
- `Block.errorsInRow`: the streak at the end of some calls.
- `Block.atStreak`: a block that counted a streak; `countAll_eq_atStreak`,
  `record_atStreak_ne_none_iff`.
- `streaks_of_stays_closed`: what a closed circuit has counted.
-/

namespace CircuitBreaker

/-! ## Blocks that count streaks -/

namespace Trigger

/-- A trigger looks at errors in a row. -/
def IsStreak (t : Trigger) : Prop := ∃ limit, t.condition = .consecutiveError limit

/-- A trigger for errors in a row after so many of them. Other triggers stay as they are. -/
def atStreak (errors : Nat) : Trigger → Trigger
  | streak limit _ => streak limit errors
  | errorRate l w => errorRate l w
  | slowRate n l w => slowRate n l w

variable {t : Trigger} {limit : Nat}

theorem exists_eq_streak (h : t.condition = .consecutiveError limit) :
    ∃ errors, t = streak limit errors := by
  cases t with
  | streak limit errors =>
      cases h
      exact ⟨errors, rfl⟩
  | errorRate l w => cases h
  | slowRate n l w => cases h

/-- Clearing a trigger does not change what it looks at. -/
theorem isStreak_reset : t.reset.IsStreak ↔ t.IsStreak := by
  unfold IsStreak
  rw [condition_reset]

end Trigger

namespace Block

/-- All triggers of a block look at errors in a row. -/
def OnlyStreaks (b : Block) : Prop := ∀ t ∈ b.triggers, t.IsStreak

/-- A block after so many errors in a row. -/
def atStreak (b : Block) (errors : Nat) : Block :=
  { b with triggers := b.triggers.map (Trigger.atStreak errors) }

/-- **The errors that some calls end with**, in the view of a block. -/
def errorsInRow (b : Block) (calls : List (Outcome × Nat)) : Nat :=
  (calls.reverse.takeWhile fun call => b.isError call.1).length

variable {b : Block} {o : Outcome} {now : Nat}

@[simp]
theorem errorsInRow_nil : b.errorsInRow [] = 0 := rfl

/-- One more error makes the streak longer, and any other call ends it. -/
theorem errorsInRow_snoc (calls : List (Outcome × Nat)) (call : Outcome × Nat) :
    b.errorsInRow (calls ++ [call]) = if b.isError call.1 then b.errorsInRow calls + 1 else 0 := by
  unfold errorsInRow
  rw [List.reverse_append, List.reverse_singleton, List.singleton_append, List.takeWhile_cons]
  split <;> rfl

theorem onlyStreaks_reset : b.reset.OnlyStreaks ↔ b.OnlyStreaks := by
  unfold OnlyStreaks reset
  simp only [List.forall_mem_map, Trigger.isStreak_reset]

/-- A clear block is at a streak of no errors. -/
theorem atStreak_zero (hb : b.OnlyStreaks) (hclear : b.reset = b) : b.atStreak 0 = b := by
  have htriggers : b.triggers.map (Trigger.atStreak 0) = b.triggers.map Trigger.reset := by
    apply List.map_congr_left
    intro t ht
    obtain ⟨limit, hcondition⟩ := hb t ht
    obtain ⟨errors, rfl⟩ := Trigger.exists_eq_streak hcondition
    rfl
  have hreset : b.atStreak 0 = b.reset := by
    unfold atStreak reset
    rw [htriggers]
  rw [hreset, hclear]

/-- **Counting a call goes on with the streak or ends it.** -/
theorem count_atStreak (hb : b.OnlyStreaks) (errors : Nat) :
    (b.atStreak errors).count now o = b.atStreak (if b.isError o then errors + 1 else 0) := by
  have hview : (b.atStreak errors).isError o = b.isError o := rfl
  have htriggers : (b.triggers.map (Trigger.atStreak errors)).map
      (fun t => t.count now (b.isError o) o.delay) =
      b.triggers.map (Trigger.atStreak (if b.isError o then errors + 1 else 0)) := by
    rw [List.map_map]
    apply List.map_congr_left
    intro t ht
    obtain ⟨limit, hcondition⟩ := hb t ht
    obtain ⟨before, rfl⟩ := Trigger.exists_eq_streak hcondition
    rfl
  unfold count
  rw [hview]
  unfold atStreak
  rw [htriggers]

/-- **A clear block that counts calls is at the streak that they end with.** -/
theorem countAll_eq_atStreak (hb : b.OnlyStreaks) (hclear : b.reset = b)
    (calls : List (Outcome × Nat)) : b.countAll calls = b.atStreak (b.errorsInRow calls) := by
  induction calls using List.reverseRecOn with
  | nil => exact (atStreak_zero hb hclear).symm
  | append_singleton calls call ih =>
      rw [countAll_append, ih, errorsInRow_snoc]
      exact count_atStreak hb _

/-- **A call satisfies a block if it is an error that makes the streak as long as some limit.** -/
theorem record_atStreak_ne_none_iff (hb : b.OnlyStreaks) (errors : Nat) :
    ((b.atStreak errors).record now o).2 ≠ none ↔
      b.isError o = true ∧ ∃ t ∈ b.triggers, ∃ limit, t.condition = .consecutiveError limit ∧
        limit ≤ errors + 1 := by
  have htrigger (t : Trigger) (ht : t ∈ b.triggers) :
      ((t.atStreak errors).record now (b.isError o) o.delay).2 ≠ none ↔
        b.isError o = true ∧
          ∃ limit, t.condition = .consecutiveError limit ∧ limit ≤ errors + 1 := by
    obtain ⟨limit, hcondition⟩ := hb t ht
    obtain ⟨before, rfl⟩ := Trigger.exists_eq_streak hcondition
    cases hview : b.isError o with
    | false => simp [Trigger.atStreak, Trigger.record, Trigger.count, Trigger.heeds]
    | true =>
        simp [Trigger.atStreak, Trigger.record, Trigger.count, Trigger.heeds, Trigger.check,
          Trigger.condition]
  have hrecord : ((b.atStreak errors).record now o).2 ≠ none ↔
      ∃ t ∈ b.triggers, ((t.atStreak errors).record now (b.isError o) o.delay).2 ≠ none := by
    simp [record, atStreak, isError, List.findSome?_map, List.findSome?_eq_none_iff]
  rw [hrecord]
  constructor
  · rintro ⟨t, ht, hfound⟩
    obtain ⟨hview, limit, hlimit⟩ := (htrigger t ht).mp hfound
    exact ⟨hview, t, ht, limit, hlimit⟩
  · rintro ⟨hview, t, ht, limit, hlimit⟩
    exact ⟨t, ht, (htrigger t ht).mpr ⟨hview, limit, hlimit⟩⟩

/-- Short streaks satisfy no trigger, at whatever time. -/
theorem check_of_isShort (hb : b.OnlyStreaks) (hshort : b.IsShort) : b.check now = none := by
  unfold check
  rw [Option.map_eq_none_iff, List.findSome?_eq_none_iff]
  intro t ht
  obtain ⟨limit, hcondition⟩ := hb t ht
  obtain ⟨errors, rfl⟩ := Trigger.exists_eq_streak hcondition
  exact if_neg (Nat.not_le_of_lt (hshort _ ht))

/-- Blocks for block rules that ask for errors in a row look at nothing else. -/
theorem onlyStreaks_buildAll? {f : Compiler} {buckets : Nat} {rs : List BlockRule} {bs : List Block}
    {cache : PatternCache}
    (hrs : ∀ r ∈ rs, ∀ cond ∈ r.triggers, ∃ limit, cond = .consecutiveError limit)
    (h : (buildAll? f buckets rs cache).1 = .ok bs) : ∀ b ∈ bs, b.OnlyStreaks := by
  intro b hb t ht
  obtain ⟨r, hr, _, hbuilt⟩ := mem_buildAll? h hb
  obtain ⟨cond, hcond, hmade⟩ := mem_triggersOf? (triggersOf?_of_build? hbuilt) ht
  obtain ⟨limit, rfl⟩ := hrs r hr cond hcond
  cases hmade
  exact ⟨limit, rfl⟩

end Block

namespace Circuit

variable {c d : Circuit} {op : Op} {ops : List Op} {o : Outcome} {now : Nat}

/-! ## What a closed circuit has counted -/

/-- What the blocks look at never changes. -/
theorem onlyStreaks_congr (h : d.blank = c.blank) (hc : ∀ b ∈ c.blocks, b.OnlyStreaks) :
    ∀ b ∈ d.blocks, b.OnlyStreaks := by
  obtain ⟨_, _, hblocks, _⟩ := blank_eq_iff.mp h
  have hreset : ∀ b ∈ d.blocks.map Block.reset, b.OnlyStreaks := by
    rw [hblocks]
    intro b hb
    obtain ⟨b', hb', rfl⟩ := List.mem_map.mp hb
    exact Block.onlyStreaks_reset.mpr (hc b' hb')
  intro b hb
  exact Block.onlyStreaks_reset.mp (hreset b.reset (List.mem_map_of_mem hb))

/-- Over a stay in the closed phase, every block comes to the streak that the calls end with. -/
theorem streaks_of_stays_closed (hb : ∀ b ∈ c.blocks, b.OnlyStreaks)
    (hclear : ∀ b ∈ c.blocks, b.reset = b) (h : c.Stays .closed ops) :
    (c.run ops).1.blocks = c.blocks.map fun b => b.atStreak (b.errorsInRow (calls ops)) := by
  rw [blocks_of_stays_closed h]
  refine List.map_congr_left fun b hmem => ?_
  exact Block.countAll_eq_atStreak (hb b hmem) (hclear b hmem) _

/-- While a circuit stays closed, no block comes to a streak that is as long as one of its limits. -/
theorem errorsInRow_lt_of_stays_closed (hb : ∀ b ∈ c.blocks, b.OnlyStreaks)
    (hclear : ∀ b ∈ c.blocks, b.reset = b) (hc : (c.run ops).1.Consistent)
    (h : c.Stays .closed ops) {b : Block} (hmem : b ∈ c.blocks) {t : Trigger} (ht : t ∈ b.triggers)
    {limit : Nat} (hcondition : t.condition = .consecutiveError limit) :
    b.errorsInRow (calls ops) < limit := by
  obtain ⟨errors, rfl⟩ := Trigger.exists_eq_streak hcondition
  have hshort := (hc.closed h.phase).2.2
  rw [streaks_of_stays_closed hb hclear h] at hshort
  exact hshort _ (List.mem_map_of_mem hmem) (.streak limit (b.errorsInRow (calls ops)))
    (List.mem_map_of_mem ht)

/-- **A call opens a circuit that stayed closed if it is an error that makes the streak as long as some
    limit.** -/
theorem phase_report_of_stays_closed (hb : ∀ b ∈ c.blocks, b.OnlyStreaks)
    (hclear : ∀ b ∈ c.blocks, b.reset = b) (hc : (c.run ops).1.Consistent)
    (h : c.Stays .closed ops) :
    ((c.run ops).1.step (.report o now)).1.phase = .opened ↔
      ∃ b ∈ c.blocks, ∃ t ∈ b.triggers, ∃ limit, t.condition = .consecutiveError limit ∧
        b.isError o = true ∧ limit ≤ b.errorsInRow (calls (ops ++ [.report o now])) := by
  rw [calls_snoc]
  by_cases hreject : o.verdict = .reject
  · -- a call that was never sent opens nothing, and the streaks so far are all below their limits
    rw [step_of_reject hreject, h.phase, call?_of_reject hreject, Option.toList_none, List.append_nil]
    constructor
    · intro hopen
      cases hopen
    · rintro ⟨b, hmem, t, ht, limit, hcondition, _, hreached⟩
      have hbelow := errorsInRow_lt_of_stays_closed hb hclear hc h hmem ht hcondition
      exact absurd hreached (Nat.not_le_of_lt hbelow)
  · rw [phase_report_of_closed h.phase hreject, streaks_of_stays_closed hb hclear h,
      call?_of_sent hreject, Option.toList_some]
    constructor
    · rintro ⟨_, hcounted, hfound⟩
      obtain ⟨b, hmem, rfl⟩ := List.mem_map.mp hcounted
      obtain ⟨hview, t, ht, limit, hcondition, hreached⟩ :=
        (Block.record_atStreak_ne_none_iff (hb b hmem) _).mp hfound
      refine ⟨b, hmem, t, ht, limit, hcondition, hview, ?_⟩
      rw [Block.errorsInRow_snoc, if_pos hview]
      exact hreached
    · rintro ⟨b, hmem, t, ht, limit, hcondition, hview, hreached⟩
      rw [Block.errorsInRow_snoc, if_pos hview] at hreached
      refine ⟨_, List.mem_map_of_mem hmem, ?_⟩
      apply (Block.record_atStreak_ne_none_iff (hb b hmem) _).mpr
      exact ⟨hview, t, ht, limit, hcondition, hreached⟩

/-- **Time alone never opens a circuit that only looks at errors in a row.** -/
theorem evaluate_of_short (hb : ∀ b ∈ c.blocks, b.OnlyStreaks) (hc : c.Consistent)
    (h : (c.evaluate now).1.phase = .opened) : c.evaluate now = (c, none) := by
  unfold evaluate at h ⊢
  cases hp : c.phase with
  | closed =>
      -- a streak as long as its limit would have opened the circuit when it was reported
      have hquiet : c.check now = none := by
        unfold check
        rw [List.findSome?_eq_none_iff]
        intro b hmem
        exact Block.check_of_isShort (hb b hmem) ((hc.closed hp).2.2 b hmem)
      simp only [hquiet]
  | opened =>
      simp only [hp] at h ⊢
      split
      · rename_i hslept
        rw [if_pos hslept, startProbing, move_of_phase .halfOpen _ now hp, phase_enter] at h
        cases h
      · rfl
  | halfOpen =>
      simp only [hp, phase_releaseLost] at h
      cases h
  | destroyed => rfl

section Build

variable {f : Compiler} {s : CircuitSettings} {resource : Resource} {rule : Rule}
  {blocks : List BlockRule} {start : Nat} {cache : PatternCache}

/-- **When errors in a row open a circuit.** Take a valid rule, block rules of it that ask for nothing but
    errors in a row, and any operations at any times.
    * If the circuit is closed after them, they end with a stay in the closed phase.
    * A call reported in such a stay opens the circuit exactly if, for some block and one of its
      triggers, the call is an error of the block and the errors in a row, over the calls reported in
      the stay, reach the limit of the trigger.
    * The passing of time never opens the circuit. -/
theorem streak_opens {g : Compiler} (hv : rule.isValid g = true) (hb : blocks ⊆ rule.blocks)
    (hstreaks : ∀ b ∈ blocks, ∀ cond ∈ b.triggers, ∃ limit, cond = .consecutiveError limit)
    (h : (build? f s resource rule blocks start cache).1 = .ok c) :
    (∀ ops, (c.run ops).1.phase = .closed →
      ∃ pre mid, ops = pre ++ mid ∧ c.Arrives .closed pre ∧ (c.run pre).1.Stays .closed mid) ∧
    (∀ pre mid o now, c.Arrives .closed pre → (c.run pre).1.Stays .closed mid →
      ((c.run (pre ++ mid ++ [.report o now])).1.phase = .opened ↔
        ∃ b ∈ c.blocks, ∃ t ∈ b.triggers, ∃ limit, t.condition = .consecutiveError limit ∧
          b.isError o = true ∧ limit ≤ b.errorsInRow (calls (mid ++ [.report o now])))) ∧
    (∀ ops now, ((c.run ops).1.evaluate now).1.phase = .opened →
      (c.run ops).1.evaluate now = ((c.run ops).1, none)) := by
  have hw : c.Workable := workable_of_build? hv hb h
  have hconsistent (ops : List Op) : (c.run ops).1.Consistent :=
    consistent_run hw (consistent_of_build? hw h) ops
  have hclear : ∀ b ∈ c.blocks, b.reset = b := by
    obtain ⟨bs, hbs, rfl⟩ := exists_of_build? h
    exact fun b hmem => Block.reset_of_mem_buildAll? hbs hmem
  have honly : ∀ b ∈ c.blocks, b.OnlyStreaks := by
    obtain ⟨bs, hbs, rfl⟩ := exists_of_build? h
    exact Block.onlyStreaks_buildAll? hstreaks hbs
  refine ⟨fun ops hclosed => exists_stay hclosed, ?_, ?_⟩
  · intro pre mid o now hpre hmid
    -- at the start of the stay, the blocks are as they were built
    have hfirst : (c.run pre).1.blocks = c.blocks := blocks_of_arrives_closed h hpre
    have hlast : ((c.run pre).1.run mid).1.Consistent := by
      have hall := hconsistent (pre ++ mid)
      rwa [run_append] at hall
    rw [run_snoc, run_append, ← hfirst]
    exact phase_report_of_stays_closed (hfirst ▸ honly) (hfirst ▸ hclear) hlast hmid
  · intro ops now hopen
    exact evaluate_of_short (onlyStreaks_congr (blank_run c ops) honly) (hconsistent ops) hopen

end Build

/-- A rule with two views of an error: a call that fails, two in a row, and a call that takes too long,
    three in a row. -/
def twoViewRule : Rule :=
  { sampleRule with
    blocks := [
      { name := "failure", triggers := [.consecutiveError 2] },
      { name := "delay", triggers := [.consecutiveError 3], errors := [.delay 100] }] }

/-- A circuit built from `twoViewRule`. -/
def twoView : Circuit :=
  fresh { buckets := 10, probes := 3 } sample.resource twoViewRule 0
    [{ name := "failure", tests := [], triggers := [.streak 2 0] },
     { name := "delay", tests := [.delay 100], triggers := [.streak 3 0] }]

/-- An outcome with a verdict that took its time. -/
def slowOutcome (verdict : Verdict) : Outcome := { sampleOutcome verdict with delay := 200 }

/-- The circuit opens over two failures, one of them slow, and closes after a trial call. -/
def roundTrip : List Op :=
  [.report (slowOutcome .fail) 5, .report (sampleOutcome .fail) 3, .evaluate 1003, .acquireProbe,
    .report (sampleOutcome .success) 1004]

/-- Two slow calls of which one failed, and one that was never sent between them. -/
def twoSlow : List Op :=
  [.report (slowOutcome .fail) 1005, .report (sampleOutcome .reject) 1006, .evaluate 1006,
    .report (slowOutcome .success) 9]

/-- After a round trip through all phases and two slow calls, a third opens the circuit, although it
    succeeds, and a quick failure does not. -/
theorem twoView_streak_opens :
    twoViewRule.isValid standardCompiler = true ∧
    (∀ b ∈ twoViewRule.blocks, ∀ cond ∈ b.triggers, ∃ limit, cond = .consecutiveError limit) ∧
    (build? standardCompiler { buckets := 10, probes := 3 } sample.resource twoViewRule
      twoViewRule.blocks 0 (PatternCache.ofCapacity 16)).1 = .ok twoView ∧
    twoView.Arrives .closed roundTrip ∧ (twoView.run roundTrip).1.Stays .closed twoSlow ∧
    (twoView.run (roundTrip ++ twoSlow ++ [.report (slowOutcome .success) 10])).1.phase = .opened ∧
    (twoView.run (roundTrip ++ twoSlow ++ [.report (sampleOutcome .fail) 10])).1.phase ≠ .opened ∧
    ((twoView.run (roundTrip ++ twoSlow)).1.evaluate 5000).1.phase ≠ .opened := by
  have hv : twoViewRule.isValid standardCompiler = true := by decide
  have hstreaks : ∀ b ∈ twoViewRule.blocks, ∀ cond ∈ b.triggers,
      ∃ limit, cond = .consecutiveError limit := by
    simp [twoViewRule]
  have h : (build? standardCompiler { buckets := 10, probes := 3 } sample.resource twoViewRule
      twoViewRule.blocks 0 (PatternCache.ofCapacity 16)).1 = .ok twoView := rfl
  have hpre : twoView.Arrives .closed roundTrip := by
    refine ⟨by decide, ?_⟩
    intro before op hbefore
    have hsplit : roundTrip.take 4 ++ [.report (sampleOutcome .success) 1004] = before ++ [op] :=
      hbefore
    rw [← (List.append_inj' hsplit rfl).1]
    decide
  have hmid : (twoView.run roundTrip).1.Stays .closed twoSlow := by
    intro done hdone
    have hlength : done.length ≤ twoSlow.length := hdone.length_le
    rw [List.prefix_iff_eq_take.mp hdone]
    generalize done.length = n at hlength
    revert n
    decide
  obtain ⟨_, hopens, htime⟩ := streak_opens hv (List.Subset.refl _) hstreaks h
  refine ⟨hv, hstreaks, h, hpre, hmid, ?_, ?_, ?_⟩
  · apply (hopens roundTrip twoSlow _ _ hpre hmid).mpr
    exact ⟨_, List.mem_cons_of_mem _ List.mem_cons_self, _, List.mem_cons_self, 3, rfl, by decide,
      by decide⟩
  · rw [Ne, hopens roundTrip twoSlow _ _ hpre hmid]
    rintro ⟨b, hb, t, ht, limit, hcondition, hview, hreached⟩
    -- the failure is the first in a row, and the end of the slow calls
    rcases List.mem_pair.mp hb with rfl | rfl
    · rw [List.mem_singleton.mp ht] at hcondition
      cases hcondition
      revert hreached
      decide
    · revert hview
      decide
  · intro hopen
    have hsame := htime (roundTrip ++ twoSlow) 5000 hopen
    rw [hsame] at hopen
    revert hopen
    decide

end Circuit

end CircuitBreaker

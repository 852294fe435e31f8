import CircuitBreaker.Proofs.Circuit.Prompt
import CircuitBreaker.Proofs.Window.Accuracy

/-!
# `Proofs.Circuit.Rate` — when a share of calls opens a circuit

A circuit with one condition on a rate opens over a call if, among the calls that count at that time,
there are enough, and enough of them are targets: errors, or slow calls. Which calls count is a matter of
the window, and said for one call at a time by `Window.Covers`.

The way there goes down one layer at a time, and up again.
* A stay in the closed phase is counted by the block, call by call (`blocks_of_stays_closed`), and by
  its trigger (`Block.countAll_eq`), which feeds each call to its window (`Trigger.countCalls`).
* For the window, a call is one addition or two: one more call, and one more target if it is one
  (`Trigger.countCalls_eq_run`). Calls that are reported in order make additions in order, of which
  `Proofs.Window.Accuracy` says what a sum counts. So the sums of the window are numbers of calls
  (`Trigger.sum_request_countCalls`, `Trigger.sum_countCalls`).
* The report opens the circuit if the trigger is satisfied once the call is counted
  (`Block.record_snd_eq_check`), that is, if the sums are large enough (`Trigger.shareFinding_ne_none_iff`).

## Contents
- `Trigger.countCalls`: a window that counts calls.
- `Block.isTarget`, `Block.marks`: what a condition on a rate looks at.
- `Circuit.rate_opens`: when a report opens the circuit.
-/

namespace CircuitBreaker

/-! ## Windows that count calls -/

namespace Trigger

variable {w : Window} {d : Dimension} {marks : List (Nat × Bool)} {now : Nat}

/-- A window that counted some calls, one after the other: when each was reported, and whether it was a
    target. -/
def countCalls (w : Window) (d : Dimension) (marks : List (Nat × Bool)) : Window :=
  marks.foldl (fun w mark => countCall w mark.1 d mark.2) w

/-- What is added to a window for a call. -/
def additions (d : Dimension) (mark : Nat × Bool) : List Addition :=
  ⟨mark.1, .request, 1⟩ :: if mark.2 then [⟨mark.1, d, 1⟩] else []

/-- What is added to a window for some calls. -/
def additionsOf (d : Dimension) (marks : List (Nat × Bool)) : List Addition :=
  marks.flatMap (additions d)

theorem time_of_mem_additions {mark : Nat × Bool} {a : Addition} (h : a ∈ additions d mark) :
    a.time = mark.1 := by
  unfold additions at h
  split at h
  · rcases List.mem_pair.mp h with rfl | rfl <;> rfl
  · rw [List.mem_singleton.mp h]

theorem additionsOf_cons (d : Dimension) (mark : Nat × Bool) (rest : List (Nat × Bool)) :
    additionsOf d (mark :: rest) = additions d mark ++ additionsOf d rest := List.flatMap_cons

/-- Counting a call is making its additions. -/
theorem countCall_eq_run (w : Window) (d : Dimension) (mark : Nat × Bool) :
    countCall w mark.1 d mark.2 = (w.run ((additions d mark).map .add)).1 := by
  have hcall := w.add_eq_step ⟨mark.1, .request, 1⟩
  have htarget (v : Window) := v.add_eq_step ⟨mark.1, d, 1⟩
  unfold countCall additions
  cases mark.2 <;> simp [hcall, htarget]

/-- **Counting calls is making their additions.** -/
theorem countCalls_eq_run (w : Window) (d : Dimension) (marks : List (Nat × Bool)) :
    countCalls w d marks = (w.run ((additionsOf d marks).map .add)).1 := by
  induction marks generalizing w with
  | nil => rfl
  | cons mark rest ih =>
      have hstep : countCalls w d (mark :: rest) = countCalls (countCall w mark.1 d mark.2) d rest := rfl
      rw [hstep, ih, countCall_eq_run, additionsOf_cons, List.map_append, Window.run_append_fst]

/-- Calls that are reported in order make additions in order. -/
theorem inOrder_additionsOf (h : marks.Pairwise fun x y => x.1 ≤ y.1) :
    Window.InOrder (additionsOf d marks) := by
  unfold Window.InOrder additionsOf
  rw [List.pairwise_flatMap]
  constructor
  · intro mark _
    apply List.pairwise_of_forall_mem_list
    intro a ha b hb
    rw [time_of_mem_additions ha, time_of_mem_additions hb]
  · refine h.imp fun hle a ha b hb => ?_
    rw [time_of_mem_additions ha, time_of_mem_additions hb]
    exact hle

/-- If a part of the additions has one of each call of some kind, and no other, it adds up to the number
    of those calls. -/
theorem total_additionsOf {p : Addition → Bool} {q : Nat × Bool → Bool}
    (h : ∀ mark, Window.total ((additions d mark).filter p) = if q mark then 1 else 0)
    (marks : List (Nat × Bool)) :
    Window.total ((additionsOf d marks).filter p) = (marks.filter q).length := by
  induction marks with
  | nil => rfl
  | cons mark rest ih =>
      rw [additionsOf_cons, List.filter_append, Window.total_append, h, ih, List.filter_cons]
      split <;> simp [Nat.add_comm]

/-- **What a clear window has counted at the time of the last call.** -/
theorem sum_eq_total_of_inOrder (hw : w.Spans) (hclear : w.reset = w)
    (horder : marks.Pairwise fun x y => x.1 ≤ y.1) (hlast : ∀ mark ∈ marks, mark.1 ≤ now)
    (hnow : ∃ mark ∈ marks, mark.1 = now) (e : Dimension) :
    (countCalls w d marks).sum now e =
      Window.total ((additionsOf d marks).filter fun a => a.dimension = e ∧ w.Covers now a.time) %
        Counts.modulus := by
  have hbefore : ∀ a ∈ additionsOf d marks, a.time ≤ now := by
    intro a ha
    obtain ⟨mark, hmark, hmem⟩ := List.mem_flatMap.mp ha
    rw [time_of_mem_additions hmem]
    exact hlast mark hmark
  have hthen : ∃ a ∈ additionsOf d marks, a.time = now := by
    obtain ⟨mark, hmark, htime⟩ := hnow
    exact ⟨_, List.mem_flatMap.mpr ⟨mark, hmark, List.mem_cons_self⟩, htime⟩
  rw [countCalls_eq_run, Window.sum_of_inOrder hclear hw.size_pos (inOrder_additionsOf horder),
    Window.covered_of_inOrder hw hbefore hthen]

/-- **The sum of all calls** is the number of calls that count. -/
theorem sum_request_countCalls (hw : w.Spans) (hclear : w.reset = w) (hd : d ≠ .request)
    (horder : marks.Pairwise fun x y => x.1 ≤ y.1) (hlast : ∀ mark ∈ marks, mark.1 ≤ now)
    (hnow : ∃ mark ∈ marks, mark.1 = now) :
    (countCalls w d marks).sum now .request =
      (marks.filter fun mark => w.Covers now mark.1).length % Counts.modulus := by
  rw [sum_eq_total_of_inOrder hw hclear horder hlast hnow]
  refine congrArg (· % Counts.modulus) (total_additionsOf (fun mark => ?_) marks)
  unfold additions
  by_cases hcovers : w.Covers now mark.1 <;> cases mark.2 <;> simp [hcovers, hd]

/-- **The sum of the targets** is the number of targets among the calls that count. -/
theorem sum_countCalls (hw : w.Spans) (hclear : w.reset = w) (hd : d ≠ .request)
    (horder : marks.Pairwise fun x y => x.1 ≤ y.1) (hlast : ∀ mark ∈ marks, mark.1 ≤ now)
    (hnow : ∃ mark ∈ marks, mark.1 = now) :
    (countCalls w d marks).sum now d =
      (marks.filter fun mark => decide (w.Covers now mark.1) && mark.2).length % Counts.modulus := by
  rw [sum_eq_total_of_inOrder hw hclear horder hlast hnow]
  refine congrArg (· % Counts.modulus) (total_additionsOf (fun mark => ?_) marks)
  unfold additions
  by_cases hcovers : w.Covers now mark.1 <;> cases mark.2 <;> simp [hcovers, Ne.symm hd]

/-- **When a share is found too large**: there are calls, at least as many as are asked for, and the
    share of the targets among them reaches the threshold. -/
theorem shareFinding_ne_none_iff {share : Share} {l : RateLimit} :
    shareFinding share d l w now ≠ none ↔
      max 1 l.minimum ≤ w.sum now .request ∧
        l.threshold ≤ floatCount (w.sum now d) / floatCount (w.sum now .request) := by
  unfold shareFinding
  by_cases hfew : w.sum now .request = 0 ∨ w.sum now .request < l.minimum
  · have hbelow : ¬max 1 l.minimum ≤ w.sum now .request := by omega
    simp [hfew, hbelow]
  · have henough : max 1 l.minimum ≤ w.sum now .request := by omega
    simp [hfew, henough]

end Trigger

/-! ## Conditions on a rate -/

/-- A trigger of a block that counted some calls. -/
def Trigger.countAll (t : Trigger) (b : Block) (calls : List (Outcome × Nat)) : Trigger :=
  calls.foldl (fun t call => t.count call.2 (b.isError call.1) call.1.delay) t

namespace Block

variable {b : Block} {cond : TriggerCondition} {l : RateLimit} {t : Trigger} {buckets : Nat}

/-- **A call is a target of a condition on a rate** if it is an error of the block, or if it took as long
    as the condition takes for slow. -/
def isTarget (b : Block) (cond : TriggerCondition) (o : Outcome) : Bool :=
  match cond with
  | .consecutiveError _ => false
  | .errorRate _ => b.isError o
  | .slowRate least _ => decide (least ≤ o.delay)

/-- What the window of a condition gets to see of some calls. -/
def marks (b : Block) (cond : TriggerCondition) (calls : List (Outcome × Nat)) : List (Nat × Bool) :=
  calls.map fun call => (call.2, b.isTarget cond call.1)

/-- A block counts calls trigger by trigger. -/
theorem countAll_eq (b : Block) (calls : List (Outcome × Nat)) :
    b.countAll calls = { b with triggers := b.triggers.map fun t => t.countAll b calls } := by
  induction calls using List.reverseRecOn with
  | nil => simp [countAll, Trigger.countAll]
  | append_singleton calls call ih =>
      have hstep : b.countAll (calls ++ [call]) = (b.countAll calls).count call.2 call.1 :=
        countAll_append b calls [call]
      rw [hstep, ih]
      simp [count, isError, Trigger.countAll, List.foldl_append]

/-- **What a trigger for a condition on a rate finds**: the share of the targets among the calls that its
    window has counted. -/
theorem exists_window_of_limit? (hlimit : cond.limit? = some l)
    (ht : Trigger.ofCondition? buckets cond = .ok t) :
    ∃ w share d, Window.ofInterval? buckets l.interval = .ok w ∧ d ≠ .request ∧
      ∀ (b : Block) (calls : List (Outcome × Nat)) (now : Nat),
        (t.countAll b calls).check now =
          Trigger.shareFinding share d l (Trigger.countCalls w d (b.marks cond calls)) now := by
  cases cond with
  | consecutiveError limit => cases hlimit
  | errorRate limit =>
      cases hlimit
      obtain ⟨w, hw, rfl⟩ := exists_of_map_ok ht
      refine ⟨w, .errors, .failure, hw, by decide, fun b calls now => ?_⟩
      have hcount : (Trigger.errorRate l w).countAll b calls =
          .errorRate l (Trigger.countCalls w .failure (b.marks (.errorRate l) calls)) := by
        clear hw ht
        induction calls generalizing w with
        | nil => rfl
        | cons call rest ih => exact ih _
      rw [hcount]
      rfl
  | slowRate least limit =>
      cases hlimit
      obtain ⟨w, hw, rfl⟩ := exists_of_map_ok ht
      refine ⟨w, .slowness, .slow, hw, by decide, fun b calls now => ?_⟩
      have hcount : (Trigger.slowRate least l w).countAll b calls =
          .slowRate least l (Trigger.countCalls w .slow (b.marks (.slowRate least l) calls)) := by
        clear hw ht
        induction calls generalizing w with
        | nil => rfl
        | cons call rest ih => exact ih _
      rw [hcount]
      rfl

/-- A block with one trigger is satisfied if the trigger is. -/
theorem check_countAll_ne_none_iff (hb : b.triggers = [t]) (calls : List (Outcome × Nat)) (now : Nat) :
    (b.countAll calls).check now ≠ none ↔ (t.countAll b calls).check now ≠ none := by
  rw [countAll_eq, hb]
  simp [check]

/-- One block rule makes one block. -/
theorem exists_of_buildAll?_singleton {f : Compiler} {r : BlockRule} {bs : List Block}
    {cache : PatternCache} (h : (buildAll? f buckets [r] cache).1 = .ok bs) :
    ∃ b, bs = [b] ∧ (build? f buckets r cache).1 = .ok b := by
  simp only [buildAll?] at h
  split at h
  · cases h
  · rename_i b _ hb
    cases h
    exact ⟨b, rfl, by rw [hb]⟩

/-- One condition makes one trigger. -/
theorem exists_of_triggersOf?_singleton {ts : List Trigger} (h : triggersOf? buckets [cond] = .ok ts) :
    ∃ t, ts = [t] ∧ Trigger.ofCondition? buckets cond = .ok t := by
  simp only [triggersOf?] at h
  split at h
  · cases h
  · rename_i t ht
    cases h
    exact ⟨t, rfl, ht⟩

/-- **When a block with one condition on a rate is satisfied** at the time of the last call that it
    counted. -/
theorem check_countAll_of_limit? (hlimit : cond.limit? = some l)
    (ht : Trigger.ofCondition? buckets cond = .ok t) (hb : b.triggers = [t]) :
    ∃ w, Window.ofInterval? buckets l.interval = .ok w ∧
      ∀ (calls : List (Outcome × Nat)) (now : Nat),
        calls.Pairwise (fun x y => x.2 ≤ y.2) → (∀ call ∈ calls, call.2 ≤ now) →
        (∃ call ∈ calls, call.2 = now) →
        let seen := calls.filter fun call => w.Covers now call.2
        let total := seen.length
        let target := (seen.filter fun call => b.isTarget cond call.1).length
        total < Counts.modulus →
        ((b.countAll calls).check now ≠ none ↔
          max 1 l.minimum ≤ total ∧
            l.threshold ≤ Trigger.floatCount target / Trigger.floatCount total) := by
  obtain ⟨w, share, d, hw, hd, hcheck⟩ := exists_window_of_limit? hlimit ht
  refine ⟨w, hw, ?_⟩
  intro calls now horder hlast hnow seen total target hfew
  have hspans : w.Spans := Window.spans_ofInterval? hw
  have hclear : w.reset = w := Window.reset_ofInterval? hw
  have hinorder : (b.marks cond calls).Pairwise fun x y => x.1 ≤ y.1 :=
    List.pairwise_map.mpr horder
  have hbefore : ∀ mark ∈ b.marks cond calls, mark.1 ≤ now := List.forall_mem_map.mpr hlast
  have hthen : ∃ mark ∈ b.marks cond calls, mark.1 = now := by
    obtain ⟨call, hcall, htime⟩ := hnow
    exact ⟨_, List.mem_map_of_mem hcall, htime⟩
  have hseen : ((b.marks cond calls).filter fun mark => w.Covers now mark.1).length = total := by
    simp [marks, List.filter_map, Function.comp_def, total, seen]
  have htarget : ((b.marks cond calls).filter fun mark =>
      decide (w.Covers now mark.1) && mark.2).length = target := by
    simp [marks, List.filter_map, Function.comp_def, target, seen, List.filter_filter, Bool.and_comm]
  have hsmaller : target ≤ total := List.length_filter_le _ _
  rw [check_countAll_ne_none_iff hb, hcheck, Trigger.shareFinding_ne_none_iff,
    Trigger.sum_request_countCalls hspans hclear hd hinorder hbefore hthen,
    Trigger.sum_countCalls hspans hclear hd hinorder hbefore hthen, hseen, htarget,
    Nat.mod_eq_of_lt hfew, Nat.mod_eq_of_lt (Nat.lt_of_le_of_lt hsmaller hfew)]

end Block

/-! ## Circuits with one condition on a rate -/

namespace Circuit

variable {f : Compiler} {s : CircuitSettings} {resource : Resource} {rule : Rule} {r : BlockRule}
  {cond : TriggerCondition} {l : RateLimit} {start : Nat} {cache : PatternCache} {c : Circuit}

/-- **When a share of calls opens a circuit.** Take one block rule with one valid condition, on a rate of
    errors or of slow calls, and any operations at any times.
    * If the circuit is closed after them, they end with a stay in the closed phase.
    * Take the calls reported in such a stay and one more, none of them at an earlier time than one
      before it. Of these calls, those that the window covers at the time of the last one are the total,
      and the targets of the condition among them are the target. As long as the total fits the counts,
      the last call opens the circuit exactly if the total is at least one and no less than the minimum,
      and the share of the target reaches the threshold.
    * A call that was never sent changes nothing. -/
theorem rate_opens (hvalid : cond.check = .ok ()) (hlimit : cond.limit? = some l)
    (hr : r.triggers = [cond]) (h : (build? f s resource rule [r] start cache).1 = .ok c) :
    ∃ b w, c.blocks = [b] ∧ Window.ofInterval? s.buckets l.interval = .ok w ∧
      (∀ ops, (c.run ops).1.phase = .closed →
        ∃ pre mid, ops = pre ++ mid ∧ c.Arrives .closed pre ∧ (c.run pre).1.Stays .closed mid) ∧
      (∀ pre mid o now, c.Arrives .closed pre → (c.run pre).1.Stays .closed mid →
        o.verdict ≠ .reject →
        (calls (mid ++ [.report o now])).Pairwise (fun x y => x.2 ≤ y.2) →
        let seen := (calls (mid ++ [.report o now])).filter fun call => w.Covers now call.2
        let total := seen.length
        let target := (seen.filter fun call => b.isTarget cond call.1).length
        total < Counts.modulus →
        ((c.run (pre ++ mid ++ [.report o now])).1.phase = .opened ↔
          max 1 l.minimum ≤ total ∧
            l.threshold ≤ Trigger.floatCount target / Trigger.floatCount total)) ∧
      ∀ ops o now, o.verdict = .reject → (c.run (ops ++ [.report o now])).1 = (c.run ops).1 := by
  have hlimits : ∀ b ∈ c.blocks, b.reset.IsShort := by
    refine isShort_of_build? (fun q hq other hother => ?_) h
    rw [List.mem_singleton.mp hq, hr] at hother
    rw [List.mem_singleton.mp hother]
    exact hvalid
  have hbuilt := h
  obtain ⟨bs, hbs, rfl⟩ := exists_of_build? hbuilt
  obtain ⟨b, rfl, hb⟩ := Block.exists_of_buildAll?_singleton hbs
  have htriggers := Block.triggersOf?_of_build? hb
  rw [hr] at htriggers
  obtain ⟨t, hsingle, ht⟩ := Block.exists_of_triggersOf?_singleton htriggers
  obtain ⟨w, hw, hchecks⟩ := Block.check_countAll_of_limit? hlimit ht hsingle
  refine ⟨b, w, rfl, hw, fun ops hclosed => exists_stay hclosed, ?_, ?_⟩
  · intro pre mid o now hpre hmid hsent horder seen total target hfew
    have hcalls : calls (mid ++ [.report o now]) = calls mid ++ [(o, now)] := by
      rw [calls_snoc, call?_of_sent hsent, Option.toList_some]
    have hlast : ∀ call ∈ calls (mid ++ [.report o now]), call.2 ≤ now := by
      rw [hcalls] at horder ⊢
      intro call hcall
      rcases List.mem_append.mp hcall with hbefore | hsame
      · exact (List.pairwise_append.mp horder).2.2 call hbefore (o, now) List.mem_cons_self
      · rw [List.mem_singleton.mp hsame]
    have hnow : ∃ call ∈ calls (mid ++ [.report o now]), call.2 = now := by
      rw [hcalls]
      exact ⟨(o, now), List.mem_append_right _ List.mem_cons_self, rfl⟩
    -- once the call is counted, the block has counted the calls of the stay and this one
    have hcounted : ((((fresh s resource rule start [b]).run pre).1.run mid).1.counting o now).check now =
        (b.countAll (calls (mid ++ [.report o now]))).check now := by
      have hblocks : (((fresh s resource rule start [b]).run pre).1.run mid).1.blocks =
          [b.countAll (calls mid)] := by
        rw [blocks_of_stays_closed hmid, blocks_of_arrives_closed h hpre]
        rfl
      rw [hcalls, Block.countAll_append]
      simp [check, counting, hblocks, Block.countAll]
    have hshort := isShort_congr (blank_run (fresh s resource rule start [b]) (pre ++ mid)) hlimits
    rw [run_append] at hshort
    rw [run_snoc, run_append]
    refine (phase_report_eq_opened_iff hshort hmid.phase hsent now).trans ?_
    rw [hcounted]
    exact hchecks _ now horder hlast hnow hfew
  · intro ops o now hreject
    rw [run_snoc, step_of_reject hreject]

/-- Three calls in four may not fail within a second. -/
def rateLimit : RateLimit := ⟨0.75, 1000, 3⟩

/-- A block rule with a rate of errors as its only condition. -/
def rateBlock : BlockRule := { name := "rate", triggers := [.errorRate rateLimit] }

/-- A circuit under `rateBlock`, whose windows have ten buckets. -/
def rated : Circuit :=
  fresh { buckets := 10, probes := 3 } sample.resource { sampleRule with blocks := [rateBlock] } 0
    [{ name := "rate", tests := [],
       triggers := [.errorRate rateLimit ⟨1000, 100, List.replicate 10 {}⟩] }]

/-- Three failures open the circuit, and a trial call closes it again. -/
def ratedRoundTrip : List Op :=
  [.report (sampleOutcome .fail) 1000, .report (sampleOutcome .fail) 1001,
    .report (sampleOutcome .fail) 1001, .evaluate 2001, .acquireProbe,
    .report (sampleOutcome .success) 2002]

/-- Two failures and a success, and a call that was never sent. -/
def mixedCalls : List Op :=
  [.report (sampleOutcome .fail) 3000, .report (sampleOutcome .fail) 3050,
    .report (sampleOutcome .reject) 3060, .evaluate 3070, .report (sampleOutcome .success) 3100]

/-- After a round trip through all phases, a third failure opens the circuit if it comes in the same second as
    the first. A millisecond later, the first two have lost their slot to it. -/
theorem rated_rate_opens :
    (TriggerCondition.errorRate rateLimit).check = .ok () ∧
    (TriggerCondition.errorRate rateLimit).limit? = some rateLimit ∧
    rateBlock.triggers = [.errorRate rateLimit] ∧
    (build? standardCompiler { buckets := 10, probes := 3 } sample.resource
      { sampleRule with blocks := [rateBlock] } [rateBlock] 0 (PatternCache.ofCapacity 16)).1 =
        .ok rated ∧
    rated.Arrives .closed ratedRoundTrip ∧
    (rated.run ratedRoundTrip).1.Stays .closed mixedCalls ∧
    (rated.run (ratedRoundTrip ++ mixedCalls ++ [.report (sampleOutcome .fail) 3999])).1.phase =
      .opened ∧
    (rated.run (ratedRoundTrip ++ mixedCalls ++ [.report (sampleOutcome .fail) 4000])).1.phase ≠
      .opened := by
  have hvalid : (TriggerCondition.errorRate rateLimit).check = .ok () :=
    RateLimit.check_eq_ok_iff.mpr ⟨by decide, by decide⟩
  have h : (build? standardCompiler { buckets := 10, probes := 3 } sample.resource
      { sampleRule with blocks := [rateBlock] } [rateBlock] 0 (PatternCache.ofCapacity 16)).1 =
        .ok rated := rfl
  have hpre : rated.Arrives .closed ratedRoundTrip := by
    refine ⟨by decide, ?_⟩
    intro before op hbefore
    have hsplit : ratedRoundTrip.take 5 ++ [.report (sampleOutcome .success) 2002] = before ++ [op] :=
      hbefore
    rw [← (List.append_inj' hsplit rfl).1]
    decide
  have hmid : (rated.run ratedRoundTrip).1.Stays .closed mixedCalls := by
    intro done hdone
    have hlength : done.length ≤ mixedCalls.length := hdone.length_le
    rw [List.prefix_iff_eq_take.mp hdone]
    generalize done.length = n at hlength
    revert n
    decide
  obtain ⟨b, w, hb, hw, _, hopens, _⟩ := rate_opens hvalid rfl rfl h
  cases hb
  cases hw
  refine ⟨hvalid, rfl, rfl, h, hpre, hmid, ?_, ?_⟩
  · exact (hopens _ _ _ _ hpre hmid (by decide) (by decide) (by decide)).mpr (by decide)
  · rw [Ne, hopens _ _ _ _ hpre hmid (by decide) (by decide) (by decide)]
    decide

end Circuit

end CircuitBreaker

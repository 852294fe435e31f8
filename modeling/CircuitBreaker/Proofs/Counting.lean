import CircuitBreaker.Block
import CircuitBreaker.Proofs.Rule.Validity

/-!
# `Proofs.Counting` — what counting changes, and what clearing forgets

A window, a trigger and a block each have a **shape** (limits, lengths, tests, names) and **counts**.
Counting never touches the shape, and clearing keeps nothing but the shape. So a thing that counted
for a while is, once cleared, the same as before. Whatever was just built is clear already.

The second half is about errors in a row. A trigger that stays silent has a streak below its limit
(`isShort_record`), provided that the limit is not zero.

## Contents
- `Window.reset_add`, `Trigger.reset_count`, `Block.reset_count`: counting keeps the shape.
- `Trigger.exists_limit_of_window?`: where the window of a trigger comes from.
- `Window.reset_ofInterval?`, `Trigger.reset_ofCondition?`, `Block.reset_of_mem_buildAll?`: new
  things are clear.
- `Trigger.IsShort`, `Block.IsShort`: streaks below their limits.
-/

namespace CircuitBreaker

/-- What a mapped result came from. -/
theorem exists_of_map_ok {α β ε : Type} {f : α → β} {x : Except ε α} {b : β}
    (h : x.map f = .ok b) : ∃ a, x = .ok a ∧ f a = b := by
  cases x with
  | error e => cases h
  | ok a => exact ⟨a, rfl, by injection h⟩

/-- Looking for something is the same under functions that agree. -/
theorem findSome?_congr {α β : Type} {f g : α → Option β} {as : List α}
    (h : ∀ a ∈ as, f a = g a) : as.findSome? f = as.findSome? g := by
  induction as with
  | nil => rfl
  | cons a rest ih =>
      rw [List.findSome?_cons, List.findSome?_cons, h a List.mem_cons_self,
        ih fun b hb => h b (List.mem_cons_of_mem a hb)]

/-! ## Windows -/

namespace Window

/-- A cleared window is a ring of empty buckets. -/
theorem reset_eq (w : Window) : w.reset = { w with buckets := List.replicate w.size {} } := by
  unfold reset size
  rw [List.map_const']

/-- Two windows of one shape are the same once they are cleared. -/
theorem reset_congr {v w : Window} (hi : v.interval = w.interval) (hw : v.width = w.width)
    (hs : v.size = w.size) : v.reset = w.reset := by
  rw [reset_eq, reset_eq, hi, hw, hs]

@[simp]
theorem size_reset (w : Window) : w.reset.size = w.size := by simp [reset, size]

@[simp]
theorem reset_reset (w : Window) : w.reset.reset = w.reset := reset_congr rfl rfl w.size_reset

/-- Making room for a time keeps the shape. -/
theorem reset_roll? {v w : Window} {now : Nat} (h : w.roll? now = .ok v) : v.reset = w.reset := by
  simp only [roll?] at h
  split at h
  · cases h; rfl
  · split at h
    · cases h; exact reset_congr rfl rfl (by simp [size])
    · cases h

theorem reset_add? {v w : Window} {now n : Nat} {d : Dimension} (h : w.add? now d n = .ok v) :
    v.reset = w.reset := by
  unfold add? at h
  split at h
  · cases h
  · rename_i u hu
    cases h
    rw [← reset_roll? hu]
    exact reset_congr rfl rfl (by simp [size])

/-- **Counting keeps the shape of a window.** -/
@[simp]
theorem reset_add (w : Window) (now : Nat) (d : Dimension) (n : Nat) :
    (w.add now d n).reset = w.reset := by
  unfold add
  cases h : w.add? now d n with
  | ok v => exact reset_add? h
  | error e => rfl

/-- A window has a shape as soon as it has buckets and a length. -/
theorem ofInterval?_eq_ok {count interval : Nat} (hc : count ≠ 0) (hi : interval ≠ 0) :
    ∃ w, ofInterval? count interval = .ok w := by
  unfold ofInterval?
  rw [if_neg (by simp [hc, hi])]
  exact ⟨_, rfl⟩

/-- A new window is clear. -/
theorem reset_ofInterval? {w : Window} {count interval : Nat}
    (h : ofInterval? count interval = .ok w) : w.reset = w := by
  unfold ofInterval? at h
  split at h
  · cases h
  · cases h; simp [reset]

end Window

/-! ## Triggers -/

/-- The limit that a condition sets on a share of calls, if it does. -/
def TriggerCondition.limit? : TriggerCondition → Option RateLimit
  | consecutiveError _ => none
  | errorRate l => some l
  | slowRate _ l => some l

namespace Trigger

@[simp]
theorem reset_countCall (w : Window) (now : Nat) (d : Dimension) (also : Bool) :
    (countCall w now d also).reset = w.reset := by
  unfold countCall
  cases also <;> simp

/-- Clearing keeps the condition of a trigger. -/
@[simp]
theorem condition_reset (t : Trigger) : t.reset.condition = t.condition := by
  cases t <;> rfl

/-- **Counting keeps the shape of a trigger.** -/
@[simp]
theorem reset_count (t : Trigger) (now : Nat) (isError : Bool) (delay : Nat) :
    (t.count now isError delay).reset = t.reset := by
  cases t <;> simp [count, reset]

@[simp]
theorem reset_reset (t : Trigger) : t.reset.reset = t.reset := by cases t <;> simp [reset]

@[simp]
theorem record_fst (t : Trigger) (now : Nat) (isError : Bool) (delay : Nat) :
    (t.record now isError delay).1 = t.count now isError delay := rfl

/-- A trigger for a condition that passes its check can be made. -/
theorem ofCondition?_eq_ok {buckets : Nat} {c : TriggerCondition} (hb : buckets ≠ 0)
    (hc : c.check = .ok ()) : ∃ t, ofCondition? buckets c = .ok t := by
  have window {share : Share} {l : RateLimit} (h : l.check share = .ok ()) :
      ∃ w, Window.ofInterval? buckets l.interval = .ok w :=
    Window.ofInterval?_eq_ok hb (RateLimit.check_eq_ok_iff.mp h).2
  cases c with
  | consecutiveError count => exact ⟨_, rfl⟩
  | errorRate l =>
      obtain ⟨w, hw⟩ := window hc
      exact ⟨errorRate l w, by rw [ofCondition?, hw]; rfl⟩
  | slowRate n l =>
      obtain ⟨w, hw⟩ := window hc
      exact ⟨slowRate n l w, by rw [ofCondition?, hw]; rfl⟩

/-- **The window of a new trigger** is a new one, for the interval of the limit that its condition sets. -/
theorem exists_limit_of_window? {buckets : Nat} {c : TriggerCondition} {t : Trigger} {w : Window}
    (h : ofCondition? buckets c = .ok t) (hw : t.window? = some w) :
    ∃ l, c.limit? = some l ∧ Window.ofInterval? buckets l.interval = .ok w := by
  cases c with
  | consecutiveError count =>
      cases h
      cases hw
  | errorRate l =>
      obtain ⟨v, hv, rfl⟩ := exists_of_map_ok h
      cases hw
      exact ⟨l, rfl, hv⟩
  | slowRate n l =>
      obtain ⟨v, hv, rfl⟩ := exists_of_map_ok h
      cases hw
      exact ⟨l, rfl, hv⟩

/-- A new trigger is clear. -/
theorem reset_ofCondition? {buckets : Nat} {c : TriggerCondition} {t : Trigger}
    (h : ofCondition? buckets c = .ok t) : t.reset = t := by
  cases c with
  | consecutiveError count => cases h; rfl
  | errorRate l =>
      obtain ⟨w, hw, rfl⟩ := exists_of_map_ok h
      rw [reset, Window.reset_ofInterval? hw]
  | slowRate n l =>
      obtain ⟨w, hw, rfl⟩ := exists_of_map_ok h
      rw [reset, Window.reset_ofInterval? hw]

/-! ### Errors in a row -/

/-- A streak is **short** if it is below its limit; other triggers have none. -/
def IsShort : Trigger → Prop
  | streak limit errors => errors < limit
  | errorRate _ _ => True
  | slowRate _ _ _ => True

/-- A condition that passes its check makes a trigger that is short when clear. -/
theorem isShort_ofCondition? {buckets : Nat} {c : TriggerCondition} {t : Trigger}
    (hc : c.check = .ok ()) (h : ofCondition? buckets c = .ok t) : t.IsShort := by
  cases c with
  | consecutiveError count =>
      cases h
      refine Nat.pos_of_ne_zero fun h0 => ?_
      simp only [TriggerCondition.check, h0, if_true] at hc
      cases hc
  | errorRate l => obtain ⟨w, _, rfl⟩ := exists_of_map_ok h; trivial
  | slowRate n l => obtain ⟨w, _, rfl⟩ := exists_of_map_ok h; trivial

/-- **A silent trigger has a short streak.** Either the call was an error and the limit is not reached
    yet, or it ended the streak. -/
theorem isShort_record {t : Trigger} {now delay : Nat} {isError : Bool} (hr : t.reset.IsShort)
    (h : (t.record now isError delay).2 = none) : (t.count now isError delay).IsShort := by
  cases t with
  | streak limit errors =>
      cases isError with
      | false => exact hr
      | true =>
          by_cases hl : limit ≤ errors + 1
          · simp [record, count, heeds, check, hl] at h
          · exact Nat.lt_of_not_le hl
  | errorRate l w => trivial
  | slowRate n l w => trivial

end Trigger

/-! ## Blocks -/

namespace Block

/-- All streaks of the block are short. -/
def IsShort (b : Block) : Prop := ∀ t ∈ b.triggers, t.IsShort

@[simp]
theorem record_fst (b : Block) (now : Nat) (o : Outcome) : (b.record now o).1 = b.count now o := by
  simp [record, count]

/-- **Counting keeps the shape of a block.** -/
@[simp]
theorem reset_count (b : Block) (now : Nat) (o : Outcome) : (b.count now o).reset = b.reset := by
  simp [count, reset]

@[simp]
theorem reset_reset (b : Block) : b.reset.reset = b.reset := by simp [reset]

/-- A silent block has short streaks. -/
theorem isShort_record {b : Block} {now : Nat} {o : Outcome} (hr : b.reset.IsShort)
    (h : (b.record now o).2 = none) : (b.count now o).IsShort := by
  intro u hu
  obtain ⟨t, ht, rfl⟩ := List.mem_map.mp hu
  have quiet : (t.record now (b.isError o) o.delay).2 = none := by
    simp only [record, Option.map_eq_none_iff, List.findSome?_map, List.findSome?_eq_none_iff] at h
    exact h t ht
  exact Trigger.isShort_record (hr t.reset (List.mem_map_of_mem ht)) quiet

/-! ### Building -/

/-- Triggers for conditions that pass their checks can be made. -/
theorem triggersOf?_eq_ok {buckets : Nat} {cs : List TriggerCondition} (hb : buckets ≠ 0)
    (hc : ∀ c ∈ cs, c.check = .ok ()) : ∃ ts, triggersOf? buckets cs = .ok ts := by
  induction cs with
  | nil => exact ⟨[], rfl⟩
  | cons c rest ih =>
      obtain ⟨t, ht⟩ := Trigger.ofCondition?_eq_ok hb (hc c List.mem_cons_self)
      obtain ⟨ts, hts⟩ := ih fun d hd => hc d (List.mem_cons_of_mem c hd)
      exact ⟨t :: ts, by simp only [triggersOf?, ht, hts]⟩

/-- Every trigger of a new block was made for one of its conditions. -/
theorem mem_triggersOf? {buckets : Nat} {cs : List TriggerCondition} {ts : List Trigger}
    (h : triggersOf? buckets cs = .ok ts) {t : Trigger} (ht : t ∈ ts) :
    ∃ c ∈ cs, Trigger.ofCondition? buckets c = .ok t := by
  induction cs generalizing ts with
  | nil => cases h; cases ht
  | cons c rest ih =>
      simp only [triggersOf?] at h
      split at h
      · cases h
      · rename_i u hu
        split at h
        · cases h
        · rename_i us hus
          cases h
          rcases List.mem_cons.mp ht with rfl | hmem
          · exact ⟨c, List.mem_cons_self, hu⟩
          · obtain ⟨d, hd, hdt⟩ := ih hus hmem
            exact ⟨d, List.mem_cons_of_mem c hd, hdt⟩

/-- The triggers of a new block are those of its rule. -/
theorem triggersOf?_of_build? {f : Compiler} {buckets : Nat} {r : BlockRule} {b : Block}
    {cache : PatternCache} (h : (build? f buckets r cache).1 = .ok b) :
    triggersOf? buckets r.triggers = .ok b.triggers := by
  unfold build? at h
  split at h
  · cases h
  · rename_i ts hts
    cases h
    exact hts

/-- A new block is clear. -/
theorem reset_build? {f : Compiler} {buckets : Nat} {r : BlockRule} {b : Block}
    {cache : PatternCache} (h : (build? f buckets r cache).1 = .ok b) : b.reset = b := by
  have clear (t : Trigger) (ht : t ∈ b.triggers) : t.reset = t := by
    obtain ⟨c, _, hc⟩ := mem_triggersOf? (triggersOf?_of_build? h) ht
    exact Trigger.reset_ofCondition? hc
  unfold reset
  rw [(List.map_congr_left (g := id) clear).trans b.triggers.map_id]

/-- Every new block was built for one of the block rules. -/
theorem mem_buildAll? {f : Compiler} {buckets : Nat} {rs : List BlockRule} {bs : List Block}
    {cache : PatternCache} (h : (buildAll? f buckets rs cache).1 = .ok bs) {b : Block}
    (hb : b ∈ bs) : ∃ r ∈ rs, ∃ cache, (build? f buckets r cache).1 = .ok b := by
  induction rs generalizing bs cache with
  | nil => cases h; cases hb
  | cons r rest ih =>
      simp only [buildAll?] at h
      split at h
      · cases h
      · rename_i block _ hblock
        split at h
        · cases h
        · rename_i blocks _ hblocks
          cases h
          rcases List.mem_cons.mp hb with rfl | hmem
          · exact ⟨r, List.mem_cons_self, cache, by rw [hblock]⟩
          · obtain ⟨q, hq, hbuilt⟩ := ih (by rw [hblocks]) hmem
            exact ⟨q, List.mem_cons_of_mem r hq, hbuilt⟩

/-- **New blocks are clear.** -/
theorem reset_of_mem_buildAll? {f : Compiler} {buckets : Nat} {rs : List BlockRule}
    {bs : List Block} {cache : PatternCache} (h : (buildAll? f buckets rs cache).1 = .ok bs)
    {b : Block} (hb : b ∈ bs) : b.reset = b := by
  obtain ⟨r, _, _, hr⟩ := mem_buildAll? h hb
  exact reset_build? hr

theorem map_reset_buildAll? {f : Compiler} {buckets : Nat} {rs : List BlockRule}
    {bs : List Block} {cache : PatternCache} (h : (buildAll? f buckets rs cache).1 = .ok bs) :
    bs.map reset = bs :=
  (List.map_congr_left (g := id) fun _ hb => reset_of_mem_buildAll? h hb).trans bs.map_id

/-- Blocks for block rules with conditions that pass their checks have short streaks. -/
theorem isShort_buildAll? {f : Compiler} {buckets : Nat} {rs : List BlockRule} {bs : List Block}
    {cache : PatternCache} (hrs : ∀ r ∈ rs, ∀ c ∈ r.triggers, c.check = .ok ())
    (h : (buildAll? f buckets rs cache).1 = .ok bs) : ∀ b ∈ bs, b.IsShort := by
  intro b hb t ht
  obtain ⟨r, hr, _, hbuilt⟩ := mem_buildAll? h hb
  obtain ⟨c, hc, hct⟩ := mem_triggersOf? (triggersOf?_of_build? hbuilt) ht
  exact Trigger.isShort_ofCondition? (hrs r hr c hc) hct

/-- Blocks for block rules that pass their checks can be built. -/
theorem buildAll?_eq_ok {buckets : Nat} {rs : List BlockRule} {g : Compiler} (f : Compiler)
    (hb : buckets ≠ 0) (hrs : ∀ r ∈ rs, r.check g = .ok ()) (cache : PatternCache) :
    ∃ bs, (buildAll? f buckets rs cache).1 = .ok bs := by
  induction rs generalizing cache with
  | nil => exact ⟨[], rfl⟩
  | cons r rest ih =>
      obtain ⟨ts, hts⟩ := triggersOf?_eq_ok hb
        (BlockRule.check_eq_ok_iff.mp (hrs r List.mem_cons_self)).2.1
      obtain ⟨bs, hbs⟩ := ih (fun q hq => hrs q (List.mem_cons_of_mem r hq))
        (ErrorTest.ofConditions f r.errors cache).2
      cases hrest : buildAll? f buckets rest (ErrorTest.ofConditions f r.errors cache).2 with
      | mk built left =>
          rw [hrest] at hbs
          cases hbs
          exact ⟨_, by simp only [buildAll?, build?, hts, hrest]; rfl⟩

end Block

end CircuitBreaker

import CircuitBreaker.Circuit.Checked
import CircuitBreaker.Proofs.Circuit.Effect
import CircuitBreaker.Proofs.Window.Checked

/-!
# `Proofs.Circuit.Checked` — on rings nothing faults

Counting in a ring does not fault, and a window that is a ring stays one. A share divides by the sum of a
window, which may well be zero; then there are too few calls for a share, and nothing is divided
(`Trigger.checkedShareFinding_eq`).

So a circuit whose windows are rings is one forever (`Circuit.OnRings.run`), and all that is done to it
is done without a fault (`Circuit.checkedRun_eq`).

## Contents
- `Trigger.checkedCheck_eq`, `Trigger.checkedRecord_eq`, `Block.OnRings` and the same for a block.
- `Circuit.OnRings`, `OnRings.run`, `checkedStep_eq`, `checkedRun_eq`: circuits.
-/

namespace CircuitBreaker

/-- Where no step faults, several of them give what each of them gives. -/
theorem mapM_eq_ok {α β ε : Type} {f : α → Except ε β} {g : α → β} {xs : List α}
    (h : ∀ x ∈ xs, f x = .ok (g x)) : xs.mapM f = .ok (xs.map g) := by
  induction xs with
  | nil => rfl
  | cons x rest ih =>
      rw [List.mapM_cons, h x List.mem_cons_self, ih fun y hy => h y (List.mem_cons_of_mem x hy)]
      rfl

/-- Where no step faults, a search finds what it finds without them. -/
theorem findSomeM?_eq_ok {α β ε : Type} {f : α → Except ε (Option β)} {g : α → Option β}
    {xs : List α} (h : ∀ x ∈ xs, f x = .ok (g x)) : xs.findSomeM? f = .ok (xs.findSome? g) := by
  induction xs with
  | nil => rfl
  | cons x rest ih =>
      have hrest := ih fun y hy => h y (List.mem_cons_of_mem x hy)
      rw [List.findSomeM?_cons, h x List.mem_cons_self, List.findSome?_cons]
      cases hx : g x with
      | none => exact hrest
      | some y => rfl

theorem Checked.ratio_eq_ok {x y : Nat} (h : y ≠ 0) :
    Checked.ratio x y = .ok (Trigger.floatCount x / Trigger.floatCount y) :=
  if_neg h

/-! ## Triggers and blocks -/

namespace Trigger

variable {t : Trigger} {w : Window} {count : Nat}

/-- **The window of a trigger is a ring**, if it has one. -/
def OnRing (t : Trigger) (count : Nat) : Prop := ∀ w, t.window? = some w → w.IsRing count

theorem window?_reset (t : Trigger) : t.reset.window? = t.window?.map Window.reset := by
  cases t <;> rfl

theorem onRing_reset_iff : t.reset.OnRing count ↔ t.OnRing count := by
  unfold OnRing
  rw [window?_reset]
  constructor
  · intro h w hw
    have hcleared : w.reset.IsRing count := h w.reset (by rw [hw]; rfl)
    exact hcleared.of_reset w.reset_reset.symm
  · intro h v hv
    obtain ⟨w, hw, rfl⟩ := Option.map_eq_some_iff.mp hv
    exact (h w hw).of_reset w.reset_reset

theorem checkedCountCall_eq (h : w.IsRing count) (now : Nat) (d : Dimension) (also : Bool) :
    checkedCountCall w now d also = .ok (countCall w now d also) := by
  unfold checkedCountCall countCall
  rw [Window.checkedAdd_eq h]
  cases also with
  | false => rfl
  | true => exact Window.checkedAdd_eq (h.add now .request 1) now d 1

/-- **A share does not fault**: there is none of no calls. -/
theorem checkedShareFinding_eq (share : Share) (d : Dimension) (l : RateLimit) (w : Window)
    (now : Nat) : checkedShareFinding share d l w now = .ok (shareFinding share d l w now) := by
  unfold checkedShareFinding shareFinding
  by_cases hfew : w.sum now .request = 0 ∨ w.sum now .request < l.minimum
  · simp only [if_pos hfew]
    rfl
  · have hsome : w.sum now .request ≠ 0 := (not_or.mp hfew).1
    simp only [if_neg hfew, Checked.ratio_eq_ok hsome]
    rfl

theorem checkedCheck_eq (t : Trigger) (now : Nat) : t.checkedCheck now = .ok (t.check now) := by
  cases t with
  | streak limit errors => rfl
  | errorRate l w => exact checkedShareFinding_eq .errors .failure l w now
  | slowRate n l w => exact checkedShareFinding_eq .slowness .slow l w now

theorem checkedCount_eq (h : t.OnRing count) (now : Nat) (isError : Bool) (delay : Nat) :
    t.checkedCount now isError delay = .ok (t.count now isError delay) := by
  cases t with
  | streak limit errors => rfl
  | errorRate l w =>
      simp only [checkedCount, checkedCountCall_eq (h w rfl)]
      rfl
  | slowRate n l w =>
      simp only [checkedCount, checkedCountCall_eq (h w rfl)]
      rfl

theorem checkedRecord_eq (h : t.OnRing count) (now : Nat) (isError : Bool) (delay : Nat) :
    t.checkedRecord now isError delay = .ok (t.record now isError delay) := by
  unfold checkedRecord record
  rw [checkedCount_eq h]
  simp only [bind, Except.bind, checkedCheck_eq]
  split <;> rfl

end Trigger

namespace Block

variable {b : Block} {count : Nat}

/-- **The windows of a block are rings.** -/
def OnRings (b : Block) (count : Nat) : Prop := ∀ t ∈ b.triggers, t.OnRing count

theorem onRings_reset_iff : b.reset.OnRings count ↔ b.OnRings count := by
  unfold OnRings reset
  rw [List.forall_mem_map]
  exact forall₂_congr fun t _ => Trigger.onRing_reset_iff

theorem checkedRecord_eq (h : b.OnRings count) (now : Nat) (o : Outcome) :
    b.checkedRecord now o = .ok (b.record now o) := by
  have hresults := mapM_eq_ok fun t ht =>
    Trigger.checkedRecord_eq (h t ht) now (b.isError o) o.delay
  simp only [checkedRecord, hresults]
  rfl

theorem checkedCheck_eq (b : Block) (now : Nat) : b.checkedCheck now = .ok (b.check now) := by
  have hfinding := findSomeM?_eq_ok fun t (_ : t ∈ b.triggers) => t.checkedCheck_eq now
  simp only [checkedCheck, hfinding]
  rfl

end Block

/-! ## Circuits -/

namespace Circuit

variable {c d : Circuit} {count : Nat}

/-- **The windows of a circuit are rings.** -/
def OnRings (c : Circuit) (count : Nat) : Prop := ∀ b ∈ c.blocks, b.OnRings count

theorem onRings_blank_iff : c.blank.OnRings count ↔ c.OnRings count := by
  unfold OnRings blank
  rw [List.forall_mem_map]
  exact forall₂_congr fun b _ => Block.onRings_reset_iff

/-- **Whatever is done to a circuit**, its windows stay rings. -/
theorem OnRings.run (h : c.OnRings count) (ops : List Op) : (c.run ops).1.OnRings count := by
  rw [← onRings_blank_iff, blank_run, onRings_blank_iff]
  exact h

theorem checkedReport_eq (h : c.OnRings count) (o : Outcome) (now : Nat) :
    c.checkedReport o now = .ok (c.report o now) := by
  have hrecorded : checkedRecordAll (c.touch now).blocks now o =
      .ok (recordAll (c.touch now).blocks now o) := by
    have hresults := mapM_eq_ok fun b hb => Block.checkedRecord_eq (h b hb) now o
    show checkedRecordAll c.blocks now o = _
    simp only [checkedRecordAll, hresults]
    rfl
  have hclosed : (c.touch now).checkedReportClosed o now =
      .ok ((c.touch now).reportClosed o now) := by
    unfold checkedReportClosed reportClosed
    rw [hrecorded]
    cases recordAll (c.touch now).blocks now o with
    | mk blocks reason => cases reason <;> rfl
  unfold checkedReport report
  split
  · rfl
  · cases hphase : (c.touch now).phase with
    | closed => simp only [hphase, hclosed]
    | opened => simp only [hphase]; rfl
    | halfOpen => simp only [hphase]; rfl
    | destroyed => simp only [hphase]; rfl

theorem checkedEvaluate_eq (c : Circuit) (now : Nat) :
    c.checkedEvaluate now = .ok (c.evaluate now) := by
  unfold checkedEvaluate evaluate
  cases hphase : c.phase with
  | closed =>
      have hreason : (c.blocks.findSomeM? fun b => b.checkedCheck now) = .ok (c.check now) :=
        findSomeM?_eq_ok fun b _ => b.checkedCheck_eq now
      simp only [hreason, bind, Except.bind]
      cases c.check now <;> rfl
  | opened => rfl
  | halfOpen => rfl
  | destroyed => rfl

/-- **One operation** does not fault. -/
theorem checkedStep_eq (h : c.OnRings count) (op : Op) : c.checkedStep op = .ok (c.step op) := by
  cases op with
  | report o now =>
      unfold checkedStep
      simp only [checkedReport_eq h]
      rfl
  | evaluate now =>
      unfold checkedStep
      simp only [checkedEvaluate_eq]
      rfl
  | acquireProbe => rfl
  | releaseProbe => rfl
  | touch now => rfl
  | destroy => rfl
  | trip reason now => rfl
  | startProbing now => rfl
  | reopen reason now => rfl
  | recover now => rfl

/-- **No run faults**: it comes to what the run of the circuit comes to. -/
theorem checkedRun_eq (h : c.OnRings count) (ops : List Op) : c.checkedRun ops = .ok (c.run ops) := by
  induction ops generalizing c with
  | nil => rfl
  | cons op rest ih =>
      have hnext : (c.step op).1.OnRings count := h.run [op]
      unfold checkedRun
      rw [checkedStep_eq h]
      simp only [bind, Except.bind, ih hnext]
      rfl

end Circuit

end CircuitBreaker

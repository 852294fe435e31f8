import CircuitBreaker.Proofs.Circuit.Effect
import CircuitBreaker.Proofs.RuleStore
import CircuitBreaker.Proofs.Transparency

/-!
# `Proofs.Circuit.Bare` — revisions are only book-keeping

A rule carries the revision that it was loaded under, and a circuit carries its rule. A store draws its
revisions one after the other, so what is loaded for one service shows in the revisions of all others.
Nothing else may.

`bare` takes the revision away, and every function on rules and circuits commutes with it: which rule
governs a resource (`governing_bare`), what a report does to a circuit and tells (`report_bare`), and so for
the passing of time (`evaluate_bare`) and for slots (`acquireProbe?_bare`).
-/

namespace CircuitBreaker

/-! ## Rules -/

namespace Rule

/-- The rule without the revision that it came with. -/
def bare (r : Rule) : Rule := { r with revision := "" }

/-- Two rules are the same or not, whatever their revisions. -/
theorem sameAs_bare (a b : Rule) : a.bare.sameAs b = a.sameAs b := rfl

theorem sameItems_bare (as bs : List Rule) :
    sameItems sameAs (as.map bare) bs = sameItems sameAs as bs := by
  induction as generalizing bs with
  | nil => rfl
  | cons a rest ih =>
      cases bs with
      | nil => rfl
      | cons b more => simp only [List.map_cons, sameItems, sameAs_bare, ih]

/-- Stamping is undone. -/
theorem bare_stamp (revision : String) (rules : List Rule) :
    (RuleStore.stamp revision rules).map bare = rules.map bare := by
  simp [RuleStore.stamp, bare]

theorem applies_bare (f : Compiler) (r : Rule) (resource : Resource) (caller : Option ServiceKey) :
    r.bare.applies f resource caller = r.applies f resource caller := rfl

theorem blocksFor_bare (f : Compiler) (r : Rule) (resource : Resource) :
    r.bare.blocksFor f resource = r.blocksFor f resource := rfl

end Rule

namespace Resolution

theorem mostSpecific?_bare (rules : List Rule) :
    mostSpecific? (rules.map Rule.bare) = (mostSpecific? rules).map Rule.bare := by
  induction rules with
  | nil => rfl
  | cons r rest ih =>
      simp only [List.map_cons, mostSpecific?, ih]
      cases mostSpecific? rest with
      | none => rfl
      | some s =>
          -- how specific a rule is does not depend on its revision either
          rw [Option.map_some, apply_ite (Option.map Rule.bare)]
          rfl

/-- **The rule that governs a resource** is the same under every revision. -/
theorem governing_bare (f : Compiler) (p : Precedence) (resource : Resource)
    (caller : Option ServiceKey) (rules : List Rule) :
    governing f p resource caller (rules.map Rule.bare) =
      (governing f p resource caller rules).map Rule.bare := by
  have hsame : (fun r => Rule.applies f r resource caller) ∘ Rule.bare =
      fun r => Rule.applies f r resource caller :=
    funext fun r => Rule.applies_bare f r resource caller
  cases p with
  | firstMatch =>
      unfold governing
      rw [List.find?_map, hsame]
  | mostSpecific =>
      unfold governing
      simp only
      rw [List.filter_map, hsame, mostSpecific?_bare]

end Resolution

/-! ## Circuits -/

namespace Circuit

/-- The circuit without the revision of its rule. -/
def bare (c : Circuit) : Circuit := { c with rule := c.rule.bare }

@[simp]
theorem phase_bare (c : Circuit) : c.bare.phase = c.phase := rfl

theorem enter_bare (c : Circuit) (target : Phase) (reason : String) (now : Nat) :
    c.bare.enter target reason now = (c.enter target reason now).bare := by
  cases target <;> rfl

/-- What comes of an operation, with the circuit bare. -/
def bareResult {α : Type} (r : Circuit × α) : Circuit × α := (r.1.bare, r.2)

theorem move_bare (c : Circuit) (source target : Phase) (reason : String) (now : Nat) :
    c.bare.move source target reason now = bareResult (c.move source target reason now) := by
  unfold move
  rw [phase_bare]
  split
  · simp only [enter_bare]
    rfl
  · rfl

theorem reportClosed_bare (c : Circuit) (o : Outcome) (now : Nat) :
    c.bare.reportClosed o now = bareResult (c.reportClosed o now) := by
  simp only [reportClosed, show c.bare.blocks = c.blocks from rfl]
  cases (recordAll c.blocks now o).2 with
  | none => rfl
  | some reason => exact move_bare { c with blocks := (recordAll c.blocks now o).1 } _ _ reason now

theorem reportProbe_bare (c : Circuit) (o : Outcome) (now : Nat) :
    c.bare.reportProbe o now = bareResult (c.reportProbe o now) := by
  simp only [reportProbe, show c.bare.blocks = c.blocks from rfl, show c.bare.probe = c.probe from rfl]
  generalize (c.blocks.find? fun b => b.isProbeFailure o) = failure
  cases (c.probe.finish failure.isNone).2 with
  | pending => rfl
  | close => exact move_bare { c with probe := (c.probe.finish failure.isNone).1 } _ _ _ now
  | reopen => exact move_bare { c with probe := (c.probe.finish failure.isNone).1 } _ _ _ now

theorem report_bare (c : Circuit) (o : Outcome) (now : Nat) :
    c.bare.report o now = bareResult (c.report o now) := by
  unfold report
  by_cases hskip : (c.isDestroyed || o.verdict == .reject) = true
  · rw [if_pos hskip, if_pos (show (c.bare.isDestroyed || o.verdict == .reject) = true from hskip)]
    rfl
  · rw [if_neg hskip, if_neg (show ¬(c.bare.isDestroyed || o.verdict == .reject) = true from hskip)]
    simp only [phase_touch, phase_bare]
    cases c.phase with
    | closed => exact reportClosed_bare (c.touch now) o now
    | halfOpen => exact reportProbe_bare (c.touch now) o now
    | opened => rfl
    | destroyed => rfl

theorem evaluate_bare (c : Circuit) (now : Nat) :
    c.bare.evaluate now = bareResult (c.evaluate now) := by
  simp only [evaluate, phase_bare]
  cases c.phase with
  | closed =>
      simp only [show c.bare.check now = c.check now from rfl]
      cases c.check now with
      | none => rfl
      | some reason => exact move_bare c _ _ reason now
  | opened =>
      simp only [show c.bare.hasSlept now = c.hasSlept now from rfl]
      split
      · exact move_bare c _ _ _ now
      · rfl
  | halfOpen =>
      have hlost : c.bare.releaseLost now = (c.releaseLost now).bare := by
        unfold releaseLost
        simp only [show c.bare.probeDeadline = c.probeDeadline from rfl,
          show c.bare.probe = c.probe from rfl]
        split <;> rfl
      simp only [hlost]
      rfl
  | destroyed => rfl

theorem acquireProbe?_bare (c : Circuit) : c.bare.acquireProbe? = c.acquireProbe?.map bare := by
  unfold acquireProbe?
  simp only [phase_bare, show c.bare.probe = c.probe from rfl]
  split
  · rw [Option.map_map]
    rfl
  · rfl

end Circuit

end CircuitBreaker

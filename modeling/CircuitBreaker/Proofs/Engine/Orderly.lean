import CircuitBreaker.Proofs.Engine.Effect

/-!
# `Proofs.Engine.Orderly` — what holds of every engine at all times

Wherever an engine takes its rules from, fixed or from a store that it may or may not hear of, three
things stay true of it. The compiled patterns are those that the compiler gives, the cache is tidy, and
an engine that does no work has nothing in its cache (`Engine.IsOrderly`). One lemma shows this of one
operation (`isOrderly_step`), and by induction it holds after every run of an engine that was built
(`isOrderly_run_build?`).
-/

namespace CircuitBreaker.Engine

/-- **An engine is orderly** if its patterns and its cache are what its operations rely on. -/
structure IsOrderly (e : Engine) : Prop where
  patterns : e.patterns.Faithful e.compile
  cache : e.cache.IsTidy
  idle : e.isActive = false → e.cache.entries = []

variable {e d : Engine} {now : Nat}

/-! ## One operation -/

theorem isActive_eq_false_iff :
    e.isActive = false ↔ e.config.enabled = false ∨ e.isDestroyed = true := by
  simp [isActive, imp_iff_not_or]

/-- An engine with a circuit does its work. -/
theorem IsOrderly.isActive_of_circuit? (h : e.IsOrderly) {r : Resource} {c : Circuit}
    (hc : e.cache.circuit? r = some c) : e.isActive = true := by
  obtain ⟨x, hx, _⟩ := CircuitCache.exists_of_circuit? h.cache.isPlaced hc
  by_contra hactive
  rw [h.idle (by simpa using hactive)] at hx
  cases hx

theorem isOrderly_build? {setup : EngineSetup} (h : build? setup now = .ok e) : e.IsOrderly := by
  obtain ⟨_, rfl⟩ := eq_of_build? h
  exact ⟨PatternCache.faithful_ofCapacity _ _, CircuitCache.isTidy_empty, fun _ => rfl⟩

/-- What comes later is as orderly. -/
theorem IsOrderly.later (h : e.IsOrderly) (hl : e.Later d) : d.IsOrderly := by
  have hconfig : d.config = e.config := congrArg EngineSetup.config hl.setup
  have hcompile : d.compile = e.compile := congrArg EngineSetup.compile hl.setup
  refine ⟨?_, hl.cache.isTidy, fun hidle => ?_⟩
  · rw [hl.patterns, hcompile]
    exact h.patterns
  · rcases isActive_eq_false_iff.mp hidle with hoff | hd
    · rw [hconfig] at hoff
      exact hl.cache.entries_eq_nil (h.idle (isActive_eq_false_iff.mpr (Or.inl hoff)))
    · rcases hl.destroyed hd with he | hempty
      · exact hl.cache.entries_eq_nil (h.idle (isActive_eq_false_iff.mpr (Or.inr he)))
      · exact hempty

/-- Getting an entry keeps an engine that does its work in order. -/
theorem IsOrderly.informed (h : e.IsOrderly) (hactive : e.isActive = true) (o : Outcome)
    (now : Nat) : (e.informed o now).IsOrderly := by
  cases hfind : e.cache.find? o.resource with
  | some x => exact h.later (later_informed h.cache hfind now)
  | none =>
      obtain ⟨_, hpatterns, _⟩ := newCircuit?_spec h.patterns o.resource o.caller now
      have htidy : (e.informed o now).cache.IsTidy := isTidy_informed h.patterns h.cache hfind
      rw [informed_of_absent hfind] at htidy ⊢
      refine ⟨hpatterns, htidy, fun hidle => ?_⟩
      exact absurd (hactive.symm.trans hidle) (by simp)

theorem isOrderly_report (h : e.IsOrderly) (o : Outcome) (now : Nat) :
    (e.report o now).engine.IsOrderly := by
  by_cases hactive : e.isActive = true
  · have hinformed := h.informed hactive o now
    exact hinformed.later (later_report hactive hinformed.cache)
  · unfold report
    rw [if_neg hactive]
    exact h

/-- Hearing of a change removes entries, if it does anything. -/
theorem later_hear (h : e.cache.IsTidy) (change : Option RuleChange) :
    Later e (e.hear change).1 := by
  unfold hear
  cases change with
  | none => exact .refl h
  | some change =>
      simp only
      split
      · exact later_ruleChanged h _
      · exact .refl h

/-- It does not matter to the order where the rules come from. -/
theorem IsOrderly.hear (h : e.IsOrderly) (source : RuleSource) (change : Option RuleChange) :
    (({ e with source } : Engine).hear change).1.IsOrderly := by
  have hnew : IsOrderly { e with source } := ⟨h.patterns, h.cache, h.idle⟩
  exact hnew.later (later_hear hnew.cache change)

/-- **Every operation keeps an engine in order.** -/
theorem isOrderly_step (h : e.IsOrderly) (op : Op) : (e.step op).1.IsOrderly := by
  cases op with
  | report o now =>
      simp only [step, Answer.ofReply_engine]
      exact isOrderly_report h o now
  | reportSeen o now =>
      simp only [step, Answer.ofReply_engine]
      exact isOrderly_report h o (min o.timestamp now)
  | check r => exact h
  | acquire r now =>
      simp only [step, Answer.ofReply_engine]
      exact h.later (later_acquire h.cache r now)
  | tick now => exact h.later (later_tick h.cache now)
  | cleanup now => exact h.later (later_cleanup h.cache now)
  | ruleChanged service => exact h.later (later_ruleChanged h.cache service)
  | load service rules => exact h.hear (e.source.load service rules).1 _
  | clear service => exact h.hear (e.source.clear service).1 _
  | destroy => exact h.later (later_destroy h.cache)

theorem isOrderly_run (h : e.IsOrderly) (ops : List Op) : (e.run ops).1.IsOrderly := by
  induction ops generalizing e with
  | nil => exact h
  | cons op rest ih => exact ih (isOrderly_step h op)

/-- **Every engine that can be reached is orderly.** -/
theorem isOrderly_run_build? {setup : EngineSetup} (h : build? setup now = .ok e) (ops : List Op) :
    (e.run ops).1.IsOrderly :=
  isOrderly_run (isOrderly_build? h) ops

/-! ## What never changes -/

/-- Whether an engine is like another but for its rules. -/
def SameSetup (e d : Engine) : Prop := d.toEngineSetup = { e.toEngineSetup with source := d.source }

theorem SameSetup.of_later (hl : e.Later d) : SameSetup e d := by
  unfold SameSetup
  rw [hl.setup]

theorem SameSetup.trans {b : Engine} (hbe : SameSetup b e) (hed : SameSetup e d) :
    SameSetup b d := by
  unfold SameSetup at hed ⊢
  rw [hed, hbe]

theorem SameSetup.config (h : SameSetup e d) : d.config = e.config := by
  unfold SameSetup at h
  rw [h]

theorem SameSetup.compile (h : SameSetup e d) : d.compile = e.compile := by
  unfold SameSetup at h
  rw [h]

theorem SameSetup.listeners (h : SameSetup e d) : d.listeners = e.listeners := by
  unfold SameSetup at h
  rw [h]

theorem sameSetup_report (h : e.IsOrderly) (o : Outcome) (now : Nat) :
    SameSetup e (e.report o now).engine := by
  by_cases hactive : e.isActive = true
  · exact SameSetup.trans (e := e.informed o now) rfl
      (.of_later (later_report hactive (h.informed hactive o now).cache))
  · unfold report
    rw [if_neg hactive]
    rfl

theorem sameSetup_hear (source : RuleSource) (change : Option RuleChange) :
    SameSetup e (({ e with source } : Engine).hear change).1 := by
  unfold hear
  cases change with
  | none => rfl
  | some change =>
      simp only
      split
      · unfold ruleChanged
        split <;> rfl
      · rfl

/-- **No operation changes the settings**, nor the precedence, the listeners or the compiler. -/
theorem sameSetup_step (h : e.IsOrderly) (op : Op) : SameSetup e (e.step op).1 := by
  cases op with
  | report o now =>
      simp only [step, Answer.ofReply_engine]
      exact sameSetup_report h o now
  | reportSeen o now =>
      simp only [step, Answer.ofReply_engine]
      exact sameSetup_report h o (min o.timestamp now)
  | check r => rfl
  | acquire r now =>
      simp only [step, Answer.ofReply_engine]
      exact .of_later (later_acquire h.cache r now)
  | tick now => exact .of_later (later_tick h.cache now)
  | cleanup now => exact .of_later (later_cleanup h.cache now)
  | ruleChanged service => exact .of_later (later_ruleChanged h.cache service)
  | load service rules => exact sameSetup_hear (e.source.load service rules).1 _
  | clear service => exact sameSetup_hear (e.source.clear service).1 _
  | destroy => exact .of_later (later_destroy h.cache)

theorem sameSetup_run (h : e.IsOrderly) (ops : List Op) : SameSetup e (e.run ops).1 := by
  induction ops generalizing e with
  | nil => rfl
  | cons op rest ih => exact (sameSetup_step h op).trans (ih (isOrderly_step h op))

end CircuitBreaker.Engine

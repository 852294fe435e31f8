import CircuitBreaker.Proofs.CircuitCache.Share
import CircuitBreaker.Proofs.Engine.News
import CircuitBreaker.Proofs.RuleSource

/-!
# `Proofs.Engine.Similar` — engines that look the same to a service

Two engines are **similar** for a service if they have the same settings, as far as these can show; if
they agree on the rules of the service; and if its share is the same in both caches. What else they
hold, of other services or for speed, may differ.

Each function of the engine is looked at twice. On a resource of the service, similar engines stay
similar and give the same answers and news. On a resource of another service, an engine stays similar to
what it was.

## Contents
- `EngineSetup.AgreeOn`, `Engine.Similar`: the relation, an equivalence.
- `Similar.mapCircuits`, `similar_mapCircuits_of_other`: changes of circuits.
- `Similar.informed`, `similar_informed_of_other`: new entries, under the rules of the service.
- `Similar.reportNews`, `Similar.wakeNews`, `Similar.evaluateNews`, `Similar.verdict`: what is read off.
-/

namespace CircuitBreaker

/-- The settings without the one that has no effect but speed. -/
def Config.bare (c : Config) : Config := { c with patternCapacity := 0 }

/-- **Two setups agree on a service**: settings and rules are the same as far as they concern it, and the
    listeners do the same over changes of its resources. -/
structure EngineSetup.AgreeOn (service : ServiceKey) (s t : EngineSetup) : Prop where
  config : s.config.bare = t.config.bare
  precedence : s.precedence = t.precedence
  compile : s.compile = t.compile
  listeners : ∀ u : Transition, u.resource.key = service → deliver s.listeners u = deliver t.listeners u
  source : s.source.AgreeOn service t.source

namespace EngineSetup.AgreeOn

variable {service : ServiceKey} {s t u : EngineSetup}

theorem refl (service : ServiceKey) (s : EngineSetup) : s.AgreeOn service s :=
  ⟨rfl, rfl, rfl, fun _ _ => rfl, .refl service s.source⟩

theorem symm (h : AgreeOn service s t) : AgreeOn service t s :=
  ⟨h.config.symm, h.precedence.symm, h.compile.symm, fun x hx => (h.listeners x hx).symm,
    h.source.symm⟩

theorem trans (h : AgreeOn service s t) (hu : AgreeOn service t u) : AgreeOn service s u :=
  ⟨h.config.trans hu.config, h.precedence.trans hu.precedence, h.compile.trans hu.compile,
    fun x hx => (h.listeners x hx).trans (hu.listeners x hx), h.source.trans hu.source⟩

end EngineSetup.AgreeOn

namespace Engine

/-- **Two engines are similar for a service.** -/
structure Similar (service : ServiceKey) (e d : Engine) : Prop where
  setup : e.toEngineSetup.AgreeOn service d.toEngineSetup
  cache : e.cache.Alike service d.cache
  lastSweep : e.lastSweep = d.lastSweep
  isDestroyed : e.isDestroyed = d.isDestroyed

variable {service : ServiceKey} {e d : Engine} {r : Resource} {o : Outcome} {now : Nat}

namespace Similar

theorem refl (service : ServiceKey) (e : Engine) : Similar service e e :=
  ⟨.refl service _, fun _ => rfl, rfl, rfl⟩

theorem symm (h : Similar service e d) : Similar service d e :=
  ⟨h.setup.symm, fun l => (h.cache l).symm, h.lastSweep.symm, h.isDestroyed.symm⟩

theorem trans {b : Engine} (h : Similar service b e) (hd : Similar service e d) :
    Similar service b d :=
  ⟨h.setup.trans hd.setup, fun l => (h.cache l).trans (hd.cache l), h.lastSweep.trans hd.lastSweep,
    h.isDestroyed.trans hd.isDestroyed⟩

/-! ## Settings -/

/-- A setting other than the capacity is the same. -/
theorem setting {α : Type} (h : Similar service e d) (f : Config → α)
    (hf : ∀ c : Config, f c = f c.bare) : f e.config = f d.config := by
  rw [hf e.config, hf d.config, h.setup.config]

theorem isActive (h : Similar service e d) : e.isActive = d.isActive := by
  have henabled : e.config.enabled = d.config.enabled := h.setting Config.enabled fun _ => rfl
  unfold Engine.isActive
  rw [henabled, h.isDestroyed]

theorem settings (h : Similar service e d) : e.settings = d.settings := by
  have hbuckets : e.config.bucketCount = d.config.bucketCount :=
    h.setting Config.bucketCount fun _ => rfl
  have hprobes : e.config.probes = d.config.probes := h.setting Config.probes fun _ => rfl
  unfold Engine.settings
  rw [hbuckets, hprobes]

theorem expireInterval (h : Similar service e d) :
    e.config.expireInterval = d.config.expireInterval :=
  h.setting Config.expireInterval fun _ => rfl

/-- The listeners do the same over a change of the service. -/
theorem deliverAny (h : Similar service e d) {change : Option Transition}
    (hchange : ∀ t ∈ change, t.resource.key = service) :
    deliverAny e.listeners change = CircuitBreaker.deliverAny d.listeners change := by
  cases change with
  | none => rfl
  | some t => exact h.setup.listeners t (hchange t rfl)

/-- **The same change gets the same answer.** -/
theorem tell (h : Similar service e d) {change : Option Transition}
    (hchange : ∀ t ∈ change, t.resource.key = service) :
    (e.tell change).result = (d.tell change).result := by
  unfold Engine.tell
  rw [h.deliverAny hchange]

/-! ## Circuits -/

/-- **A change of circuits** that does not depend on revisions keeps engines similar. -/
theorem mapCircuits (h : Similar service e d) {f : Resource → Circuit → Circuit}
    (hf : ∀ r, r.key = service → ∀ c, (f r c).bare = f r c.bare) :
    Similar service (e.mapCircuits f) (d.mapCircuits f) :=
  ⟨h.setup, h.cache.mapCircuits hf, h.lastSweep, h.isDestroyed⟩

/-- The same for a change of the circuits of some resources. -/
theorem mapCircuits_onAll (h : Similar service e d) (rs : List Resource) {f : Circuit → Circuit}
    (hf : ∀ c, (f c).bare = f c.bare) :
    Similar service (e.mapCircuits (onAll rs f)) (d.mapCircuits (onAll rs f)) := by
  refine h.mapCircuits fun r _ c => ?_
  unfold onAll
  split
  · exact hf c
  · rfl

theorem circuit? (h : Similar service e d) (hr : r.key = service) :
    (e.cache.circuit? r).map Circuit.bare = (d.cache.circuit? r).map Circuit.bare :=
  h.cache.circuit? hr

end Similar

/-- What does not depend on the revision of a circuit is the same for similar circuits. -/
theorem bind_of_bare {α : Type} {x y : Option Circuit} (h : x.map Circuit.bare = y.map Circuit.bare)
    {f : Circuit → Option α} (hf : ∀ c, f c.bare = f c) : x.bind f = y.bind f := by
  have hbare (z : Option Circuit) : z.bind f = (z.map Circuit.bare).bind f := by
    cases z with
    | none => rfl
    | some c => exact (hf c).symm
  rw [hbare x, hbare y, h]

namespace Similar

/-- **Similar engines have the same news** of a resource when it is evaluated. -/
theorem evaluateNews (h : Similar service e d) (hr : r.key = service) (now : Nat) :
    e.evaluateNews r now = d.evaluateNews r now :=
  bind_of_bare (h.circuit? hr) fun c => by rw [c.evaluate_bare]; rfl

theorem wakeNews (h : Similar service e d) (hr : r.key = service) (now : Nat) :
    e.wakeNews r now = d.wakeNews r now := by
  refine bind_of_bare (h.circuit? hr) fun c => ?_
  rw [c.evaluate_bare]
  rfl

end Similar

/-- A change of the circuits of other services does not show. -/
theorem similar_mapCircuits_of_other (e : Engine) {f : Resource → Circuit → Circuit}
    (hf : ∀ r, r.key = service → ∀ c, f r c = c) : Similar service e (e.mapCircuits f) :=
  ⟨.refl service _, fun _ => (CircuitCache.share_mapCircuits_of_other hf).symm, rfl, rfl⟩

theorem similar_mapCircuits_onAll_of_other (e : Engine) {rs : List Resource}
    (hrs : ∀ r ∈ rs, r.key ≠ service) (f : Circuit → Circuit) :
    Similar service e (e.mapCircuits (onAll rs f)) :=
  similar_mapCircuits_of_other e fun r hr c => onAll_of_not_mem (fun hmem => hrs r hmem hr) c

/-! ## New entries -/

/-- The rules of a service decide on its resources, whatever their revisions. -/
theorem Similar.decision (h : Similar service e d) (hr : r.key = service)
    (caller : Option ServiceKey) :
    (e.decision r caller).map (fun a => (a.1.bare, a.2)) =
      (d.decision r caller).map fun a => (a.1.bare, a.2) := by
  -- the decision as one on the rules without revisions
  have hbare (b : Engine) : (b.decision r caller).map (fun a => (a.1.bare, a.2)) =
      (((b.source.bareRules? r.key).bind
        (Resolution.governing b.compile b.precedence r caller)).bind fun rule =>
          let blocks := rule.blocksFor b.compile r
          blocks.head?.map fun _ => (rule, blocks)) := by
    unfold Engine.decision RuleSource.bareRules?
    cases b.source.rules? r.key with
    | none => rfl
    | some rules =>
        simp only [Option.bind_some, Option.map_some, Resolution.governing_bare]
        cases Resolution.governing b.compile b.precedence r caller rules with
        | none => rfl
        | some rule =>
            simp only [Option.map_some, Option.bind_some, Rule.blocksFor_bare]
            cases rule.blocksFor b.compile r <;> rfl
  rw [hbare, hbare, hr, h.setup.source.rules, h.setup.compile, h.setup.precedence]

/-- **Similar engines make the same circuit** for a resource of the service, revisions aside. -/
theorem Similar.newCircuit? (h : Similar service e d) (he : e.patterns.Faithful e.compile)
    (hd : d.patterns.Faithful d.compile) (hr : r.key = service) (caller : Option ServiceKey)
    (now : Nat) :
    (e.newCircuit? r caller now (e.patterns, e.source)).1.map Circuit.bare =
      (d.newCircuit? r caller now (d.patterns, d.source)).1.map Circuit.bare := by
  -- the circuit as one of the rule without its revision
  have hbuild (b : Engine) (hb : b.patterns.Faithful b.compile) :
      (b.newCircuit? r caller now (b.patterns, b.source)).1.map Circuit.bare =
        ((b.decision r caller).map fun a => (a.1.bare, a.2)).bind fun a =>
          ((Block.ofRules? b.compile b.settings.buckets a.2).map
            (Circuit.fresh b.settings r a.1 now)).toOption := by
    rw [(newCircuit?_spec hb r caller now).1]
    cases b.decision r caller with
    | none => rfl
    | some a =>
        have hblocks := (Block.answers_buildAll? b.compile b.settings.buckets a.2 _ hb).1
        simp only [Option.map_some, Option.bind_some, Circuit.build?_fst, hblocks]
        cases Block.ofRules? b.compile b.settings.buckets a.2 <;> rfl
  rw [hbuild e he, hbuild d hd, h.decision hr, h.settings, h.setup.compile]

/-- **Similar engines stay similar** when a resource of the service gets its entry. -/
theorem Similar.informed (h : Similar service e d) (he : e.IsOrderly) (hd : d.IsOrderly)
    (hr : o.resource.key = service) (now : Nat) :
    Similar service (e.informed o now) (d.informed o now) := by
  have hfind := h.cache.find? hr
  cases hx : e.cache.find? o.resource with
  | some x =>
      rw [hx] at hfind
      obtain ⟨y, hy, _⟩ := Option.map_eq_some_iff.mp hfind.symm
      rw [informed_of_present hx, informed_of_present hy]
      exact ⟨h.setup, h.cache.touch he.cache hd.cache o.resource now, h.lastSweep, h.isDestroyed⟩
  | none =>
      rw [hx] at hfind
      have hy : d.cache.find? o.resource = none := Option.map_eq_none_iff.mp hfind.symm
      rw [informed_of_absent hx, informed_of_absent hy]
      obtain ⟨_, _, hasked⟩ := newCircuit?_spec he.patterns o.resource o.caller now
      obtain ⟨_, _, hdasked⟩ := newCircuit?_spec hd.patterns o.resource o.caller now
      rw [hasked, hdasked]
      have hmade := h.newCircuit? he.patterns hd.patterns hr o.caller now
      refine ⟨⟨h.setup.config, h.setup.precedence, h.setup.compile, h.setup.listeners, ?_⟩,
        h.cache.insert o.resource now hmade, h.lastSweep, h.isDestroyed⟩
      exact (RuleSource.agreeOn_asked service e.source).symm.trans
        (h.setup.source.trans (RuleSource.agreeOn_asked service d.source))

/-- A new entry of another service does not show. -/
theorem similar_informed_of_other (he : e.IsOrderly) (hr : o.resource.key ≠ service) (now : Nat) :
    Similar service e (e.informed o now) := by
  cases hx : e.cache.find? o.resource with
  | some x =>
      rw [informed_of_present hx]
      exact ⟨.refl service _, fun l => (CircuitCache.share_touch_of_other he.cache hr).symm, rfl, rfl⟩
  | none =>
      rw [informed_of_absent hx]
      obtain ⟨_, _, hasked⟩ := newCircuit?_spec he.patterns o.resource o.caller now
      rw [hasked]
      refine ⟨⟨rfl, rfl, rfl, fun _ _ => rfl, RuleSource.agreeOn_asked service e.source⟩,
        fun l => ?_, rfl, rfl⟩
      rw [CircuitCache.share_insert, if_neg fun hl => hr hl.2]

/-- **Similar engines have the same news** of an outcome. -/
theorem Similar.reportNews (h : Similar service (e.informed o now) (d.informed o now))
    (hr : o.resource.key = service) : e.reportNews o now = d.reportNews o now :=
  bind_of_bare (h.circuit? hr) fun c => by rw [c.report_bare]; rfl

/-! ## Permissions and questions -/

/-- The circuits that guard a resource belong to its service. -/
theorem Similar.guards (h : Similar service e d) (hr : r.key = service) :
    (e.guards r).map Circuit.bare = (d.guards r).map Circuit.bare := by
  unfold Engine.guards
  rw [List.map_filterMap, List.map_filterMap]
  refine List.filterMap_congr fun s hs => h.circuit? ?_
  rcases List.mem_cons.mp hs with rfl | hparent
  · exact hr
  · exact (Resource.key_of_mem_parents hparent).trans hr

/-- **Similar engines give the same permission.** -/
theorem Similar.verdict (h : Similar service e d) (hr : r.key = service) :
    e.verdict r = d.verdict r := by
  have hopened : (fun c : Circuit => c.phase == .opened) ∘ Circuit.bare =
      fun c => c.phase == .opened := rfl
  have hfull : Circuit.isFull ∘ Circuit.bare = Circuit.isFull := by
    funext c
    unfold Circuit.isFull
    rw [Function.comp_apply, Circuit.acquireProbe?_bare, Option.isNone_map]
    rfl
  -- the verdict as one on the circuits without revisions
  have hbare (b : Engine) : b.verdict r =
      (((b.guards r).map Circuit.bare).find? fun c => c.phase == .opened).elim
        ((((b.guards r).map Circuit.bare).find? Circuit.isFull).elim {} fun c =>
          .refused c.rule.name c.rule.fallback?)
        fun c => .refused c.status.rule c.status.fallback := by
    unfold Engine.verdict
    rw [List.find?_map, List.find?_map, hopened, hfull]
    cases (b.guards r).find? fun c => c.phase == .opened with
    | some c => rfl
    | none => cases (b.guards r).find? Circuit.isFull <;> rfl
  rw [hbare, hbare, h.guards hr]

/-- **Similar engines give the same status.** -/
theorem Similar.statusOf (h : Similar service e d) (hr : r.key = service) :
    e.statusOf r = d.statusOf r := by
  have hbare (b : Engine) : b.statusOf r =
      if b.isActive then
        ((b.guards r).map Circuit.bare).head?.elim .untracked Circuit.currentStatus
      else .untracked := by
    unfold Engine.statusOf
    cases b.guards r <;> rfl
  rw [hbare, hbare, h.guards hr, h.isActive]

/-! ## Removing -/

theorem Similar.sweep (h : Similar service e d) (now : Nat) :
    Similar service (e.sweep now).1 (d.sweep now).1 := by
  unfold Engine.sweep
  rw [h.expireInterval]
  exact ⟨h.setup, h.cache.removeWhere fun _ => rfl, h.lastSweep, h.isDestroyed⟩

theorem Similar.sweepIfDue (h : Similar service e d) (now : Nat) :
    Similar service (e.sweepIfDue now) (d.sweepIfDue now) := by
  have hperiod : e.sweepPeriod = d.sweepPeriod := by
    unfold Engine.sweepPeriod
    rw [h.expireInterval]
  unfold Engine.sweepIfDue
  rw [h.lastSweep, hperiod]
  split
  · have hnow : Similar service { e with lastSweep := now } { d with lastSweep := now } :=
      ⟨h.setup, h.cache, rfl, h.isDestroyed⟩
    exact hnow.sweep now
  · exact h

theorem Similar.destroy (h : Similar service e d) : Similar service e.destroy d.destroy := by
  unfold Engine.destroy
  rw [h.isDestroyed]
  split
  · exact h
  · exact ⟨h.setup, h.cache.removeWhere fun _ => rfl, h.lastSweep, rfl⟩

theorem Similar.ruleChanged (h : Similar service e d) :
    Similar service (e.ruleChanged service).1 (d.ruleChanged service).1 ∧
      (e.ruleChanged service).2 = (d.ruleChanged service).2 := by
  unfold Engine.ruleChanged
  rw [h.isDestroyed]
  split
  · exact ⟨h, rfl⟩
  · exact ⟨⟨h.setup, h.cache.removeWhere fun _ => rfl, h.lastSweep, rfl⟩, h.cache.removeService⟩

theorem similar_ruleChanged_of_other {other : ServiceKey} (e : Engine) (hne : other ≠ service) :
    Similar service e (e.ruleChanged other).1 := by
  unfold Engine.ruleChanged
  split
  · exact .refl service e
  · exact ⟨.refl service _, fun _ => (CircuitCache.share_removeService_of_other hne).symm, rfl, rfl⟩

/-! ## Rules -/

/-- Hearing of a change of the service keeps engines similar. -/
theorem Similar.hear (h : Similar service e d) {x y : Option RuleChange}
    (hxy : x.isSome = y.isSome) (hx : ∀ told ∈ x, told.service = service)
    (hy : ∀ told ∈ y, told.service = service) :
    Similar service (e.hear x).1 (d.hear y).1 ∧ (e.hear x).2 = (d.hear y).2 := by
  cases x with
  | none =>
      cases y with
      | none => exact ⟨h, rfl⟩
      | some told => cases hxy
  | some told =>
      cases y with
      | none => cases hxy
      | some heard =>
          refine ⟨?_, rfl⟩
          simp only [Engine.hear, hx told rfl, hy heard rfl, h.setup.source.isSubscribed]
          split
          · exact h.ruleChanged.1
          · exact h

theorem similar_hear_of_other {other : ServiceKey} (e : Engine) (hne : other ≠ service)
    {x : Option RuleChange} (hx : ∀ told ∈ x, told.service = other) :
    Similar service e (e.hear x).1 := by
  cases x with
  | none => exact .refl service e
  | some told =>
      simp only [Engine.hear, hx told rfl]
      split
      · exact similar_ruleChanged_of_other e hne
      · exact .refl service e

/-- Other rules, of which the sources agree. -/
theorem Similar.withSource (h : Similar service e d) {s t : RuleSource} (hst : s.AgreeOn service t) :
    Similar service { e with source := s } { d with source := t } :=
  ⟨⟨h.setup.config, h.setup.precedence, h.setup.compile, h.setup.listeners, hst⟩, h.cache,
    h.lastSweep, h.isDestroyed⟩

end Engine

end CircuitBreaker

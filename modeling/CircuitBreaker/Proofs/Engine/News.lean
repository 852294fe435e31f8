import CircuitBreaker.Proofs.Engine.Orderly
import CircuitBreaker.Proofs.Engine.Permission

/-!
# `Proofs.Engine.News` — what the listeners are told

An operation on an engine tells the listeners of every change of phase that it makes, each with the
resource that it is about. `Engine.news` lists these changes, in order: those of a report or of one
circuit after the other, and for a permission those up to the first over which a listener fails.

The list is complete: what an operation leaves behind with the listeners is what they leave behind over
the changes in it (`notices_step`). And an operation on the resources of one service is news of that
service only (`key_of_mem_news`).
-/

namespace CircuitBreaker.Engine

/-- The service whose resources or rules an operation is on; there is none for those on all. -/
def Op.service? : Op → Option ServiceKey
  | .report o _ => some o.resource.key
  | .reportSeen o _ => some o.resource.key
  | .check r => some r.key
  | .acquire r _ => some r.key
  | .ruleChanged service => some service
  | .load service _ => some service
  | .clear service => some service
  | .tick _ => none
  | .cleanup _ => none
  | .destroy => none

/-- The changes of phase that an operation tells the listeners, in order. -/
def news (e : Engine) (op : Op) : List Transition :=
  if e.isActive then
    match op with
    | .report o now => (e.reportNews o now).toList
    | .reportSeen o now => (e.reportNews o (min o.timestamp now)).toList
    | .acquire r now => (e.woken now (r :: r.parents)).filterMap fun s => e.wakeNews s now
    | .tick now => e.cache.trackedResources.filterMap fun s => e.evaluateNews s now
    | _ => []
  else
    []

variable {e : Engine} {op : Op} {r : Resource} {now : Nat}

/-! ## Nothing is left out -/

/-- What listeners leave behind over some changes, one after the other. -/
def noticesOf (ls : List Listener) (changes : List Transition) : List Notice :=
  changes.flatMap fun t => (deliver ls t).notices

theorem noticesOf_toList (ls : List Listener) (change : Option Transition) :
    noticesOf ls change.toList = (deliverAny ls change).notices := by
  cases change with
  | none => rfl
  | some t => exact List.append_nil _

/-- Resources without news do not count. -/
theorem noticesOf_filterMap (ls : List Listener) (f : Resource → Option Transition)
    (rs : List Resource) :
    noticesOf ls (rs.filterMap f) = rs.flatMap fun r => (deliverAny ls (f r)).notices := by
  induction rs with
  | nil => rfl
  | cons r rest ih =>
      rw [List.flatMap_cons, ← ih]
      cases hr : f r with
      | none => rw [List.filterMap_cons_none hr]; rfl
      | some t => rw [List.filterMap_cons_some hr]; rfl

theorem notices_report (h : e.IsOrderly) (o : Outcome) (now : Nat) :
    (e.report o now).notices =
      noticesOf e.listeners (if e.isActive then (e.reportNews o now).toList else []) := by
  by_cases hactive : e.isActive = true
  · rw [report_eq hactive (h.informed hactive o now).cache, if_pos hactive, noticesOf_toList]
    rfl
  · unfold report
    rw [if_neg hactive, if_neg hactive]
    rfl

theorem notices_acquire (h : e.IsOrderly) (r : Resource) (now : Nat) :
    (e.acquire r now).notices = noticesOf e.listeners (e.news (.acquire r now)) := by
  unfold news
  by_cases hactive : e.isActive = true
  · rw [acquire_eq h.cache hactive, if_pos hactive, noticesOf_filterMap]
  · unfold acquire
    rw [if_neg hactive, if_neg hactive]
    rfl

theorem notices_tick (h : e.IsOrderly) (now : Nat) :
    (e.tick now).2 = noticesOf e.listeners (e.news (.tick now)) := by
  unfold news tick tickAlong
  by_cases hactive : e.isActive = true
  · rw [if_pos hactive, if_pos hactive, noticesOf_filterMap]
    exact evaluateAll_notices h.cache now (nodup_trackedResources h.cache)
  · rw [if_neg hactive, if_neg hactive]
    rfl

/-- **The news is all that the listeners are told.** -/
theorem notices_step (h : e.IsOrderly) (op : Op) :
    (e.step op).2.2 = noticesOf e.listeners (e.news op) := by
  have silent (hnews : e.news op = []) : [] = noticesOf e.listeners (e.news op) := by
    rw [hnews]
    rfl
  cases op with
  | report o now =>
      simp only [step, Answer.ofReply_notices, notices_report h]
      rfl
  | reportSeen o now =>
      simp only [step, Answer.ofReply_notices, reportSeen, notices_report h]
      rfl
  | acquire r now => simp only [step, Answer.ofReply_notices, notices_acquire h]
  | tick now => exact notices_tick h now
  | check r => exact silent (ite_self _)
  | cleanup now => exact silent (ite_self _)
  | ruleChanged service => exact silent (ite_self _)
  | load service rules => exact silent (ite_self _)
  | clear service => exact silent (ite_self _)
  | destroy => exact silent (ite_self _)

/-! ## Whom it is about -/

/-- What an operation on a circuit tells is about the resource of the circuit. -/
theorem resource_of_effect {c d : Circuit} {op : Circuit.Op} {t : Transition}
    (h : Circuit.Effect c op d (some t)) : t.resource = c.resource := by
  have hchange := Circuit.change_effect h
  split at hchange
  · cases hchange
    rfl
  · cases hchange

theorem resource_of_evaluateNews (h : e.cache.IsTidy) {t : Transition}
    (ht : e.evaluateNews r now = some t) : t.resource = r := by
  obtain ⟨c, hc, hnews⟩ := Option.bind_eq_some_iff.mp ht
  have heffect := Circuit.effect_evaluate (c := c) now
  rw [hnews] at heffect
  exact (resource_of_effect heffect).trans (CircuitCache.resource_of_circuit? h hc)

theorem resource_of_wakeNews (h : e.cache.IsTidy) {t : Transition}
    (ht : e.wakeNews r now = some t) : t.resource = r := by
  refine resource_of_evaluateNews h (?_ : e.evaluateNews r now = some t)
  obtain ⟨c, hc, hnews⟩ := Option.bind_eq_some_iff.mp ht
  split at hnews
  · exact Option.bind_eq_some_iff.mpr ⟨c, hc, hnews⟩
  · cases hnews

theorem resource_of_reportNews {o : Outcome} (h : (e.informed o now).cache.IsTidy) {t : Transition}
    (ht : e.reportNews o now = some t) : t.resource = o.resource := by
  obtain ⟨c, hc, hnews⟩ := Option.bind_eq_some_iff.mp ht
  have heffect := Circuit.effect_report (c := c) o now
  rw [hnews] at heffect
  exact (resource_of_effect heffect).trans (CircuitCache.resource_of_circuit? h hc)

/-- **An operation on a service is news of that service only.** -/
theorem key_of_mem_news (h : e.IsOrderly) {service : ServiceKey} (hop : op.service? = some service)
    {t : Transition} (ht : t ∈ e.news op) : t.resource.key = service := by
  unfold news at ht
  by_cases hactive : e.isActive = true
  · rw [if_pos hactive] at ht
    have reported {o : Outcome} {now : Nat} (ht : t ∈ (e.reportNews o now).toList) :
        t.resource.key = o.resource.key := by
      rw [resource_of_reportNews (h.informed hactive o now).cache (Option.mem_toList.mp ht)]
    cases op with
    | report o now => cases hop; exact reported ht
    | reportSeen o now => cases hop; exact reported ht
    | acquire r now =>
        cases hop
        obtain ⟨s, hs, hnews⟩ := List.mem_filterMap.mp ht
        rw [resource_of_wakeNews h.cache hnews]
        rcases List.mem_cons.mp ((e.woken_prefix now _).subset hs) with rfl | hparent
        · rfl
        · exact Resource.key_of_mem_parents hparent
    | tick now => cases hop
    | cleanup now => cases hop
    | destroy => cases hop
    | check r => cases ht
    | ruleChanged service => cases ht
    | load service rules => cases ht
    | clear service => cases ht
  · rw [if_neg hactive] at ht
    cases ht

end CircuitBreaker.Engine

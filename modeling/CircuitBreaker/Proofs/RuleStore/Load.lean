import Mathlib.Data.List.Induction
import Mathlib.Tactic.Push
import CircuitBreaker.Proofs.Binary64
import CircuitBreaker.Proofs.RuleStore
import CircuitBreaker.Regex.Reader

/-!
# `Proofs.RuleStore.Load` — what loading rules does

A load compares the valid rules that it is given with those of the service, and either does nothing or
puts a rule set in the place of the old one (`load_eq`). Both sides of the comparison are lists of rules
whose ids and revisions do not count, so loading the same rules again is no change: that rests on a rule
being the same as itself, which is true of valid rules only (`Rule.sameAs_self`). A share that is not a
number is not equal to itself, and a rule with one is never loaded.

Revisions are drawn one after the other, and all that is known of them is that none comes twice. Every
set of a store has one of those that were drawn up to then (`isNumbered_run`), so that the next one is
new to it and to every state before (`revision_ne_of_prefix`).

## Contents
- `sameItems_eq_true_iff`, `Rule.sameAs_self`: when rules are the same.
- `load_load`: loading the same rules again.
- `Op`, `run`, `told`: sequences of operations, and who is told what.
- `IsNumbered`, `revision_ne_of_prefix`: new revisions.
- `load_spec`: all of it.
-/

namespace CircuitBreaker

/-! ## The same rules -/

section SameItems

variable {α : Type} {same : α → α → Bool}

/-- Lists have the same items if they are equally long and the same at every position. -/
theorem sameItems_eq_true_iff {as bs : List α} :
    sameItems same as bs = true ↔ as.length = bs.length ∧
      ∀ (i : Nat) (a b : α), as[i]? = some a → bs[i]? = some b → same a b = true := by
  induction as generalizing bs with
  | nil => cases bs <;> simp [sameItems]
  | cons a rest ih =>
      cases bs with
      | nil => simp [sameItems]
      | cons b more =>
          simp only [sameItems, Bool.and_eq_true, ih, List.length_cons, Nat.add_right_cancel_iff]
          constructor
          · rintro ⟨hfirst, hlength, hrest⟩
            refine ⟨hlength, fun i x y hx hy => ?_⟩
            cases i with
            | zero =>
                cases hx
                cases hy
                exact hfirst
            | succ i => exact hrest i x y hx hy
          · rintro ⟨hlength, hall⟩
            exact ⟨hall 0 a b rfl rfl, hlength, fun i x y hx hy => hall (i + 1) x y hx hy⟩

/-- Lists differ if they are not equally long or not the same at some position. -/
theorem sameItems_eq_false_iff {as bs : List α} :
    sameItems same as bs = false ↔ bs.length ≠ as.length ∨
      ∃ (i : Nat) (a b : α), as[i]? = some a ∧ bs[i]? = some b ∧ same a b = false := by
  rw [← Bool.not_eq_true, sameItems_eq_true_iff, Classical.not_and_iff_not_or_not]
  refine or_congr (not_congr eq_comm) ?_
  push Not
  simp only [Bool.not_eq_true, exists_and_left]

/-- A list has the same items as itself if each item is the same as itself. -/
theorem sameItems_self {as : List α} (h : ∀ a ∈ as, same a a = true) :
    sameItems same as as = true := by
  refine sameItems_eq_true_iff.mpr ⟨rfl, fun i a b ha hb => ?_⟩
  rw [ha] at hb
  cases hb
  exact h a (List.mem_of_getElem? ha)

end SameItems

/-- A share that passes its check is a number, and so equal to itself. -/
theorem RateLimit.sameAs_self {l : RateLimit} (h : isShare l.threshold = true) :
    l.sameAs l = true := by
  have hnumber : l.threshold.isNaN = false := by
    unfold isShare at h
    simp only [Bool.not_eq_true', Bool.or_eq_false_iff] at h
    exact h.1.1
  simp [sameAs, Binary64.beq_self hnumber]

theorem TriggerCondition.sameAs_self {c : TriggerCondition} (h : c.check = .ok ()) :
    c.sameAs c = true := by
  cases c with
  | consecutiveError count => exact beq_self_eq_true count
  | errorRate l => exact RateLimit.sameAs_self (RateLimit.check_eq_ok_iff.mp h).1
  | slowRate least l =>
      have hlimit : l.sameAs l = true := RateLimit.sameAs_self (RateLimit.check_eq_ok_iff.mp h).1
      simp [sameAs, hlimit]

theorem BlockRule.sameAs_self {f : Compiler} {b : BlockRule} (h : b.check f = .ok ()) :
    b.sameAs b = true := by
  have htriggers : sameItems TriggerCondition.sameAs b.triggers b.triggers = true :=
    sameItems_self fun c hc => TriggerCondition.sameAs_self ((check_eq_ok_iff.mp h).2.1 c hc)
  simp [sameAs, htriggers]

namespace Rule

/-- **A valid rule is the same as itself.** -/
theorem sameAs_self {f : Compiler} {r : Rule} (h : r.isValid f = true) : r.sameAs r = true := by
  have hblocks : sameItems BlockRule.sameAs r.blocks r.blocks = true :=
    sameItems_self fun b hb => BlockRule.sameAs_self ((isValid_iff.mp h).2.2.1 b hb)
  simp [sameAs, hblocks]

end Rule

namespace RuleStore

variable {f : Compiler} {revisions : Nat → String} {s : RuleStore} {service other : ServiceKey}
  {rules : List Rule} {set : RuleSet}

/-- Stamping makes no difference to valid rules. -/
theorem sameItems_stamp {valid : List Rule} (h : ∀ r ∈ valid, r.isValid f = true) (revision : String) :
    sameItems Rule.sameAs (stamp revision valid) valid = true := by
  refine sameItems_eq_true_iff.mpr ⟨List.length_map _, fun i a b ha hb => ?_⟩
  rw [stamp, List.getElem?_map, hb] at ha
  cases ha
  exact Rule.sameAs_self (h b (List.mem_of_getElem? hb))

/-! ## Loading twice -/

/-- The rules that are in place after a load are those that were given, so loading them again is no
    change. -/
theorem load_load (s : RuleStore) (service : ServiceKey) (rules : List Rule) :
    (s.load service rules).1.load service rules = ((s.load service rules).1, none) := by
  rw [load_eq s]
  by_cases hsame : sameItems Rule.sameAs (s.rulesOf service) (rules.filter (Rule.isValid s.compile)) = true
  · simp only [hsame, ↓reduceIte, load_eq s service rules]
  · rw [if_neg hsame]
    have hvalid : ∀ r ∈ rules.filter (Rule.isValid s.compile), r.isValid s.compile = true :=
      fun r hr => (List.mem_filter.mp hr).2
    have hstored : (s.replace service (s.nextSet? rules)).rulesOf service =
        stamp (s.revisions s.issued) (rules.filter (Rule.isValid s.compile)) := by
      unfold rulesOf
      rw [get?_replace_self]
      by_cases hnil : rules.filter (Rule.isValid s.compile) = [] <;> simp [nextSet?, hnil, stamp]
    have hcompile : (s.replace service (s.nextSet? rules)).compile = s.compile := rfl
    rw [load_eq, hstored, hcompile, sameItems_stamp hvalid, if_pos rfl]

/-! ## Sequences of operations -/

/-- The operations on a store. -/
inductive Op where
  | listen (mark : String)
  | load (service : ServiceKey) (rules : List Rule)
  | clear (service : ServiceKey)
deriving Repr

/-- One operation, and the change that it made. -/
def step (s : RuleStore) : Op → RuleStore × Option RuleChange
  | .listen mark => (s.listen mark, none)
  | .load service rules => s.load service rules
  | .clear service => s.clear service

/-- Operations one after the other. -/
def run (s : RuleStore) (ops : List Op) : RuleStore := ops.foldl (fun s op => (s.step op).1) s

/-- What the listeners are told of an operation. -/
def told (r : RuleStore × Option RuleChange) : List (String × RuleChange) :=
  r.2.toList.flatMap r.1.announce

theorem run_snoc (s : RuleStore) (ops : List Op) (op : Op) :
    s.run (ops ++ [op]) = ((s.run ops).step op).1 := List.foldl_append

theorem run_append (s : RuleStore) (ops more : List Op) :
    s.run (ops ++ more) = (s.run ops).run more := List.foldl_append

/-- What is kept by every operation holds after every run. -/
theorem run_invariant {P : RuleStore → Prop} (hstep : ∀ s op, P s → P (s.step op).1) (h : P s)
    (ops : List Op) : P (s.run ops) := by
  induction ops using List.reverseRecOn with
  | nil => exact h
  | append_singleton ops op ih =>
      rw [run_snoc]
      exact hstep _ op ih

theorem reachable_run (ops : List Op) : Reachable (run (.empty f revisions) ops) := by
  refine run_invariant (fun s op hs => ?_) (.empty f revisions) ops
  cases op with
  | listen mark => exact .listen mark hs
  | load service rules => exact .load service rules hs
  | clear service => exact .clear service hs

theorem sameOutside_run (s : RuleStore) (ops : List Op) : SameOutside s (s.run ops) := by
  refine run_invariant (P := SameOutside s) (fun t op ht => ?_) ⟨rfl, rfl⟩ ops
  have hstep : SameOutside t (t.step op).1 := by
    cases op with
    | listen mark => exact ⟨rfl, rfl⟩
    | load service rules => exact sameOutside_load t service rules
    | clear service => exact sameOutside_clear t service
  exact ⟨hstep.compile.trans ht.compile, hstep.revisions.trans ht.revisions⟩

/-! ## Revisions -/

theorem revision_of_nextSet? (h : s.nextSet? rules = some set) :
    set.revision = s.revisions s.issued := by
  simp only [nextSet?] at h
  split at h
  · cases h
  · cases h
    rfl

/-- **Every rule set has one of the revisions that were drawn.** -/
def IsNumbered (s : RuleStore) : Prop :=
  ∀ e ∈ s.sets, ∃ n, n < s.issued ∧ e.2.revision = s.revisions n

theorem isNumbered_step (s : RuleStore) (op : Op) (h : s.IsNumbered) : (s.step op).1.IsNumbered := by
  cases op with
  | listen mark => exact h
  | load service rules =>
      show (s.load service rules).1.IsNumbered
      rw [load_eq]
      split
      · exact h
      · intro e he
        rcases mem_replace he with ⟨set, hset, rfl⟩ | hold
        · exact ⟨s.issued, Nat.lt_succ_self _, revision_of_nextSet? hset⟩
        · obtain ⟨n, hn, hrevision⟩ := h e hold
          exact ⟨n, Nat.lt_succ_of_lt hn, hrevision⟩
  | clear service =>
      show (s.clear service).1.IsNumbered
      unfold clear
      split
      · exact h
      · exact fun e he => h e (mem_of_mem_without he)

theorem isNumbered_run (ops : List Op) : (run (.empty f revisions) ops).IsNumbered :=
  run_invariant isNumbered_step (fun e he => by cases he) ops

/-- Revisions are never taken back. -/
theorem issued_le_run (s : RuleStore) (ops : List Op) : s.issued ≤ (s.run ops).issued := by
  refine run_invariant (P := fun t => s.issued ≤ t.issued) (fun t op ht => ?_) (Nat.le_refl _) ops
  refine Nat.le_trans ht ?_
  cases op with
  | listen mark => exact Nat.le_refl _
  | load service rules =>
      show t.issued ≤ (t.load service rules).1.issued
      rw [load_eq]
      split
      · exact Nat.le_refl _
      · exact Nat.le_succ _
  | clear service =>
      show t.issued ≤ (t.clear service).1.issued
      unfold clear
      split <;> exact Nat.le_refl _

/-- **The next revision is new**, if none is drawn twice: no rule set had it at any time before. -/
theorem revision_ne_of_prefix (hfresh : Function.Injective revisions) {ops done : List Op}
    (hdone : done <+: ops) (hget : (run (.empty f revisions) done).get? other = some set) :
    set.revision ≠ revisions (run (.empty f revisions) ops).issued := by
  obtain ⟨e, he, rfl⟩ := Option.map_eq_some_iff.mp hget
  obtain ⟨n, hn, hrevision⟩ := isNumbered_run done e (List.mem_of_find?_eq_some he)
  obtain ⟨rest, rfl⟩ := hdone
  have hissued := issued_le_run (run (.empty f revisions) done) rest
  rw [run_append, hrevision, (sameOutside_run _ done).revisions]
  intro hsame
  have hnumber : n = _ := hfresh hsame
  omega

/-! ## Loading -/

/-- **What loading rules does.** Take a store that started empty, with any compiler and with revisions
    of which none is drawn twice, after any operations. Take a service and any rules, and let `valid` be
    those of them that are valid.
    * The load is a change exactly if `valid` is longer or shorter than the list of rules of the service,
      or differs from it at some position, ids and revisions aside.
    * If it is a change, the service has no rules from then on if `valid` is empty. Otherwise it has a
      rule set with a revision that no rule set of the store ever had. Its rules are those of `valid` in
      their order, and each of them carries the revision of the set in the place of its own. Each listener
      is told once, with the old and the new rule set.
    * If it is none, everything stays as it is and nobody is told.
    * Other services keep their rules, and loading the same rules once more is no change.
    * No rule set is empty or has a rule in it that is not valid. -/
theorem load_spec (f : Compiler) {revisions : Nat → String} (hfresh : Function.Injective revisions)
    (ops : List Op) (service : ServiceKey) (rules : List Rule) :
    let s := run (.empty f revisions) ops
    let valid := rules.filter (Rule.isValid f)
    let result := s.load service rules
    let next := result.1
    (result.2.isSome = true ↔ valid.length ≠ (s.rulesOf service).length ∨
      ∃ (i : Nat) (a b : Rule),
        (s.rulesOf service)[i]? = some a ∧ valid[i]? = some b ∧ a.sameAs b = false) ∧
    (result.2.isSome = true →
      (valid = [] → next.get? service = none) ∧
      (valid ≠ [] → ∃ set, next.get? service = some set ∧
        (∀ done, done <+: ops → ∀ other old, (run (.empty f revisions) done).get? other = some old →
          old.revision ≠ set.revision) ∧
        set.rules = (valid.map fun r => { r with revision := set.revision }) ∧
        ∀ r ∈ set.rules, r.revision = set.revision) ∧
      told result = s.listeners.map fun mark =>
        (mark, { service, before := s.get? service, after := next.get? service })) ∧
    (result.2.isSome = false → next = s ∧ told result = []) ∧
    (∀ other, other ≠ service → next.get? other = s.get? other) ∧
    next.load service rules = (next, none) ∧
    ∀ other set, next.get? other = some set →
      set.rules ≠ [] ∧ ∀ r ∈ set.rules, r.isValid f = true := by
  intro s valid result next
  have houtside : SameOutside (.empty f revisions) s := sameOutside_run _ ops
  have hcompile : s.compile = f := houtside.compile
  have hload : result = if sameItems Rule.sameAs (s.rulesOf service) valid then (s, none) else
      (s.replace service (s.nextSet? rules),
        some { service, before := s.get? service, after := s.nextSet? rules }) := by
    have hl := load_eq s service rules
    rwa [hcompile] at hl
  have hsound (other : ServiceKey) (set : RuleSet) (hget : next.get? other = some set) :
      set.rules ≠ [] ∧ ∀ r ∈ set.rules, r.isValid f = true := by
    have hset := isSound_of_get? (.load service rules (reachable_run ops)) hget
    rw [(sameOutside_load s service rules).compile, hcompile] at hset
    exact ⟨hset.nonempty, hset.valid⟩
  rw [← sameItems_eq_false_iff]
  cases hsame : sameItems Rule.sameAs (s.rulesOf service) valid with
  | true =>
      rw [hsame, if_pos rfl] at hload
      have hnext : next = s := congrArg Prod.fst hload
      refine ⟨?_, ?_, fun _ => ⟨hnext, ?_⟩, fun other _ => ?_, load_load s service rules, hsound⟩
      · simp [hload]
      · simp [hload]
      · rw [hload]
        rfl
      · rw [hnext]
  | false =>
      rw [hsame, if_neg Bool.false_ne_true] at hload
      have hnext : next = s.replace service (s.nextSet? rules) := congrArg Prod.fst hload
      have hset : next.get? service = s.nextSet? rules := by rw [hnext, get?_replace_self]
      have hvalid : s.nextSet? rules =
          if valid = [] then none
          else some { revision := s.revisions s.issued, rules := stamp (s.revisions s.issued) valid } := by
        unfold nextSet?
        rw [hcompile]
      refine ⟨?_, fun _ => ⟨fun hnil => ?_, fun hsome => ?_, ?_⟩, ?_, fun other hne => ?_,
        load_load s service rules, hsound⟩
      · simp [hload]
      · rw [hset, hvalid, if_pos hnil]
      · refine ⟨_, by rw [hset, hvalid, if_neg hsome], ?_, rfl, ?_⟩
        · intro done hdone other old hget
          rw [houtside.revisions]
          exact revision_ne_of_prefix hfresh hdone hget
        · intro r hr
          obtain ⟨q, -, rfl⟩ := List.mem_map.mp hr
          rfl
      · rw [hset, hload]
        simp [told, announce, replace]
      · simp [hload]
      · rw [hnext, get?_replace_of_ne _ hne]

/-- Numbers are written in different ways. -/
theorem toString_injective : Function.Injective (toString : Nat → String) := by
  intro m n h
  have hdigits : Nat.toDigits 10 m = Nat.toDigits 10 n := String.ofList_injective h
  rw [← Nat.ofDigitChars_ten_toDigits (n := m), hdigits, Nat.ofDigitChars_ten_toDigits]

/-- The service of the sample. -/
def echo : ServiceKey := { realm := "default", name := "echo" }

/-- A rule for a service. Without a name it is not valid. -/
def echoRule (name : String) : Rule where
  name := name
  level := .service
  blocks := [{ name := "failure", triggers := [.consecutiveError 2] }]

/-- Another rule takes the place of the first, under another revision, and one without a name is left
    out. Loading the two again is no change. -/
theorem echo_load_spec :
    let s := run (.empty standardCompiler toString) [.listen "log", .load echo [echoRule "first"]]
    let next := (s.load echo [echoRule "second", echoRule ""]).1
    Function.Injective (toString : Nat → String) ∧
    (s.load echo [echoRule "second", echoRule ""]).2.isSome = true ∧
    (∃ set, next.get? echo = some set ∧
      set.rules = [{ echoRule "second" with revision := set.revision }] ∧
      ∀ old, s.get? echo = some old → old.revision ≠ set.revision) ∧
    next.load echo [echoRule "second", echoRule ""] = (next, none) := by
  intro s next
  obtain ⟨-, hchanged, -, -, hagain, -⟩ := load_spec standardCompiler toString_injective
    [.listen "log", .load echo [echoRule "first"]] echo [echoRule "second", echoRule ""]
  have hvalid : [echoRule "second", echoRule ""].filter (Rule.isValid standardCompiler) =
      [echoRule "second"] := rfl
  rw [hvalid] at hchanged
  have hchange : (s.load echo [echoRule "second", echoRule ""]).2.isSome = true := by decide
  obtain ⟨-, hnew, -⟩ := hchanged hchange
  obtain ⟨set, hset, hrevision, hrules, -⟩ := hnew (List.cons_ne_nil _ _)
  exact ⟨toString_injective, hchange, ⟨set, hset, hrules, hrevision _ (List.prefix_refl _) echo⟩, hagain⟩

end RuleStore

end CircuitBreaker

import Mathlib.Data.List.Find
import Mathlib.Data.Prod.Lex
import CircuitBreaker.Proofs.Transparency

/-!
# `Proofs.Resolution` — which of several rules governs

The most specific of some rules is found from the end of the list, by comparing numbers. Seen from the
front it is the first rule that no other outranks (`mostSpecific?_eq_find?`), where rules are ranked by
whether they ask for particular methods, and then by whether they ask for particular callers
(`Rule.rank`, `Rule.specificity_le_iff`).

In this form a rule that does not apply, or that is outranked by the rule that is found, makes no
difference wherever it stands: it is skipped by the search and outranks nothing that matters
(`mostSpecific?_filter`).

## Contents
- `Rule.rank`: how specific a rule is.
- `Resolution.IsFirst`: the first rule of a kind.
- `mostSpecific?_eq_find?`, `mostSpecific?_filter`: the most specific rule.
- `Rule.applies_of_unknown`: callers that are not known.
- `Resolution.resolve_selects`: the rule that governs.
-/

namespace CircuitBreaker

namespace Rule

/-- How specific the rule is: whether it asks for particular methods, and then, whether it asks for
    particular callers. -/
def rank (r : Rule) : Bool ×ₗ Bool := toLex (r.hasMethod, r.hasSource)

/-- The number that is compared is the rank. -/
theorem specificity_le_iff {r s : Rule} : r.specificity ≤ s.specificity ↔ r.rank ≤ s.rank := by
  unfold specificity rank
  cases r.hasMethod <;> cases r.hasSource <;> cases s.hasMethod <;> cases s.hasSource <;> decide

/-- **A rule for callers that are not known is one for all callers.** -/
theorem applies_of_unknown {f : Compiler} {r : Rule} {resource : Resource}
    (h : r.applies f resource none = true) (caller : Option ServiceKey) :
    r.applies f resource caller = true := by
  unfold applies covers at h ⊢
  simp only [Bool.and_eq_true] at h ⊢
  obtain ⟨⟨hcallee, hsource⟩, hscope⟩ := h
  refine ⟨⟨hcallee, ?_⟩, hscope⟩
  cases caller with
  | none => exact hsource
  | some k =>
      simp only [NameMatcher.accepts, NameMatcher.isWildcard, Bool.and_eq_true] at hsource
      simp [NameMatcher.accepts, nameMatches, hsource]

end Rule

namespace Resolution

/-- **The first rule of a kind**: it stands at a position, and no rule before it is of the kind. -/
def IsFirst (kind : Rule → Prop) (rules : List Rule) (i : Nat) (r : Rule) : Prop :=
  rules[i]? = some r ∧ kind r ∧ ∀ j < i, ∀ s, rules[j]? = some s → ¬kind s

variable {rules : List Rule} {r : Rule}

/-- The rule that a search finds is the first of those searched for. -/
theorem find?_eq_some_iff_isFirst {search : Rule → Bool} :
    rules.find? search = some r ↔ ∃ i, IsFirst (fun s => search s = true) rules i r := by
  rw [List.find?_eq_some_iff_getElem]
  constructor
  · rintro ⟨hr, i, hi, hat, hbefore⟩
    refine ⟨i, List.getElem?_eq_some_iff.mpr ⟨hi, hat⟩, hr, fun j hj s hs => ?_⟩
    obtain ⟨_, rfl⟩ := List.getElem?_eq_some_iff.mp hs
    simpa using hbefore j hj
  · rintro ⟨i, hat, hr, hbefore⟩
    obtain ⟨hi, hri⟩ := List.getElem?_eq_some_iff.mp hat
    refine ⟨hr, i, hi, hri, fun j hj => ?_⟩
    have hj' : j < rules.length := Nat.lt_trans hj hi
    simpa using hbefore j hj rules[j] (List.getElem?_eq_some_iff.mpr ⟨hj', rfl⟩)

/-- Of kinds that agree on the rules of a list, the first rule is the same. -/
theorem IsFirst.congr {kind other : Rule → Prop} {i : Nat} (h : ∀ s ∈ rules, kind s ↔ other s) :
    IsFirst kind rules i r ↔ IsFirst other rules i r := by
  have hmem {j : Nat} {s : Rule} (hs : rules[j]? = some s) : s ∈ rules := List.mem_of_getElem? hs
  constructor
  · rintro ⟨hat, hr, hbefore⟩
    exact ⟨hat, (h r (hmem hat)).mp hr, fun j hj s hs hkind =>
      hbefore j hj s hs ((h s (hmem hs)).mpr hkind)⟩
  · rintro ⟨hat, hr, hbefore⟩
    exact ⟨hat, (h r (hmem hat)).mpr hr, fun j hj s hs hkind =>
      hbefore j hj s hs ((h s (hmem hs)).mp hkind)⟩

/-! ## The most specific rule -/

/-- Whether no rule of a list outranks a rule. -/
def isTop (rules : List Rule) (r : Rule) : Bool :=
  rules.all fun s => decide (s.specificity ≤ r.specificity)

theorem isTop_iff : isTop rules r = true ↔ ∀ s ∈ rules, s.specificity ≤ r.specificity := by
  simp [isTop]

theorem mostSpecific?_eq_none_iff : mostSpecific? rules = none ↔ rules = [] := by
  cases rules with
  | nil => simp [mostSpecific?]
  | cons q rest =>
      unfold mostSpecific?
      cases mostSpecific? rest with
      | none => simp
      | some s => simp only [reduceCtorEq, iff_false]; split <;> simp

/-- No rule outranks the most specific one. -/
theorem isTop_of_mostSpecific? (h : mostSpecific? rules = some r) : isTop rules r = true := by
  rw [isTop_iff]
  induction rules generalizing r with
  | nil => cases h
  | cons q rest ih =>
      unfold mostSpecific? at h
      cases hrest : mostSpecific? rest with
      | none =>
          rw [hrest] at h
          cases h
          simp [mostSpecific?_eq_none_iff.mp hrest]
      | some t =>
          have htop := ih hrest
          simp only [hrest] at h
          intro s hs
          split at h <;> cases h <;> rcases List.mem_cons.mp hs with rfl | hs
          · exact Nat.le_refl _
          · exact Nat.le_trans (htop s hs) ‹_›
          · exact Nat.le_of_not_le ‹_›
          · exact htop s hs

/-- **The most specific rule is the first that no other outranks.** -/
theorem mostSpecific?_eq_find? (rules : List Rule) :
    mostSpecific? rules = rules.find? (isTop rules) := by
  induction rules with
  | nil => rfl
  | cons q rest ih =>
      unfold mostSpecific?
      rw [List.find?_cons]
      cases hrest : mostSpecific? rest with
      | none =>
          rw [mostSpecific?_eq_none_iff.mp hrest]
          simp [isTop]
      | some t =>
          have htop := isTop_iff.mp (isTop_of_mostSpecific? hrest)
          have hmem := mem_of_mostSpecific? hrest
          by_cases hq : t.specificity ≤ q.specificity
          · have hqtop : isTop (q :: rest) q = true := by
              rw [isTop_iff]
              intro s hs
              rcases List.mem_cons.mp hs with rfl | hs
              · exact Nat.le_refl _
              · exact Nat.le_trans (htop s hs) hq
            simp only [hq, if_true, hqtop]
          · have hqtop : isTop (q :: rest) q = false := by
              refine Bool.eq_false_iff.mpr fun hall => hq ?_
              exact isTop_iff.mp hall t (List.mem_cons_of_mem q hmem)
            simp only [hq, if_false, hqtop]
            rw [← hrest, ih]
            -- the first rule is outranked, so it outranks no rule that nothing in the rest outranks
            refine List.find?_congr fun s hs => Bool.eq_iff_iff.mpr ?_
            rw [isTop_iff, isTop_iff, List.forall_mem_cons]
            refine ⟨fun hall => ⟨?_, hall⟩, fun hall => hall.2⟩
            exact Nat.le_trans (Nat.le_of_not_le hq) (hall t hmem)

/-- **Rules that are outranked make no difference**, whatever they are and wherever they stand. -/
theorem mostSpecific?_filter {k : Nat} (h : ∃ t ∈ rules, k ≤ t.specificity) :
    mostSpecific? (rules.filter fun s => decide (k ≤ s.specificity)) = mostSpecific? rules := by
  obtain ⟨t, ht, hkt⟩ := h
  rw [mostSpecific?_eq_find?, mostSpecific?_eq_find?, List.find?_filter]
  refine List.find?_congr fun r _ => Bool.eq_iff_iff.mpr ?_
  simp only [decide_eq_true_eq, isTop_iff, List.mem_filter]
  constructor
  · rintro ⟨hkr, htop⟩ s hs
    by_cases hks : k ≤ s.specificity
    · exact htop s ⟨hs, hks⟩
    · exact Nat.le_trans (Nat.le_of_not_le hks) hkr
  · intro htop
    exact ⟨Nat.le_trans hkt (htop t ht), fun s hs => htop s hs.1⟩

/-! ## The rule that governs -/

section Governing

variable {f : Compiler} {p : Precedence} {resource : Resource} {caller : Option ServiceKey}

theorem governing_eq_none_iff :
    governing f p resource caller rules = none ↔
      ∀ s ∈ rules, s.applies f resource caller = false := by
  cases p with
  | firstMatch => simp [governing, List.find?_eq_none]
  | mostSpecific => simp [governing, mostSpecific?_eq_none_iff, List.filter_eq_nil_iff]

theorem governing_firstMatch_iff :
    governing f .firstMatch resource caller rules = some r ↔
      ∃ i, IsFirst (fun s => s.applies f resource caller = true) rules i r :=
  find?_eq_some_iff_isFirst

theorem governing_mostSpecific_iff :
    governing f .mostSpecific resource caller rules = some r ↔
      ∃ i, IsFirst (fun q => q.applies f resource caller = true ∧
        ∀ s ∈ rules, s.applies f resource caller = true → s.rank ≤ q.rank) rules i r := by
  unfold governing
  rw [mostSpecific?_eq_find?, List.find?_filter, find?_eq_some_iff_isFirst]
  refine exists_congr fun i => IsFirst.congr fun q _ => ?_
  simp only [decide_eq_true_eq, isTop_iff, List.mem_filter, and_imp, Rule.specificity_le_iff]

/-- **Rules that do not apply make no difference.** -/
theorem governing_congr {others : List Rule}
    (h : (others.filter fun s => s.applies f resource caller) =
      rules.filter fun s => s.applies f resource caller) :
    governing f p resource caller others = governing f p resource caller rules := by
  cases p with
  | firstMatch =>
      unfold governing
      rw [← List.head?_filter, h, List.head?_filter]
  | mostSpecific =>
      unfold governing
      rw [h]

/-- **Rules that the governing one outranks make no difference.** -/
theorem governing_of_outranked {others : List Rule}
    (hr : governing f .mostSpecific resource caller rules = some r)
    (h : (others.filter fun s => s.applies f resource caller && decide (r.rank ≤ s.rank)) =
      rules.filter fun s => s.applies f resource caller && decide (r.rank ≤ s.rank)) :
    governing f .mostSpecific resource caller others = some r := by
  have hcut (list : List Rule) :
      (list.filter fun s => s.applies f resource caller && decide (r.rank ≤ s.rank)) =
        (list.filter fun s => s.applies f resource caller).filter fun s =>
          decide (r.specificity ≤ s.specificity) := by
    rw [List.filter_filter]
    refine List.filter_congr fun s _ => ?_
    simp only [Rule.specificity_le_iff, Bool.and_comm]
  rw [hcut, hcut] at h
  have hmem := mem_of_mostSpecific? hr
  -- the rule itself is among those that are compared, in both lists
  have hthere : r ∈ ((rules.filter fun s => s.applies f resource caller).filter fun s =>
      decide (r.specificity ≤ s.specificity)) :=
    List.mem_filter.mpr ⟨hmem, decide_eq_true (Nat.le_refl _)⟩
  rw [← h] at hthere
  unfold governing
  rw [← mostSpecific?_filter ⟨r, (List.mem_filter.mp hthere).1, Nat.le_refl _⟩, h,
    mostSpecific?_filter ⟨r, hmem, Nat.le_refl _⟩]
  exact hr

end Governing

/-- **The rule that governs a resource for a caller.** Take any rules, and a cache in which anything was
    looked up before.
    * No rule governs exactly if none applies.
    * Under `firstMatch` the first rule that applies governs.
    * Under `mostSpecific` the first of those governs that apply and are outranked by none that applies.
    * Rules that do not apply make no difference, be they added, left out or moved.
    * Nor do, under `mostSpecific`, rules that the governing one outranks.
    * A rule that applies for an unknown caller applies for every caller. -/
theorem resolve_selects (f : Compiler) (resource : Resource) (caller : Option ServiceKey)
    (rules : List Rule) (capacity : Nat) (used : List String) :
    let cache := PatternCache.warmed f capacity used
    let appliesTo (who : Option ServiceKey) (s : Rule) := (s.isApplicable f resource who cache).1
    let applies := appliesTo caller
    let governs (p : Precedence) (rules : List Rule) := (resolve f p resource caller rules cache).1
    (∀ p, governs p rules = none ↔ ∀ s ∈ rules, applies s = false) ∧
      (∀ r, governs .firstMatch rules = some r ↔
        ∃ i, IsFirst (fun s => applies s = true) rules i r) ∧
      (∀ r, governs .mostSpecific rules = some r ↔
        ∃ i, IsFirst (fun q => applies q = true ∧
          ∀ s ∈ rules, applies s = true → s.rank ≤ q.rank) rules i r) ∧
      (∀ p others, others.filter applies = rules.filter applies →
        governs p others = governs p rules) ∧
      (∀ r others, governs .mostSpecific rules = some r →
        (others.filter fun s => applies s && decide (r.rank ≤ s.rank)) =
          (rules.filter fun s => applies s && decide (r.rank ≤ s.rank)) →
        governs .mostSpecific others = some r) ∧
      ∀ s who, appliesTo none s = true → appliesTo who s = true := by
  intro cache appliesTo applies governs
  have hcache : cache.Faithful f := PatternCache.faithful_warmed f capacity used
  -- both are what they are without a cache
  have happlies : appliesTo = fun who s => s.applies f resource who := by
    funext who s
    exact (Rule.answers_isApplicable f s resource who cache hcache).1
  have hgoverns : governs = fun p rules => governing f p resource caller rules := by
    funext p rules
    exact (answers_resolve f p resource caller rules cache hcache).1
  simp only [applies, happlies, hgoverns]
  refine ⟨fun p => governing_eq_none_iff, fun r => governing_firstMatch_iff,
    fun r => governing_mostSpecific_iff, fun p others => governing_congr,
    fun r others => governing_of_outranked, fun s who h => Rule.applies_of_unknown h who⟩

section Sample

/-- A rule for methods, in the name of a caller and for a path where these are given. -/
def sampleRule (name source : String) (path : Option String) (enabled : Bool) : Rule where
  name
  enabled
  level := .method
  matcher := {
    source := { realm := "*", name := source }
    destination := { method := path.map fun value => { value } } }

/-- Rules for all calls, for those of one caller, for one method, and for the same method again. -/
def sampleRules : List Rule :=
  [sampleRule "broad" "*" none true, sampleRule "web" "web" none true,
    sampleRule "echo" "" (some "/echo") true, sampleRule "again" "*" (some "/echo") true]

/-- The same rules, with another method's and one that is not enabled in front, and without the broad
    one. -/
def otherRules : List Rule :=
  [sampleRule "off" "web" (some "/echo") false, sampleRule "ping" "web" (some "/ping") true,
    sampleRule "echo" "" (some "/echo") true, sampleRule "web" "web" none true,
    sampleRule "again" "*" (some "/echo") true]

/-- The first of the two rules for the method governs under `mostSpecific`, among the other rules as
    well. Under `firstMatch` it is the broad one, which applies to callers that are not known. -/
theorem sample_resolve_selects :
    let method := Resource.method { realm := "default", name := "echo" } "/echo"
    let web := some { realm := "default", name := "web" : ServiceKey }
    let cache := PatternCache.warmed standardCompiler 1 ["^/echo"]
    let appliesTo (who : Option ServiceKey) (s : Rule) :=
      (s.isApplicable standardCompiler method who cache).1
    let governs (p : Precedence) (rules : List Rule) :=
      (resolve standardCompiler p method web rules cache).1
    let broad := sampleRule "broad" "*" none true
    let echo := sampleRule "echo" "" (some "/echo") true
    governs .firstMatch sampleRules = some broad ∧
      governs .mostSpecific sampleRules = some echo ∧
      (otherRules.filter fun s => appliesTo web s && decide (echo.rank ≤ s.rank)) =
        (sampleRules.filter fun s => appliesTo web s && decide (echo.rank ≤ s.rank)) ∧
      governs .mostSpecific otherRules = some echo ∧
      appliesTo none broad = true ∧ appliesTo web broad = true := by
  intro method web cache appliesTo governs broad echo
  obtain ⟨-, hfirst, -, -, houtranked, hunknown⟩ :=
    resolve_selects standardCompiler method web sampleRules 1 ["^/echo"]
  have hbroad : appliesTo none broad = true := by decide
  have hecho : governs .mostSpecific sampleRules = some echo := rfl
  refine ⟨(hfirst broad).mpr ?_, hecho, rfl, houtranked echo otherRules hecho rfl, hbroad,
    hunknown broad web hbroad⟩
  exact ⟨0, rfl, hunknown broad web hbroad, fun j hj => absurd hj (Nat.not_lt_zero j)⟩

end Sample

end Resolution

end CircuitBreaker

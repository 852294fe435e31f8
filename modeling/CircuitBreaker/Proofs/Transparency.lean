import CircuitBreaker.Proofs.Circuit.Effect
import CircuitBreaker.Resolution

/-!
# `Proofs.Transparency` — the pattern cache does not show

Compiled expressions are kept in a cache that is threaded through everything that looks at a pattern.
A cache is **faithful** to a compiler if each of its entries is what the compiler gives. A faithful
cache gives the compiler's own answers and stays faithful, so what is computed over one does not depend
on what is in it.

`Answers f m a` says this of a computation `m`: on every faithful cache it comes to `a`, and leaves a
faithful cache behind. There is one such lemma for each function that takes a cache, and for each the
answer is a definition that knows only the compiler.

## Contents
- `PatternCache.Faithful`, `PatternCache.warmed`: the caches that occur.
- `Answers`: what a computation comes to on all of them.
- `Pattern.fits`, `ErrorTest.of`, `Block.ofRules?`: patterns, tests and blocks without a cache.
- `Circuit.answers_build?`: circuits.
- `Rule.isInScope`, `Rule.applies`, `Resolution.governing`: resolution without a cache.
-/

namespace CircuitBreaker

namespace PatternCache

/-- Every entry is what the compiler gives. -/
def Faithful (f : Compiler) (c : PatternCache) : Prop := ∀ e ∈ c.entries, f e.1 = some e.2

theorem faithful_ofCapacity (f : Compiler) (capacity : Nat) : (ofCapacity capacity).Faithful f := by
  intro e he
  cases he

/-- The entry that is found is one of the entries. -/
theorem mem_of_find? {c : PatternCache} {text : String} {r : Regex} (h : c.find? text = some r) :
    (text, r) ∈ c.entries := by
  obtain ⟨e, he, rfl⟩ := Option.map_eq_some_iff.mp h
  have hname : (e.1 == text) = true := by simpa using List.find?_some he
  rw [← beq_iff_eq.mp hname]
  exact List.mem_of_find?_eq_some he

end PatternCache

/-- On every faithful cache the computation comes to `a`, and leaves a faithful cache behind. -/
def Answers {α : Type} (f : Compiler) (m : PatternCache → α × PatternCache) (a : α) : Prop :=
  ∀ cache, cache.Faithful f → (m cache).1 = a ∧ (m cache).2.Faithful f

/-- What does not look at the cache has its answer. -/
theorem answers_pure {α : Type} (f : Compiler) (a : α) : Answers f (fun cache => (a, cache)) a :=
  fun _ h => ⟨rfl, h⟩

/-- One computation after another. -/
theorem Answers.bind {α β : Type} {f : Compiler} {m : PatternCache → α × PatternCache} {a : α}
    {n : α → PatternCache → β × PatternCache} {b : β} (hm : Answers f m a)
    (hn : Answers f (n a) b) : Answers f (fun cache => n (m cache).1 (m cache).2) b := by
  intro cache h
  obtain ⟨ha, hc⟩ := hm cache h
  show (n (m cache).1 (m cache).2).1 = b ∧ (n (m cache).1 (m cache).2).2.Faithful f
  rw [ha]
  exact hn _ hc

namespace PatternCache

/-- **A faithful cache gives the compiler's own answer.** -/
theorem answers_lookup (f : Compiler) (text : String) :
    Answers f (fun cache => cache.lookup f text) (f text) := by
  intro c h
  show (c.lookup f text).1 = f text ∧ (c.lookup f text).2.Faithful f
  cases hf : c.find? text with
  | some r =>
      have hmem := mem_of_find? hf
      simp only [lookup, hf]
      refine ⟨(h _ hmem).symm, fun e he => ?_⟩
      rcases List.mem_cons.mp he with rfl | he
      · exact h _ hmem
      · exact h e (List.mem_filter.mp he).1
  | none =>
      cases hc : f text with
      | none =>
          simp only [lookup, hf, hc]
          exact ⟨trivial, h⟩
      | some r =>
          simp only [lookup, hf, hc]
          refine ⟨trivial, fun e he => ?_⟩
          rcases List.mem_cons.mp (List.mem_of_mem_take he) with rfl | he
          · exact hc
          · exact h e he

/-- A cache after some texts were looked up in it. -/
def warmed (f : Compiler) (capacity : Nat) (texts : List String) : PatternCache :=
  texts.foldl (fun c text => (c.lookup f text).2) (ofCapacity capacity)

/-- Every cache that was only looked up in is faithful. -/
theorem faithful_warmed (f : Compiler) (capacity : Nat) (texts : List String) :
    (warmed f capacity texts).Faithful f := by
  have warm : ∀ c : PatternCache, c.Faithful f →
      (texts.foldl (fun c text => (c.lookup f text).2) c).Faithful f := by
    induction texts with
    | nil => exact fun c h => h
    | cons text rest ih => exact fun c h => ih _ (answers_lookup f text c h).2
  exact warm _ (faithful_ofCapacity f capacity)

end PatternCache

/-! ## Patterns, tests and blocks -/

namespace Pattern

/-- Whether a text fits the pattern. -/
def fits (f : Compiler) (p : Pattern) (text : String) : Bool := p.accepts (p.expression?.bind f) text

theorem answers_compile (f : Compiler) (p : Pattern) :
    Answers f (p.compile f) (p.expression?.bind f) := by
  intro cache h
  unfold compile
  cases p.expression? with
  | none => exact ⟨rfl, h⟩
  | some e => exact PatternCache.answers_lookup f e cache h

theorem answers_matchesIn (f : Compiler) (p : Pattern) (text : String) :
    Answers f (p.matchesIn f text) (p.fits f text) :=
  (answers_compile f p).bind
    (n := fun regex cache => (p.accepts regex text, cache)) (answers_pure f (p.fits f text))

end Pattern

theorem CompiledPattern.answers_ofPattern (f : Compiler) (p : Pattern) :
    Answers f (CompiledPattern.ofPattern f p) { pattern := p, regex := p.expression?.bind f } :=
  (Pattern.answers_compile f p).bind
    (n := fun regex cache => (CompiledPattern.mk p regex, cache)) (answers_pure f _)

namespace ErrorTest

/-- The test for an error condition. -/
def of (f : Compiler) : ErrorCondition → ErrorTest
  | .code p => code { pattern := p, regex := p.expression?.bind f }
  | .delay least => delay least

theorem answers_ofCondition (f : Compiler) (c : ErrorCondition) :
    Answers f (ofCondition f c) (of f c) := by
  cases c with
  | code p =>
      exact (CompiledPattern.answers_ofPattern f p).bind
        (n := fun p cache => (code p, cache)) (answers_pure f _)
  | delay least => exact answers_pure f (delay least)

theorem answers_ofConditions (f : Compiler) (cs : List ErrorCondition) :
    Answers f (ofConditions f cs) (cs.map (of f)) := by
  induction cs with
  | nil => exact answers_pure f []
  | cons c rest ih =>
      exact (answers_ofCondition f c).bind
        (n := fun t cache => (t :: (ofConditions f rest cache).1, (ofConditions f rest cache).2))
        (ih.bind (n := fun ts cache => (of f c :: ts, cache)) (answers_pure f _))

end ErrorTest

namespace Block

/-- The block for a block rule. -/
def ofRule? (f : Compiler) (buckets : Nat) (r : BlockRule) : Except WindowError Block :=
  (triggersOf? buckets r.triggers).map fun triggers =>
    { name := r.name, tests := r.errors.map (ErrorTest.of f), triggers }

/-- The blocks for some block rules. -/
def ofRules? (f : Compiler) (buckets : Nat) : List BlockRule → Except WindowError (List Block)
  | [] => .ok []
  | r :: rest =>
      match ofRule? f buckets r with
      | .error e => .error e
      | .ok b => (ofRules? f buckets rest).map (b :: ·)

theorem answers_build? (f : Compiler) (buckets : Nat) (r : BlockRule) :
    Answers f (build? f buckets r) (ofRule? f buckets r) := by
  intro cache h
  unfold build? ofRule?
  cases triggersOf? buckets r.triggers with
  | error e => exact ⟨rfl, h⟩
  | ok ts =>
      obtain ⟨ht, hc⟩ := ErrorTest.answers_ofConditions f r.errors cache h
      exact ⟨by simp only [ht]; rfl, hc⟩

/-- **Blocks do not depend on the cache** through which their patterns were compiled. -/
theorem answers_buildAll? (f : Compiler) (buckets : Nat) (rs : List BlockRule) :
    Answers f (buildAll? f buckets rs) (ofRules? f buckets rs) := by
  induction rs with
  | nil => exact answers_pure f _
  | cons r rest ih =>
      intro cache h
      obtain ⟨hb, hc⟩ := answers_build? f buckets r cache h
      unfold buildAll? ofRules?
      rw [← hb]
      cases hbuild : build? f buckets r cache with
      | mk built left =>
          rw [hbuild] at hc
          cases built with
          | error e => exact ⟨rfl, hc⟩
          | ok b =>
              obtain ⟨hbs, hleft⟩ := ih left hc
              rw [← hbs]
              cases hrest : buildAll? f buckets rest left with
              | mk more last =>
                  rw [hrest] at hleft
                  simp only [hrest]
                  cases more with
                  | error e => exact ⟨rfl, hleft⟩
                  | ok bs => exact ⟨rfl, hleft⟩

end Block

/-- **Circuits do not depend on the cache.** -/
theorem Circuit.answers_build? (f : Compiler) (s : CircuitSettings) (resource : Resource)
    (rule : Rule) (blocks : List BlockRule) (now : Nat) :
    Answers f (build? f s resource rule blocks now)
      ((Block.ofRules? f s.buckets blocks).map (fresh s resource rule now)) := by
  intro cache h
  obtain ⟨hblocks, hc⟩ := Block.answers_buildAll? f s.buckets blocks cache h
  refine ⟨by rw [build?_fst, hblocks], ?_⟩
  unfold build?
  split <;> rename_i hbuild <;> rwa [hbuild] at hc

/-! ## Resolution -/

namespace Rule

/-- Whether a resource is in the scope of a pattern. Only methods can be out of it. -/
def isInScope (f : Compiler) (p : Option Pattern) (resource : Resource) : Bool :=
  match scope? p resource with
  | some (p, path) => p.fits f path
  | none => true

/-- Whether the rule applies to calls from a caller to a resource. -/
def applies (f : Compiler) (r : Rule) (resource : Resource) (caller : Option ServiceKey) : Bool :=
  r.covers resource caller && isInScope f r.matcher.destination.method resource

/-- The block rules in whose scope a resource is. -/
def blocksFor (f : Compiler) (r : Rule) (resource : Resource) : List BlockRule :=
  r.blocks.filter fun b => isInScope f b.api resource

theorem answers_inScope (f : Compiler) (p : Option Pattern) (resource : Resource) :
    Answers f (inScope f p resource) (isInScope f p resource) := by
  unfold inScope isInScope
  cases scope? p resource with
  | none => exact answers_pure f true
  | some s => exact Pattern.answers_matchesIn f s.1 s.2

theorem answers_isApplicable (f : Compiler) (r : Rule) (resource : Resource)
    (caller : Option ServiceKey) :
    Answers f (r.isApplicable f resource caller) (r.applies f resource caller) := by
  unfold isApplicable applies
  cases r.covers resource caller with
  | false => exact answers_pure f false
  | true => exact answers_inScope f _ resource

theorem answers_activeBlocksOf (f : Compiler) (resource : Resource) (bs : List BlockRule) :
    Answers f (activeBlocksOf f resource bs) (bs.filter fun b => isInScope f b.api resource) := by
  induction bs with
  | nil => exact answers_pure f []
  | cons b rest ih =>
      have hfilter : (b :: rest).filter (fun b => isInScope f b.api resource) =
          if isInScope f b.api resource then
            b :: rest.filter fun b => isInScope f b.api resource
          else rest.filter fun b => isInScope f b.api resource := List.filter_cons
      rw [hfilter]
      exact (answers_inScope f b.api resource).bind
        (n := fun here cache =>
          (if here then b :: (activeBlocksOf f resource rest cache).1
            else (activeBlocksOf f resource rest cache).1,
            (activeBlocksOf f resource rest cache).2))
        (ih.bind
          (n := fun more cache =>
            (if isInScope f b.api resource then b :: more else more, cache))
          (answers_pure f _))

theorem answers_activeBlocks (f : Compiler) (r : Rule) (resource : Resource) :
    Answers f (r.activeBlocks f resource) (r.blocksFor f resource) :=
  answers_activeBlocksOf f resource r.blocks

/-- The block rules of a valid rule pass their checks, those in scope among them. -/
theorem check_of_mem_blocksFor {r : Rule} {g : Compiler} (h : r.isValid g = true) {f : Compiler}
    {resource : Resource} : ∀ b ∈ r.blocksFor f resource, b.check g = .ok () := by
  intro b hb
  obtain ⟨-, -, hblocks, -⟩ := isValid_iff.mp h
  exact hblocks b (List.mem_filter.mp hb).1

end Rule

namespace Resolution

/-- The rule that governs calls from a caller to a resource. -/
def governing (f : Compiler) (p : Precedence) (resource : Resource) (caller : Option ServiceKey)
    (rules : List Rule) : Option Rule :=
  match p with
  | .firstMatch => rules.find? fun r => r.applies f resource caller
  | .mostSpecific => mostSpecific? (rules.filter fun r => r.applies f resource caller)

theorem answers_firstApplicable (f : Compiler) (resource : Resource) (caller : Option ServiceKey)
    (rules : List Rule) :
    Answers f (firstApplicable f resource caller rules)
      (rules.find? fun r => r.applies f resource caller) := by
  induction rules with
  | nil => exact answers_pure f none
  | cons r rest ih =>
      refine (Rule.answers_isApplicable f r resource caller).bind
        (n := fun applies cache =>
          if applies then (some r, cache) else firstApplicable f resource caller rest cache) ?_
      rw [List.find?_cons]
      cases r.applies f resource caller with
      | false => exact ih
      | true => exact answers_pure f (some r)

theorem answers_applicable (f : Compiler) (resource : Resource) (caller : Option ServiceKey)
    (rules : List Rule) :
    Answers f (applicable f resource caller rules)
      (rules.filter fun r => r.applies f resource caller) := by
  induction rules with
  | nil => exact answers_pure f []
  | cons r rest ih =>
      rw [List.filter_cons]
      exact (Rule.answers_isApplicable f r resource caller).bind
        (n := fun applies cache =>
          (if applies then r :: (applicable f resource caller rest cache).1
            else (applicable f resource caller rest cache).1,
            (applicable f resource caller rest cache).2))
        (ih.bind
          (n := fun more cache =>
            (if r.applies f resource caller then r :: more else more, cache))
          (answers_pure f _))

/-- **Resolution does not depend on the cache.** -/
theorem answers_resolve (f : Compiler) (p : Precedence) (resource : Resource)
    (caller : Option ServiceKey) (rules : List Rule) :
    Answers f (resolve f p resource caller rules) (governing f p resource caller rules) := by
  cases p with
  | firstMatch => exact answers_firstApplicable f resource caller rules
  | mostSpecific =>
      exact (answers_applicable f resource caller rules).bind
        (n := fun rs cache => (mostSpecific? rs, cache)) (answers_pure f _)

/-- The most specific of some rules is one of them. -/
theorem mem_of_mostSpecific? {rules : List Rule} {r : Rule} (h : mostSpecific? rules = some r) :
    r ∈ rules := by
  induction rules generalizing r with
  | nil => cases h
  | cons q rest ih =>
      unfold mostSpecific? at h
      cases hrest : mostSpecific? rest with
      | none =>
          rw [hrest] at h
          cases h
          exact List.mem_cons_self
      | some s =>
          simp only [hrest] at h
          split at h
          · cases h; exact List.mem_cons_self
          · cases h; exact List.mem_cons_of_mem q (ih hrest)

/-- **The rule that governs is one of the rules.** -/
theorem mem_of_governing {f : Compiler} {p : Precedence} {resource : Resource}
    {caller : Option ServiceKey} {rules : List Rule} {r : Rule}
    (h : governing f p resource caller rules = some r) : r ∈ rules := by
  cases p with
  | firstMatch => exact List.mem_of_find?_eq_some h
  | mostSpecific => exact (List.mem_filter.mp (mem_of_mostSpecific? h)).1

end Resolution

end CircuitBreaker

import CircuitBreaker.Proofs.Transparency

/-!
# `Proofs.Pattern.Eviction` — what is in a cache, and what was pushed out, makes no difference

Two caches over one compiler may differ in their capacity and in what was looked up in them. Both are
faithful to the compiler, so whatever is computed over one of them is what the compiler alone gives,
and the same is computed over the other.

A compiled pattern is a special case. It keeps its expression for good, while a pattern that is matched
through a cache may find its entry gone. Both come to `Pattern.fits`, which knows neither.

## Contents
- `PatternCache.after`: a cache after more lookups; it stays faithful.
- `CompiledPattern.accepts_ofPattern`: a compiled pattern takes the texts that fit.
- `ErrorCondition.meets`, `BlockRule.takesForError`: outcomes classified with patterns looked up now.
- `Block.isError_build?`: a block classifies outcomes like that, through any cache.
- `PatternCache.eviction_does_not_show`: answers over two caches.
-/

namespace CircuitBreaker

namespace PatternCache

/-- The cache after some more texts were looked up. -/
def after (f : Compiler) (c : PatternCache) (texts : List String) : PatternCache :=
  texts.foldl (fun c text => (c.lookup f text).2) c

/-- Lookups leave a faithful cache faithful, whatever they promote or push out. -/
theorem Faithful.after {f : Compiler} {c : PatternCache} (h : c.Faithful f) (texts : List String) :
    (c.after f texts).Faithful f := by
  induction texts generalizing c with
  | nil => exact h
  | cons text rest ih =>
      have hnext : (c.lookup f text).2.Faithful f := (answers_lookup f text c h).2
      exact ih hnext

end PatternCache

/-- What a computation comes to is the same over all faithful caches. -/
theorem Answers.agree {α : Type} {f : Compiler} {m : PatternCache → α × PatternCache} {a : α}
    (h : Answers f m a) {c c' : PatternCache} (hc : c.Faithful f) (hc' : c'.Faithful f) :
    (m c).1 = (m c').1 := by
  rw [(h c hc).1, (h c' hc').1]

/-- A compiled pattern takes the texts that fit the pattern. -/
theorem CompiledPattern.accepts_ofPattern {f : Compiler} {c : PatternCache} (h : c.Faithful f)
    (p : Pattern) (text : String) :
    (CompiledPattern.ofPattern f p c).1.accepts text = p.fits f text := by
  rw [(answers_ofPattern f p c h).1]
  rfl

/-! ## Errors -/

/-- Whether an outcome meets an error condition, whose pattern is looked up in a cache just then. -/
def ErrorCondition.meets (f : Compiler) (cache : PatternCache) (o : Outcome) :
    ErrorCondition → Bool
  | .code p => (p.matchesIn f (toString o.code) cache).1
  | .delay least => decide (least ≤ o.delay)

/-- Whether a block rule takes an outcome for an error, its patterns looked up in a cache just then.
    A rule without conditions goes by the verdict. -/
def BlockRule.takesForError (f : Compiler) (cache : PatternCache) (r : BlockRule) (o : Outcome) :
    Bool :=
  if r.errors.isEmpty then o.verdict.isFailure else r.errors.any fun e => e.meets f cache o

/-- A test that was made ready holds of the outcomes that meet its condition. -/
theorem ErrorTest.holds_of {f : Compiler} {cache : PatternCache} (h : cache.Faithful f)
    (e : ErrorCondition) (o : Outcome) : (ErrorTest.of f e).holds o = e.meets f cache o := by
  cases e with
  | code p =>
      have hfits := (Pattern.answers_matchesIn f p (toString o.code) cache h).1
      exact hfits.symm
  | delay least => rfl

/-- **A block classifies outcomes as its rule does**, through whatever caches the two look at their
    patterns. -/
theorem Block.isError_build? {f : Compiler} {c c' : PatternCache} (hc : c.Faithful f)
    (hc' : c'.Faithful f) (buckets : Nat) (r : BlockRule) (o : Outcome) :
    ((Block.build? f buckets r c).1.map fun b => b.isError o) =
      (Block.triggersOf? buckets r.triggers).map fun _ => r.takesForError f c' o := by
  rw [(Block.answers_build? f buckets r c hc).1, Block.ofRule?]
  cases Block.triggersOf? buckets r.triggers with
  | error e => rfl
  | ok ts =>
      have hany : ((r.errors.map (ErrorTest.of f)).any fun t => t.holds o) =
          r.errors.any fun e => e.meets f c' o := by
        simp only [List.any_map, Function.comp_def, ErrorTest.holds_of hc']
      simp [Except.map, Block.isError, BlockRule.takesForError, hany]

/-! ## Two caches -/

/-- **Evictions do not show.** Take two caches of any capacities over one compiler, with anything
    looked up in them before. The first gives what the compiler gives. Patterns, rules and block rules
    come to the same over both. A pattern compiled through the first takes the texts that the pattern
    matches later, in what became of that cache, and in the other one; and a block built through the
    first takes the outcomes for errors that its rule does over the second. -/
theorem PatternCache.eviction_does_not_show (f : Compiler) (capacity capacity' : Nat)
    (used used' later : List String) :
    let c := warmed f capacity used
    let c' := warmed f capacity' used'
    (∀ text, (c.lookup f text).1 = f text) ∧
      (∀ (p : Pattern) text, (p.matchesIn f text c).1 = (p.matchesIn f text c').1) ∧
      (∀ (p : Pattern) text,
        let compiled := CompiledPattern.ofPattern f p c
        compiled.1.accepts text = (p.matchesIn f text (compiled.2.after f later)).1 ∧
          compiled.1.accepts text = (p.matchesIn f text c').1) ∧
      (∀ (r : Rule) resource caller,
        (r.isApplicable f resource caller c).1 = (r.isApplicable f resource caller c').1) ∧
      (∀ precedence resource caller rules,
        (Resolution.resolve f precedence resource caller rules c).1 =
          (Resolution.resolve f precedence resource caller rules c').1) ∧
      (∀ (r : Rule) resource, (r.activeBlocks f resource c).1 = (r.activeBlocks f resource c').1) ∧
      ∀ buckets (r : BlockRule),
        (Block.build? f buckets r c).1 = (Block.build? f buckets r c').1 ∧
          ∀ o, ((Block.build? f buckets r c).1.map fun b => b.isError o) =
            (Block.triggersOf? buckets r.triggers).map fun _ => r.takesForError f c' o := by
  intro c c'
  have hc : c.Faithful f := faithful_warmed f capacity used
  have hc' : c'.Faithful f := faithful_warmed f capacity' used'
  refine ⟨fun text => ?_, fun p text => ?_, fun p text => ?_, fun r resource caller => ?_,
    fun precedence resource caller rules => ?_, fun r resource => ?_, fun buckets r => ⟨?_, ?_⟩⟩
  · exact (answers_lookup f text c hc).1
  · exact (Pattern.answers_matchesIn f p text).agree hc hc'
  · -- The cache that compiling leaves behind is faithful too, and so is what becomes of it.
    have hleft := ((CompiledPattern.answers_ofPattern f p c hc).2).after later
    have hnow := (Pattern.answers_matchesIn f p text _ hleft).1
    have helse := (Pattern.answers_matchesIn f p text c' hc').1
    have haccepts := CompiledPattern.accepts_ofPattern hc p text
    exact ⟨haccepts.trans hnow.symm, haccepts.trans helse.symm⟩
  · exact (Rule.answers_isApplicable f r resource caller).agree hc hc'
  · exact (Resolution.answers_resolve f precedence resource caller rules).agree hc hc'
  · exact (Rule.answers_activeBlocks f r resource).agree hc hc'
  · exact (Block.answers_build? f buckets r).agree hc hc'
  · exact Block.isError_build? hc hc' buckets r

end CircuitBreaker

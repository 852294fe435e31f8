import Mathlib.Data.Finset.Card
import Mathlib.Data.List.Induction
import CircuitBreaker.Proofs.Transparency

/-!
# `Proofs.Pattern.Recency` — a cache holds the texts that were used last

A cache sees one lookup at a time, but what it holds can be read off the whole sequence of them. Take the
texts that were looked up and compile, each once, the one that was used last in front: this is the list
`recent`. A text that is looked up comes to its front if it compiles, and otherwise nothing changes. The
cache does the same with as many of them as it has room for, whether that is a hit, a miss or a miss that
pushes an entry out (`take_toFront_of_mem`, `take_toFront_of_not_mem`). So its entries are always a
beginning of the list (`names_warmed`).

Where a text stands in the list is known as well. Before it stand the texts that are recent among those
looked up since (`takeWhile_recent`), so its place is their number, and it is still in the cache exactly
if they are fewer than there is room for.

## Contents
- `toFront`, `recent`: the texts that compile, in order of use.
- `since`, `takeWhile_recent`: what was looked up since a text was.
- `distinct`: how many texts compile.
- `names_lookup`, `names_warmed`: the entries of a cache.
- `Asks`, `WasCompiled`, `holds_recently_used`: which lookups ask the compiler.
-/

namespace CircuitBreaker.PatternCache

variable {f : Compiler} {c : PatternCache} {capacity n : Nat} {text : String}
  {texts used : List String}

/-! ## The texts in order of use -/

/-- A list with one text in front and nowhere else. -/
def toFront (used : List String) (text : String) : List String :=
  text :: used.filter fun t => t != text

/-- **The texts that compile, among some that were looked up**: each once, the one that was used last in
    front. -/
def recent (f : Compiler) (texts : List String) : List String :=
  texts.foldl (fun used text => if (f text).isSome then toFront used text else used) []

theorem recent_snoc (f : Compiler) (texts : List String) (text : String) :
    recent f (texts ++ [text]) =
      if (f text).isSome then toFront (recent f texts) text else recent f texts := by
  unfold recent
  rw [List.foldl_append, List.foldl_cons, List.foldl_nil]

theorem mem_toFront {t : String} : t ∈ toFront used text ↔ t = text ∨ t ∈ used := by
  by_cases ht : t = text <;> simp [toFront, ht]

theorem nodup_toFront (h : used.Nodup) : (toFront used text).Nodup :=
  List.nodup_cons.mpr ⟨by simp, h.filter _⟩

theorem mem_recent_iff {t : String} : t ∈ recent f texts ↔ t ∈ texts ∧ (f t).isSome := by
  induction texts using List.reverseRecOn with
  | nil => simp [recent]
  | append_singleton texts text ih =>
      rw [recent_snoc, List.mem_append, List.mem_singleton]
      split
      · rw [mem_toFront, ih]
        constructor
        · rintro (rfl | ⟨ht, hc⟩)
          · exact ⟨Or.inr rfl, ‹_›⟩
          · exact ⟨Or.inl ht, hc⟩
        · rintro ⟨ht | rfl, hc⟩
          · exact Or.inr ⟨ht, hc⟩
          · exact Or.inl rfl
      · rw [ih]
        refine and_congr_left fun hc => (or_iff_left ?_).symm
        rintro rfl
        contradiction

theorem nodup_recent (f : Compiler) (texts : List String) : (recent f texts).Nodup := by
  induction texts using List.reverseRecOn with
  | nil => exact List.nodup_nil
  | append_singleton texts text ih =>
      rw [recent_snoc]
      split
      · exact nodup_toFront ih
      · exact ih

/-- **How many different texts compile**, among some that were looked up. -/
def distinct (f : Compiler) (texts : List String) : Nat :=
  (texts.filter fun t => (f t).isSome).toFinset.card

theorem length_recent (f : Compiler) (texts : List String) :
    (recent f texts).length = distinct f texts := by
  have hsame : (recent f texts).toFinset = (texts.filter fun t => (f t).isSome).toFinset := by
    ext t
    simp only [List.mem_toFinset, mem_recent_iff, List.mem_filter]
  rw [distinct, ← hsame, List.toFinset_card_of_nodup (nodup_recent f texts)]

/-! ## Since a text was looked up -/

/-- **What was looked up since a text was**, or everything if it never was. -/
def since (text : String) (texts : List String) : List String :=
  (texts.reverse.takeWhile fun t => t != text).reverse

theorem since_snoc (text : String) (texts : List String) (t : String) :
    since text (texts ++ [t]) = if t = text then [] else since text texts ++ [t] := by
  by_cases ht : t = text <;> simp [since, ht]

/-- **Before a text stand those that are recent among the texts looked up since.** -/
theorem takeWhile_recent (h : (f text).isSome) (texts : List String) :
    ((recent f texts).takeWhile fun t => t != text) = recent f (since text texts) := by
  induction texts using List.reverseRecOn with
  | nil => rfl
  | append_singleton texts t ih =>
      rw [recent_snoc, since_snoc]
      by_cases ht : t = text
      · rw [if_pos ht, ht, if_pos h]
        simp [toFront, recent]
      · rw [if_neg ht, recent_snoc]
        split
        · -- taking out what is looked up now does not move the end of the beginning
          have hsplit : (((recent f texts).filter fun u => u != t).takeWhile fun u => u != text) =
              ((recent f texts).takeWhile fun u => u != text).filter fun u => u != t := by
            rw [List.takeWhile_filter]
            congr 2
            funext u
            by_cases hu : u = t <;> simp [hu, ht]
          simp [toFront, ht, hsplit, ih]
        · exact ih

/-- A text is among the first so many if fewer stand before it. -/
theorem mem_take_iff : text ∈ used.take n ↔
    text ∈ used ∧ (used.takeWhile fun t => t != text).length < n := by
  induction used generalizing n with
  | nil => simp
  | cons t rest ih =>
      cases n with
      | zero => simp
      | succ n =>
          rw [List.take_succ_cons, List.mem_cons, List.mem_cons, ih]
          by_cases ht : t = text
          · simp [ht]
          · simp [ht, Ne.symm ht]

/-! ## With limited room -/

theorem filter_ne_eq_self {l : List String} (h : text ∉ l) : (l.filter fun t => t != text) = l := by
  refine List.filter_eq_self.mpr fun t ht => bne_iff_ne.mpr ?_
  rintro rfl
  exact h ht

/-- Taking a text out of the first so many leaves one less of the others. -/
theorem filter_take_of_mem (h : used.Nodup) (hmem : text ∈ used.take (n + 1)) :
    ((used.take (n + 1)).filter fun t => t != text) =
      (used.filter fun t => t != text).take n := by
  induction used generalizing n with
  | nil => cases hmem
  | cons t rest ih =>
      obtain ⟨ht, hrest⟩ := List.nodup_cons.mp h
      rw [List.take_succ_cons] at hmem ⊢
      rw [List.filter_cons, List.filter_cons]
      by_cases heq : t = text
      · -- it is the first one, and comes nowhere else
        subst heq
        have hgone : ¬(t != t) = true := by simp
        rw [if_neg hgone, if_neg hgone, filter_ne_eq_self ht,
          filter_ne_eq_self fun hu => ht (List.mem_of_mem_take hu)]
      · have hkeep : (t != text) = true := bne_iff_ne.mpr heq
        have hlater : text ∈ rest.take n := (List.mem_cons.mp hmem).resolve_left (Ne.symm heq)
        rw [if_pos hkeep, if_pos hkeep]
        cases n with
        | zero => cases hlater
        | succ n => rw [List.take_succ_cons, ih hrest hlater]

theorem take_filter_of_not_mem (hmem : text ∉ used.take n) :
    (used.filter fun t => t != text).take n = used.take n := by
  induction used generalizing n with
  | nil => rfl
  | cons t rest ih =>
      cases n with
      | zero => rfl
      | succ n =>
          rw [List.take_succ_cons, List.mem_cons, not_or] at hmem
          have hkeep : (t != text) = true := bne_iff_ne.mpr (Ne.symm hmem.1)
          rw [List.filter_cons, if_pos hkeep, List.take_succ_cons, List.take_succ_cons, ih hmem.2]

/-- **A hit**: a text that is among the first so many comes to the front of them. -/
theorem take_toFront_of_mem (h : used.Nodup) (hmem : text ∈ used.take n) :
    (toFront used text).take n = toFront (used.take n) text := by
  cases n with
  | zero => cases hmem
  | succ n =>
      unfold toFront
      rw [List.take_succ_cons, filter_take_of_mem h hmem]

/-- **A miss**: a text that is not among them is put in front, and the last one goes if there are too
    many. -/
theorem take_toFront_of_not_mem (hmem : text ∉ used.take n) :
    (toFront used text).take n = (text :: used.take n).take n := by
  cases n with
  | zero => rfl
  | succ n =>
      have hshort : text ∉ used.take n := fun ht => hmem (List.take_subset_take_left used (by omega) ht)
      unfold toFront
      rw [List.take_succ_cons, List.take_succ_cons, take_filter_of_not_mem hshort, List.take_take,
        Nat.min_eq_left (Nat.le_succ n)]

/-! ## The entries of a cache -/

/-- The texts that have an entry, the most recently used in front. -/
def names (c : PatternCache) : List String := c.entries.map fun e => e.1

theorem find?_eq_none_iff : c.find? text = none ↔ text ∉ c.names := by
  simp only [find?, names, Option.map_eq_none_iff, List.find?_eq_none, beq_iff_eq, List.mem_map,
    not_exists, not_and]

theorem mem_names_of_find? {r : Regex} (h : c.find? text = some r) : text ∈ c.names :=
  List.mem_map.mpr ⟨_, mem_of_find? h, rfl⟩

/-- **What a lookup does to the entries**: a hit moves the text to the front, a miss puts it there if it
    compiles and there is room for it, and nothing else happens. -/
theorem names_lookup (f : Compiler) (c : PatternCache) (text : String) :
    (c.lookup f text).2.names =
      if text ∈ c.names then toFront c.names text
      else if (f text).isSome then (text :: c.names).take c.capacity
      else c.names := by
  unfold lookup
  cases hfind : c.find? text with
  | some r =>
      rw [if_pos (mem_names_of_find? hfind)]
      simp only [names, promote, toFront, List.map_cons, List.filter_map]
      rfl
  | none =>
      rw [if_neg (find?_eq_none_iff.mp hfind)]
      cases f text with
      | none => rfl
      | some r => simp [names]

/-- **A lookup asks the compiler** if the text has no entry. -/
theorem compilations_lookup (f : Compiler) (c : PatternCache) (text : String) :
    (c.lookup f text).2.compilations =
      if text ∈ c.names then c.compilations else c.compilations + 1 := by
  unfold lookup
  cases hfind : c.find? text with
  | some r => exact (if_pos (mem_names_of_find? hfind)).symm
  | none =>
      rw [if_neg (find?_eq_none_iff.mp hfind)]
      cases f text <;> rfl

theorem capacity_lookup (f : Compiler) (c : PatternCache) (text : String) :
    (c.lookup f text).2.capacity = c.capacity := by
  unfold lookup
  cases c.find? text with
  | some r => rfl
  | none => cases f text <;> rfl

theorem warmed_snoc (f : Compiler) (capacity : Nat) (texts : List String) (text : String) :
    warmed f capacity (texts ++ [text]) = ((warmed f capacity texts).lookup f text).2 := by
  unfold warmed
  rw [List.foldl_append, List.foldl_cons, List.foldl_nil]

theorem capacity_warmed (f : Compiler) (capacity : Nat) (texts : List String) :
    (warmed f capacity texts).capacity = max capacity 1 := by
  induction texts using List.reverseRecOn with
  | nil => rfl
  | append_singleton texts text ih => rw [warmed_snoc, capacity_lookup, ih]

/-- **A cache holds the texts that were used last**, as many as it has room for. -/
theorem names_warmed (f : Compiler) (capacity : Nat) (texts : List String) :
    (warmed f capacity texts).names = (recent f texts).take (max capacity 1) := by
  induction texts using List.reverseRecOn with
  | nil => exact List.take_nil.symm
  | append_singleton texts text ih =>
      -- by now the cache holds a beginning of the list, so it has a hit exactly on what is in there
      rw [warmed_snoc, names_lookup, ih, capacity_warmed, recent_snoc]
      by_cases hmem : text ∈ (recent f texts).take (max capacity 1)
      · have hc : (f text).isSome := (mem_recent_iff.mp (List.mem_of_mem_take hmem)).2
        rw [if_pos hmem, if_pos hc, take_toFront_of_mem (nodup_recent f texts) hmem]
      · rw [if_neg hmem]
        split
        · exact (take_toFront_of_not_mem hmem).symm
        · rfl

/-- **A text has an entry** if it compiles, was looked up, and fewer others came since than there is room
    for. -/
theorem mem_names_warmed_iff : text ∈ (warmed f capacity texts).names ↔
    text ∈ texts ∧ (f text).isSome ∧ distinct f (since text texts) < max capacity 1 := by
  rw [names_warmed, mem_take_iff, mem_recent_iff, and_assoc]
  refine and_congr_right fun _ => and_congr_right fun hc => ?_
  rw [takeWhile_recent hc, length_recent]

/-! ## Asking the compiler -/

/-- **A lookup asks the compiler** if it counts as one more compilation. -/
def Asks (f : Compiler) (c : PatternCache) (text : String) : Prop :=
  (c.lookup f text).2.compilations = c.compilations + 1

theorem asks_iff : c.Asks f text ↔ text ∉ c.names := by
  unfold Asks
  rw [compilations_lookup]
  split
  · exact iff_of_false (by omega) (not_not_intro ‹_›)
  · exact iff_of_true rfl ‹_›

/-- **A text was compiled**, by one of some lookups: that lookup asked the compiler, which took it. -/
def WasCompiled (f : Compiler) (capacity : Nat) (texts : List String) (text : String) : Prop :=
  ∃ before after, texts = before ++ text :: after ∧ (warmed f capacity before).Asks f text ∧
    (f text).isSome

/-- A text is compiled when it is looked up for the first time. -/
theorem wasCompiled_iff : WasCompiled f capacity texts text ↔ text ∈ texts ∧ (f text).isSome := by
  constructor
  · rintro ⟨before, after, rfl, -, hc⟩
    exact ⟨by simp, hc⟩
  · rintro ⟨hmem, hc⟩
    -- before the first lookup of it there was none, so the cache cannot have had it
    obtain ⟨before, after, rfl, hfirst⟩ := List.eq_append_cons_of_mem hmem
    refine ⟨before, after, rfl, asks_iff.mpr fun hname => ?_, hc⟩
    exact hfirst (mem_names_warmed_iff.mp hname).1

/-- **A cache holds exactly what was used recently.** Take any compiler and any capacity, with room for one
    entry at least, and anything that was looked up.
    * The next lookup of a text asks the compiler exactly if the text was never compiled, or if at least
      as many other texts that compile were looked up since as there is room for. A lookup that does not
      ask counts no compilation.
    * A text that does not compile is compiled at every lookup, and leaves the entries as they are. What
      has an entry compiles to what is in it.
    * There are as many entries as there are texts that compile, up to the room there is. -/
theorem holds_recently_used (f : Compiler) (capacity : Nat) (texts : List String) (text : String) :
    let room := max capacity 1
    let cache := warmed f capacity texts
    let next := (cache.lookup f text).2
    (cache.Asks f text ↔
      ¬WasCompiled f capacity texts text ∨ room ≤ distinct f (since text texts)) ∧
    (¬cache.Asks f text → next.compilations = cache.compilations) ∧
    (f text = none → cache.Asks f text ∧ next.entries = cache.entries) ∧
    (∀ e ∈ cache.entries, f e.1 = some e.2) ∧
    cache.size = min room (distinct f texts) := by
  intro room cache next
  have hasks : cache.Asks f text ↔
      ¬WasCompiled f capacity texts text ∨ room ≤ distinct f (since text texts) := by
    rw [asks_iff, mem_names_warmed_iff, ← and_assoc, ← wasCompiled_iff, not_and_or, Nat.not_lt]
  refine ⟨hasks, fun hquiet => ?_, fun hnone => ?_, faithful_warmed f capacity texts, ?_⟩
  · have hmem : text ∈ cache.names := by
      rwa [asks_iff, not_not] at hquiet
    exact (compilations_lookup f cache text).trans (if_pos hmem)
  · have hasked : cache.Asks f text := hasks.mpr (Or.inl fun hc => by
      simpa [hnone] using (wasCompiled_iff.mp hc).2)
    refine ⟨hasked, ?_⟩
    have hfind : cache.find? text = none := find?_eq_none_iff.mpr (asks_iff.mp hasked)
    simp only [next, lookup, hfind, hnone]
  · have hsize : cache.size = cache.names.length := (List.length_map _).symm
    rw [hsize, names_warmed, List.length_take, length_recent]

/-- With room for two, two other texts push one out, while one that does not compile, or one of the two
    looked up again, makes no difference. -/
theorem sample_holds_recently_used :
    let texts := ["a", "b", "(", "a", "c", "a", "("]
    let cache := warmed standardCompiler 2 texts
    cache.names = ["a", "c"] ∧ cache.size = 2 ∧ since "b" texts = ["(", "a", "c", "a", "("] ∧
      distinct standardCompiler (since "b" texts) = 2 ∧ cache.Asks standardCompiler "b" ∧
      distinct standardCompiler (since "c" texts) = 1 ∧ ¬cache.Asks standardCompiler "c" ∧
      (cache.lookup standardCompiler "c").2.compilations = cache.compilations ∧
      standardCompiler "(" = none ∧ cache.Asks standardCompiler "(" := by
  intro texts cache
  have hb : distinct standardCompiler (since "b" texts) = 2 := by decide
  have hc : distinct standardCompiler (since "c" texts) = 1 := by decide
  have hcompiled : WasCompiled standardCompiler 2 texts "c" :=
    wasCompiled_iff.mpr ⟨by decide, by decide⟩
  have hparen : standardCompiler "(" = none := by decide
  obtain ⟨hasksb, -⟩ := holds_recently_used standardCompiler 2 texts "b"
  obtain ⟨hasksc, hquiet, -⟩ := holds_recently_used standardCompiler 2 texts "c"
  obtain ⟨-, -, hfails, -, hsize⟩ := holds_recently_used standardCompiler 2 texts "("
  have hnot : ¬cache.Asks standardCompiler "c" := fun hasks => by
    rcases hasksc.mp hasks with hnever | hmany
    · exact hnever hcompiled
    · rw [hc] at hmany
      exact absurd hmany (by decide)
  refine ⟨by decide, hsize.trans (by decide), by decide, hb, hasksb.mpr (Or.inr (Nat.le_of_eq hb.symm)),
    hc, hnot, hquiet hnot, hparen, (hfails hparen).1⟩

end CircuitBreaker.PatternCache

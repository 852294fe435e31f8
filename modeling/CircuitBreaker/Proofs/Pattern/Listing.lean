import Mathlib.Data.List.TakeWhile
import CircuitBreaker.Block
import CircuitBreaker.Regex.Reader

/-!
# `Proofs.Pattern.Listing` — a list with commas stands for the set of its items

The value of an `In` or a `NotIn` pattern is a list that somebody wrote: items with commas between them,
and white space wherever it was thought to look better. It is read by cutting it at the commas and
trimming the pieces.

Cutting undoes joining as long as no item has a comma (`pieces_listing`), and trimming undoes padding as
long as no item begins or ends with white space (`Text.trimChars_padded`). So what is read is what was
written, and only the items matter. Other items could not be written at all: whatever the value is, no
piece of it has a comma (`not_mem_of_mem_pieces`), and nothing that is trimmed has white space at its
ends (`Text.isBare_trimChars`).

## Contents
- `Text.IsBare`: texts without white space at their ends, and trimming.
- `pieces_eq_splitOn`, `not_mem_of_mem_pieces`: cutting.
- `Listed`, `listing`: items with their padding, and the value that they are written to.
- `isListed_listing_iff`: what is read is what was written.
- `listing_matches_its_items`: patterns.
-/

namespace CircuitBreaker

/-! ## Trimming -/

namespace Text

/-- **A text is bare** if it neither begins nor ends with white space. -/
structure IsBare (cs : List Char) : Prop where
  front : ∀ c ∈ cs.head?, isBlankChar c = false
  back : ∀ c ∈ cs.getLast?, isBlankChar c = false

theorem isBare_iff {cs : List Char} : IsBare cs ↔
    (cs.head?.all fun c => !isBlankChar c) = true ∧ (cs.getLast?.all fun c => !isBlankChar c) = true := by
  simp only [Option.all_eq_true, Bool.not_eq_true', ← Option.mem_def]
  exact ⟨fun h => ⟨h.front, h.back⟩, fun h => ⟨h.1, h.2⟩⟩

instance (cs : List Char) : Decidable (IsBare cs) := decidable_of_iff' _ isBare_iff

/-- What does not begin with something to drop is kept as it is. -/
theorem dropWhile_eq_self {p : Char → Bool} {cs : List Char} (h : ∀ c ∈ cs.head?, p c = false) :
    cs.dropWhile p = cs := by
  cases cs with
  | nil => rfl
  | cons c rest => exact List.dropWhile_cons_of_neg (by simp [h c rfl])

theorem eq_false_of_mem_head?_dropWhile {p : Char → Bool} {cs : List Char} {c : Char}
    (h : c ∈ (cs.dropWhile p).head?) : p c = false := by
  have hstop := List.head?_dropWhile_not p cs
  rw [Option.mem_def.mp h] at hstop
  exact hstop

/-- **Trimming undoes padding.** -/
theorem trimChars_padded {before cs after : List Char} (hcs : IsBare cs)
    (hbefore : ∀ c ∈ before, isBlankChar c = true) (hafter : ∀ c ∈ after, isBlankChar c = true) :
    trimChars (before ++ cs ++ after) = cs := by
  have hback : ∀ c ∈ after.reverse, isBlankChar c = true := fun c hc =>
    hafter c (List.mem_reverse.mp hc)
  unfold trimChars
  rw [List.append_assoc, List.dropWhile_append_of_pos hbefore]
  cases cs with
  | nil =>
      -- nothing but padding is left, and it all goes from the front
      rw [List.nil_append, List.dropWhile_eq_nil_iff.mpr hafter]
      rfl
  | cons c rest =>
      have hfront : ((c :: rest) ++ after).dropWhile isBlankChar = (c :: rest) ++ after :=
        dropWhile_eq_self fun d hd => hcs.front d hd
      have hrest : (c :: rest).reverse.dropWhile isBlankChar = (c :: rest).reverse :=
        dropWhile_eq_self fun d hd => hcs.back d (List.head?_reverse ▸ hd)
      rw [hfront, List.reverse_append, List.dropWhile_append_of_pos hback, hrest,
        List.reverse_reverse]

theorem trimChars_sublist (cs : List Char) : (trimChars cs).Sublist cs := by
  have hback := (List.dropWhile_sublist isBlankChar (l := (cs.dropWhile isBlankChar).reverse)).reverse
  rw [List.reverse_reverse] at hback
  exact hback.trans (List.dropWhile_sublist _)

/-- **What is trimmed is bare.** -/
theorem isBare_trimChars (cs : List Char) : IsBare (trimChars cs) := by
  unfold trimChars
  refine ⟨fun c hc => ?_, fun c hc => ?_⟩
  · -- trimming the end leaves a beginning of what was trimmed in front
    have hprefix := List.reverse_prefix.mpr
      (List.dropWhile_suffix isBlankChar (l := (cs.dropWhile isBlankChar).reverse))
    rw [List.reverse_reverse] at hprefix
    obtain ⟨rest, hrest⟩ := hprefix
    have hhead : c ∈ (cs.dropWhile isBlankChar).head? := by
      rw [← hrest, List.head?_append, Option.mem_def.mp hc]
      rfl
    exact eq_false_of_mem_head?_dropWhile hhead
  · rw [List.getLast?_reverse] at hc
    exact eq_false_of_mem_head?_dropWhile hc

end Text

/-! ## Cutting -/

theorem pieces_eq_splitOn (separator : Char) (cs : List Char) :
    pieces separator cs = cs.splitOn separator := by
  induction cs with
  | nil => rfl
  | cons c rest ih =>
      rw [pieces, ih, List.splitOn_cons_eq_if_modifyHead]
      cases hrest : rest.splitOn separator with
      | nil => exact absurd hrest (List.splitOn_ne_nil _ _)
      | cons p more => rfl

/-- No piece has a separator in it. -/
theorem not_mem_of_mem_pieces {separator : Char} {cs p : List Char} (h : p ∈ pieces separator cs) :
    separator ∉ p := by
  fun_induction pieces separator cs generalizing p with
  | case1 =>
      rw [List.mem_singleton.mp h]
      exact List.not_mem_nil
  | case2 c rest hc ih =>
      rcases List.mem_cons.mp h with rfl | h
      · exact List.not_mem_nil
      · exact ih h
  | case3 c rest hc hrest ih =>
      rw [List.mem_singleton.mp h]
      exact fun hmem => hc (beq_iff_eq.mpr (List.mem_singleton.mp hmem).symm)
  | case4 c rest hc q more hrest ih =>
      rw [hrest] at ih
      rcases List.mem_cons.mp h with rfl | h
      · -- the character goes to the first piece, and is no separator
        intro hmem
        rcases List.mem_cons.mp hmem with heq | hmem
        · exact hc (beq_iff_eq.mpr heq.symm)
        · exact ih List.mem_cons_self hmem
      · exact ih (List.mem_cons_of_mem q h)

/-! ## Listing -/

/-- An item of a list with commas, with the white space that is put around it. -/
structure Listed where
  item : String
  before : String := ""
  after : String := ""
  isBare : Text.IsBare item.toList
  hasNoComma : ',' ∉ item.toList
  isBlank_before : Text.isBlank before = true
  isBlank_after : Text.isBlank after = true

namespace Listed

/-- The item as it is written. -/
def text (l : Listed) : String := l.before ++ l.item ++ l.after

theorem toList_text (l : Listed) : l.text.toList = l.before.toList ++ l.item.toList ++ l.after.toList := by
  simp only [text, String.toList_append]

theorem trimChars_text (l : Listed) : Text.trimChars l.text.toList = l.item.toList := by
  rw [toList_text]
  exact Text.trimChars_padded l.isBare (List.all_eq_true.mp l.isBlank_before)
    (List.all_eq_true.mp l.isBlank_after)

/-- No item is cut in two: a comma is no white space. -/
theorem comma_not_mem_text (l : Listed) : ',' ∉ l.text.toList := by
  have hpad {s : String} (hs : Text.isBlank s = true) : ',' ∉ s.toList := fun hmem =>
    absurd (List.all_eq_true.mp hs ',' hmem) (by decide)
  rw [toList_text]
  simp [hpad l.isBlank_before, hpad l.isBlank_after, l.hasNoComma]

end Listed

/-- The value that a list is written to. -/
def listing (ls : List Listed) : String := ",".intercalate (ls.map Listed.text)

/-- **Cutting undoes joining.** -/
theorem pieces_listing {ls : List Listed} (h : ls ≠ []) :
    pieces ',' (listing ls).toList = ls.map fun l => l.text.toList := by
  have htoList : (listing ls).toList = [','].intercalate (ls.map fun l => l.text.toList) := by
    rw [listing, String.toList_intercalate, List.map_map]
    rfl
  rw [pieces_eq_splitOn, htoList]
  refine List.splitOn_intercalate ',' (fun cs hcs => ?_) (by simpa using h)
  obtain ⟨l, -, rfl⟩ := List.mem_map.mp hcs
  exact l.comma_not_mem_text

namespace Pattern

/-- **What is read is what was written.** -/
theorem isListed_listing_iff {ls : List Listed} (h : ls ≠ []) {text : String} :
    isListed (listing ls) text = true ↔ text ∈ ls.map Listed.item := by
  unfold isListed
  rw [pieces_listing h, List.any_map, List.any_eq_true, List.mem_map]
  refine exists_congr fun l => and_congr_right fun _ => ?_
  rw [Function.comp_apply, l.trimChars_text, beq_iff_eq, String.toList_inj]

/-- **What is read could be written**, whatever the value is. -/
theorem of_isListed {value text : String} (h : isListed value text = true) :
    ',' ∉ text.toList ∧ Text.IsBare text.toList := by
  obtain ⟨p, hp, htrim⟩ := List.any_eq_true.mp h
  rw [← beq_iff_eq.mp htrim]
  refine ⟨fun hmem => not_mem_of_mem_pieces hp ?_, Text.isBare_trimChars p⟩
  exact (Text.trimChars_sublist p).subset hmem

/-! ## Patterns -/

/-- **A set pattern goes by the items of its list.** Take any compiler and any cache, and a list of one item
    or more, written with any white space around the items.
    * An `In` pattern with this value matches exactly the items, a `NotIn` pattern exactly the other
      texts, and both do when they were compiled beforehand. So an error condition takes the outcomes
      whose code is an item.
    * Another list with the same items matches the same texts, in whatever order they are written, how
      often, and with whatever white space.
    * An `In` pattern with any value matches no text with a comma, and none that begins or ends with
      white space. -/
theorem listing_matches_its_items (f : Compiler) (cache : PatternCache) {ls : List Listed}
    (h : ls ≠ []) :
    let items := ls.map Listed.item
    let fits (kind : PatternKind) (value text : String) : Bool :=
      (matchesIn f { kind, value } text cache).1
    let fitsCompiled (kind : PatternKind) (value text : String) : Bool :=
      (CompiledPattern.ofPattern f { kind, value } cache).1.accepts text
    (∀ text, (fits .oneOf (listing ls) text = true ↔ text ∈ items) ∧
      (fits .noneOf (listing ls) text = true ↔ text ∉ items) ∧
      (fitsCompiled .oneOf (listing ls) text = true ↔ text ∈ items) ∧
      (fitsCompiled .noneOf (listing ls) text = true ↔ text ∉ items)) ∧
    (∀ o : Outcome,
      let test := ErrorTest.ofCondition f (.code { kind := .oneOf, value := listing ls }) cache
      test.1.holds o = true ↔ toString o.code ∈ items) ∧
    (∀ others : List Listed, others ≠ [] → (∀ item, item ∈ others.map Listed.item ↔ item ∈ items) →
      ∀ kind ∈ [PatternKind.oneOf, .noneOf], ∀ text,
        fits kind (listing others) text = fits kind (listing ls) text) ∧
    ∀ value text, fits .oneOf value text = true → ',' ∉ text.toList ∧ Text.IsBare text.toList := by
  intro items fits fitsCompiled
  have hone (text : String) : isListed (listing ls) text = true ↔ text ∈ items := isListed_listing_iff h
  have hnone (text : String) : (!isListed (listing ls) text) = true ↔ text ∉ items := by
    rw [Bool.not_eq_true', ← hone, Bool.not_eq_true]
  -- a set pattern is compared as it stands, so neither the compiler nor the cache has a part in it
  refine ⟨fun text => ⟨hone text, hnone text, hone text, hnone text⟩, fun o => hone _,
    fun others hothers hsame kind hkind text => ?_, fun value text hfits => of_isListed hfits⟩
  have hlisted : isListed (listing others) text = isListed (listing ls) text := by
    rw [Bool.eq_iff_iff, isListed_listing_iff hothers, hsame, hone]
  rcases List.mem_cons.mp hkind with rfl | hkind
  · exact hlisted
  · rw [List.mem_singleton.mp hkind]
    exact congrArg not hlisted

/-- A code and an empty item, in a list with blanks and in another, twice and the other way round. -/
theorem sample_listing_matches :
    let code : Listed := ⟨"500", " ", "\t", by decide, by decide, by decide, by decide⟩
    let again : Listed := ⟨"500", "", "", by decide, by decide, by decide, by decide⟩
    let empty : Listed := ⟨"", "\u3000", "", by decide, by decide, by decide, by decide⟩
    let fits (kind : PatternKind) (value text : String) : Bool :=
      (matchesIn standardCompiler { kind, value } text (PatternCache.ofCapacity 1)).1
    listing [code, empty] = " 500\t,\u3000" ∧ listing [empty, again, code] = "\u3000,500, 500\t" ∧
      [code, empty] ≠ [] ∧ fits .oneOf " 500\t,\u3000" "500" = true ∧
      fits .oneOf " 500\t,\u3000" "" = true ∧ fits .noneOf " 500\t,\u3000" " 500" = true ∧
      (∀ text, fits .oneOf "\u3000,500, 500\t" text = fits .oneOf " 500\t,\u3000" text) ∧
      (∀ text, fits .oneOf " 500\t,\u3000" text = true → ',' ∉ text.toList) := by
  intro code again empty fits
  have hvalue : listing [code, empty] = " 500\t,\u3000" := by decide
  have hother : listing [empty, again, code] = "\u3000,500, 500\t" := by decide
  have hsome : [code, empty] ≠ [] := List.cons_ne_nil _ _
  obtain ⟨hitems, -, hsame, hcould⟩ :=
    listing_matches_its_items standardCompiler (PatternCache.ofCapacity 1) hsome
  refine ⟨hvalue, hother, hsome, ?_, ?_, ?_, fun text => ?_, fun text hfits => ?_⟩
  · exact hvalue ▸ (hitems "500").1.mpr (by decide)
  · exact hvalue ▸ (hitems "").1.mpr (by decide)
  · exact hvalue ▸ (hitems " 500").2.1.mpr (by decide)
  · rw [← hvalue, ← hother]
    refine hsame [empty, again, code] (List.cons_ne_nil _ _) (fun item => ?_) .oneOf
      List.mem_cons_self text
    simp [code, again, empty, or_comm]
  · exact (hcould " 500\t,\u3000" text hfits).1

end Pattern

end CircuitBreaker

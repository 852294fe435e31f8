import CircuitBreaker.Proofs.Json.Number
import CircuitBreaker.Proofs.Json.Record

/-!
# `Proofs.Json.Text` — values are read as they were written

A value inside of another is read from the middle of a text, with characters behind it that are not its
own. So the claim that is proved by induction is one about every context: the text of a value starts with
something that no array ends with, and in front of whatever ends a numeral the value is read from it and
from nothing else (`ReadsAs`). The fuel of the reader is no matter, for a text has more characters than
values.

The two layouts differ only in their white space. Arrays and objects differ in their brackets and in what
stands between these, and both are read thing by thing up to the closing bracket. `Brackets` is what they
have in common; one induction over the things serves all four cases (`Brackets.read_intercalate`).

## Contents
- `readText_escape`: quoted texts.
- `IsGaps`, `stops_of_skipGap`: white space.
- `ReadsAs`, `readsAs_quote`, `readsAs_number`: values in context.
- `Brackets`, `Brackets.Reads`, `Brackets.readsAs`: arrays and objects.
- `IsPlain`, `readsAs_compress`, `readsAs_prettyAt`: whole values.
- `parse?_compress`, `parse?_pretty`: whole texts.
- `WritesPlain`, `Restores.restoresText`: written forms that are read back from their texts.
-/

namespace CircuitBreaker.Json

/-! ## Quoted texts -/

section Quotes

/-- A character without an escape is read as it stands. -/
theorem readUnits_plain {c : Char} (hquote : c ≠ '"') (hbackslash : c ≠ '\\') (h : ¬c.toNat < 0x20)
    (done : List Nat) (rest : List Char) :
    readUnits done (c :: rest) = readUnits (c.toNat :: done) rest := by
  rw [readUnits]
  · rw [if_neg h]
  · exact hquote
  · intro _ _ _ _ _ heq _
    exact hbackslash heq
  · intro _ _ heq _
    exact hbackslash heq

/-- A control character is read from its code point. -/
theorem readUnits_control {n : Nat} (h : n < 0x20) (done : List Nat) (rest : List Char) :
    readUnits done (['\\', 'u', '0', '0', hexDigit (n / 16), hexDigit (n % 16)] ++ rest) =
      readUnits (n :: done) rest := by
  have hdigit : ∀ k < 16, hexValue? (hexDigit k) = some k := by decide
  have hvalue : ((0 * 16 + 0) * 16 + n / 16) * 16 + n % 16 = n := by omega
  have hzero : hexValue? '0' = some 0 := rfl
  have hhigh := hdigit (n / 16) (by omega)
  have hlow := hdigit (n % 16) (by omega)
  simp only [List.cons_append, List.nil_append, readUnits, hzero, hhigh, hlow, hvalue]

/-- **An escape is read as its character.** -/
theorem readUnits_escape (c : Char) (done : List Nat) (rest : List Char) :
    readUnits done (escape c ++ rest) = readUnits (c.toNat :: done) rest := by
  unfold escape
  split
  case h_8 hquote hbackslash _ _ _ _ _ =>
    split
    · rename_i hcontrol
      exact readUnits_control hcontrol done rest
    · rename_i hprintable
      exact readUnits_plain hquote hbackslash hprintable done rest
  all_goals rfl

/-- The code points of a text are read in reverse, up to the closing quote. -/
theorem readUnits_flatMap (cs : List Char) (done : List Nat) (rest : List Char) :
    readUnits done (cs.flatMap escape ++ '"' :: rest) =
      some ((cs.map Char.toNat).reverse ++ done, rest) := by
  induction cs generalizing done with
  | nil => rfl
  | cons c cs ih =>
      rw [List.flatMap_cons, List.append_assoc, readUnits_escape, ih, List.map_cons,
        List.reverse_cons, List.append_assoc]
      rfl

/-- No character is half of a pair. -/
theorem assemble_cons (c : Char) (cs : List Char) (units : List Nat) :
    assemble cs (c.toNat :: units) = assemble (c :: cs) units := by
  have hvalid : c.toNat < 0xD800 ∨ 0xDFFF < c.toNat ∧ c.toNat < 0x110000 := c.valid
  rw [assemble.eq_def]
  dsimp only
  rw [if_neg (by omega), if_neg (by omega), Char.ofNat_toNat]

/-- Reversed code points are turned around on the way. -/
theorem assemble_map (cs tail : List Char) :
    assemble tail (cs.map Char.toNat) = some (cs.reverse ++ tail) := by
  induction cs generalizing tail with
  | nil => rfl
  | cons c cs ih =>
      rw [List.map_cons, assemble_cons, ih, List.reverse_cons, List.append_assoc]
      rfl

/-- **A text is read as it was written.** -/
theorem readText_escape (s : String) (rest : List Char) :
    readText (s.toList.flatMap escape ++ '"' :: rest) = some (some s, rest) := by
  unfold readText
  rw [readUnits_flatMap, List.append_nil]
  show some ((assemble [] _).map String.ofList, rest) = _
  rw [← List.map_reverse, assemble_map, List.reverse_reverse, List.append_nil, Option.map_some,
    String.ofList_toList]

theorem toList_quote (s : String) : (quote s).toList = '"' :: (s.toList.flatMap escape ++ ['"']) := by
  simp [quote]

end Quotes

/-! ## White space -/

section Gaps

variable {gap cs after more rest : List Char} {fuel : Nat}

/-- Whether characters are all white space. -/
def IsGaps (gap : List Char) : Prop := ∀ c ∈ gap, isGap c = true

theorem isGaps_nil : IsGaps [] := by
  intro c hc
  cases hc

theorem skipGap_append (h : IsGaps gap) (cs : List Char) : skipGap (gap ++ cs) = skipGap cs :=
  List.dropWhile_append_of_pos h

theorem skipGap_cons {c : Char} (h : isGap c = false) (cs : List Char) :
    skipGap (c :: cs) = c :: cs := by
  simp [skipGap, h]

theorem readValue_append (h : IsGaps gap) (cs : List Char) :
    readValue fuel (gap ++ cs) = readValue fuel cs := by
  cases fuel with
  | zero => rfl
  | succ fuel => rw [readValue, readValue, skipGap_append h]

theorem readItems_append (h : IsGaps gap) (done : List Json) (cs : List Char) :
    readItems fuel done (gap ++ cs) = readItems fuel done cs := by
  cases fuel with
  | zero => rfl
  | succ fuel => rw [readItems, readItems, readValue_append h]

theorem readMembers_append (h : IsGaps gap) (done : List (Option String × Json)) (cs : List Char) :
    readMembers fuel done (gap ++ cs) = readMembers fuel done cs := by
  cases fuel with
  | zero => rfl
  | succ fuel => rw [readMembers, readMembers, skipGap_append h]

theorem isGap_iff {c : Char} : isGap c = true ↔ c = ' ' ∨ c = '\t' ∨ c = '\n' ∨ c = '\r' := by
  simp [isGap, or_assoc]

/-- A numeral ends before white space and before what stands between values. -/
theorem stops_of_skipGap {c : Char} (h : skipGap after = c :: more)
    (hc : c = ',' ∨ c = ']' ∨ c = '\x7d') : Stops after := by
  intro d hd
  cases after with
  | nil => cases hd
  | cons e after =>
      cases hd
      cases hgap : isGap d with
      | true =>
          rcases isGap_iff.mp hgap with rfl | rfl | rfl | rfl <;> decide
      | false =>
          rw [skipGap_cons hgap] at h
          cases h
          rcases hc with rfl | rfl | rfl <;> decide

end Gaps

/-! ## Values in context -/

section Values

variable {text more rest : List Char} {j : Json} {fuel : Nat}

/-- Whether a text is read as a value wherever a value may stand: it starts with neither white space nor
    the end of an array, and is read as the value in front of whatever ends a numeral. -/
structure ReadsAs (text : List Char) (j : Json) : Prop where
  start : ∃ c tail, text = c :: tail ∧ isGap c = false ∧ c ≠ ']'
  value : ∀ fuel rest, text.length < fuel → Stops rest → readValue fuel (text ++ rest) = some (j, rest)

/-- Fuel is spent on the first character at the latest. -/
theorem readsAs_cons {c : Char} (hgap : isGap c = false) (hend : c ≠ ']')
    (h : ∀ fuel rest, text.length < fuel → Stops rest →
      readValue (fuel + 1) (c :: (text ++ rest)) = some (j, rest)) : ReadsAs (c :: text) j := by
  refine ⟨⟨c, text, rfl, hgap, hend⟩, ?_⟩
  intro fuel rest hfuel hrest
  cases fuel with
  | zero => exact absurd hfuel (Nat.not_lt_zero _)
  | succ fuel => exact h fuel rest (Nat.lt_of_succ_lt_succ hfuel) hrest

theorem readsAs_null : ReadsAs "null".toList .null :=
  readsAs_cons rfl (by decide) fun _ _ _ _ => rfl

theorem readsAs_bool (b : Bool) : ReadsAs (if b then "true" else "false").toList (.bool b) := by
  cases b with
  | false => exact readsAs_cons rfl (by decide) fun _ _ _ _ => rfl
  | true => exact readsAs_cons rfl (by decide) fun _ _ _ _ => rfl

theorem readsAs_quote (s : String) : ReadsAs (quote s).toList (.text (some s)) := by
  rw [toList_quote]
  refine readsAs_cons rfl (by decide) fun fuel rest _ _ => ?_
  show (readText _).map (fun r => (Json.text r.1, r.2)) = _
  rw [List.append_assoc, List.singleton_append, readText_escape]
  rfl

/-- What starts a numeral starts nothing else. -/
theorem start_of_literal {c : Char} (h : c = '-' ∨ c.isDigit = true) :
    isGap c = false ∧ c ≠ ']' := by
  constructor
  · rw [Bool.eq_false_iff, ne_eq, isGap_iff]
    rintro (rfl | rfl | rfl | rfl) <;> exact absurd h (by decide)
  · rintro rfl
    exact absurd h (by decide)

theorem readValue_literal {c : Char} (h : c = '-' ∨ c.isDigit = true) (fuel : Nat) (cs : List Char) :
    readValue (fuel + 1) (c :: cs) =
      (readLiteral (c :: cs)).map fun (l, rest) => (.number l.value, rest) := by
  rw [readValue, skipGap_cons (start_of_literal h).1]
  dsimp only
  split
  all_goals first
    | rfl
    | exact absurd h (by decide)

theorem readsAs_number {n : Number} (h : n.IsPlain) : ReadsAs (numberText n).toList (.number n) := by
  obtain ⟨l, hread, -⟩ := readLiteral_numberText h stops_nil
  rw [List.append_nil] at hread
  obtain ⟨c, tail, htext, hc⟩ := head_of_readLiteral hread
  obtain ⟨hgap, hend⟩ := start_of_literal hc
  rw [htext]
  refine readsAs_cons hgap hend fun fuel rest _ hrest => ?_
  obtain ⟨l, hread, hvalue⟩ := readLiteral_numberText h hrest
  rw [htext, List.cons_append] at hread
  rw [readValue_literal hc, hread, ← hvalue]
  rfl

end Values

/-! ## Arrays and objects -/

/-- **Brackets** around things with commas between them: those of arrays and those of objects. -/
structure Brackets (α : Type) where
  opening : Char
  closing : Char
  /-- Read things up to the closing bracket. -/
  read : Nat → List α → List Char → Option (List α × List Char)
  /-- The value that has these things in it. -/
  wrap : List α → Json
  isGap_opening : isGap opening = false
  opening_ne : opening ≠ ']'
  closing_eq : closing = ']' ∨ closing = '\x7d'
  read_append : ∀ fuel gap done cs, IsGaps gap → read fuel done (gap ++ cs) = read fuel done cs
  readValue_nil : ∀ fuel cs rest, skipGap cs = closing :: rest →
    readValue (fuel + 1) (opening :: cs) = some (wrap [], rest)
  readValue_cons : ∀ fuel cs c rest, skipGap cs = c :: rest → c ≠ closing →
    readValue (fuel + 1) (opening :: cs) =
      (read fuel [] (c :: rest)).map fun (things, rest) => (wrap things, rest)

namespace Brackets

/-- The brackets of an array. -/
def array : Brackets Json where
  opening := '['
  closing := ']'
  read := readItems
  wrap := .array
  isGap_opening := rfl
  opening_ne := by decide
  closing_eq := .inl rfl
  read_append _ _ done cs h := readItems_append h done cs
  readValue_nil fuel cs rest h := by
    have hopening : skipGap ('[' :: cs) = '[' :: cs := skipGap_cons rfl cs
    simp only [readValue, hopening, h]
  readValue_cons fuel cs c rest h hc := by
    have hopening : skipGap ('[' :: cs) = '[' :: cs := skipGap_cons rfl cs
    simp only [readValue, hopening, h]
    split
    · rename_i heq
      cases heq
      exact absurd rfl hc
    · rfl

/-- The brackets of an object. -/
def object : Brackets (Option String × Json) where
  opening := '\x7b'
  closing := '\x7d'
  read := readMembers
  wrap := .object
  isGap_opening := rfl
  opening_ne := by decide
  closing_eq := .inr rfl
  read_append _ _ done cs h := readMembers_append h done cs
  readValue_nil fuel cs rest h := by
    have hopening : skipGap ('\x7b' :: cs) = '\x7b' :: cs := skipGap_cons rfl cs
    simp only [readValue, hopening, h]
  readValue_cons fuel cs c rest h hc := by
    have hopening : skipGap ('\x7b' :: cs) = '\x7b' :: cs := skipGap_cons rfl cs
    simp only [readValue, hopening, h]
    split
    · rename_i heq
      cases heq
      exact absurd rfl hc
    · rfl

section Sequence

variable {α : Type} {b : Brackets α} {gap before : List Char} {texts : List (List Char)}
  {text : List Char} {as : List α} {a : α}

/-- Whether a text is read as one of the things between brackets, in front of a comma and in front of the
    closing bracket. -/
structure Reads (b : Brackets α) (text : List Char) (a : α) : Prop where
  start : ∃ c tail, text = c :: tail ∧ isGap c = false ∧ c ≠ b.closing
  comma : ∀ fuel done after more, text.length < fuel → skipGap after = ',' :: more →
    b.read (fuel + 1) done (text ++ after) = b.read fuel (a :: done) more
  close : ∀ fuel done after rest, text.length < fuel → skipGap after = b.closing :: rest →
    b.read (fuel + 1) done (text ++ after) = some ((a :: done).reverse, rest)

theorem isGap_closing (b : Brackets α) : isGap b.closing = false := by
  rcases b.closing_eq with h | h <;> rw [h] <;> rfl

theorem exists_intercalate_eq (separator text : List Char) (texts : List (List Char)) :
    ∃ rest, separator.intercalate (text :: texts) = text ++ rest := by
  cases texts with
  | nil => exact ⟨[], by rw [List.intercalate_singleton, List.append_nil]⟩
  | cons next texts => exact ⟨_, by rw [List.intercalate_cons_cons, List.append_assoc]⟩

/-- **Things are read one after the other.** -/
theorem read_intercalate (hgap : IsGaps gap) (hbefore : IsGaps before)
    (h : List.Forall₂ b.Reads (text :: texts) as) (done : List α) (rest : List Char) {fuel : Nat}
    (hfuel : ((',' :: gap).intercalate (text :: texts)).length + 1 < fuel) :
    b.read fuel done ((',' :: gap).intercalate (text :: texts) ++ (before ++ b.closing :: rest)) =
      some (done.reverse ++ as, rest) := by
  -- one thing is read at a time, so there is at least as much fuel left as there is text
  induction texts generalizing text as done fuel with
  | nil =>
      obtain _ | ⟨htext, _ | _⟩ := h
      rw [List.intercalate_singleton] at hfuel ⊢
      obtain ⟨fuel, rfl⟩ := Nat.exists_eq_succ_of_ne_zero (Nat.ne_zero_of_lt hfuel)
      have hclose : skipGap (before ++ b.closing :: rest) = b.closing :: rest := by
        rw [skipGap_append hbefore, skipGap_cons b.isGap_closing]
      rw [htext.close fuel done _ rest (by omega) hclose, List.reverse_cons]
  | cons next texts ih =>
      obtain _ | ⟨htext, htexts⟩ := h
      rw [List.intercalate_cons_cons] at hfuel ⊢
      rw [List.length_append, List.length_append, List.length_cons] at hfuel
      obtain ⟨fuel, rfl⟩ := Nat.exists_eq_succ_of_ne_zero (Nat.ne_zero_of_lt hfuel)
      rw [List.append_assoc, List.append_assoc, List.cons_append,
        htext.comma fuel done _ _ (by omega) (skipGap_cons rfl _), b.read_append _ _ _ _ hgap,
        ih htexts _ (by omega), List.reverse_cons, List.append_assoc]
      rfl

/-- **A bracketed text is read as the things in it**, however much white space there is. -/
theorem readsAs (hgap : IsGaps gap) (hbefore : IsGaps before) (h : List.Forall₂ b.Reads texts as) :
    ReadsAs (b.opening :: (gap ++ (',' :: gap).intercalate texts ++ before ++ [b.closing]))
      (b.wrap as) := by
  refine readsAs_cons b.isGap_opening b.opening_ne fun fuel rest hfuel _ => ?_
  simp only [List.append_assoc, List.singleton_append]
  cases h with
  | nil =>
      apply b.readValue_nil
      rw [List.intercalate_nil, List.nil_append, skipGap_append hgap, skipGap_append hbefore,
        skipGap_cons b.isGap_closing]
  | @cons text a texts as htext htexts =>
      -- what comes first is the first character of the first thing
      obtain ⟨c, tail, hstart, hc, hclosing⟩ := htext.start
      obtain ⟨others, hothers⟩ := exists_intercalate_eq (',' :: gap) text texts
      have hhead : skipGap (gap ++ ((',' :: gap).intercalate (text :: texts) ++
            (before ++ b.closing :: rest))) =
          (',' :: gap).intercalate (text :: texts) ++ (before ++ b.closing :: rest) := by
        rw [skipGap_append hgap, hothers, hstart, List.cons_append, List.cons_append, skipGap_cons hc]
      have hcons : (',' :: gap).intercalate (text :: texts) ++ (before ++ b.closing :: rest) =
          c :: (tail ++ others ++ (before ++ b.closing :: rest)) := by
        rw [hothers, hstart]
        rfl
      rw [b.readValue_cons fuel _ c _ (hhead.trans hcons) hclosing, ← hcons,
        read_intercalate hgap hbefore (.cons htext htexts) [] rest]
      · rfl
      · simp only [List.length_append, List.length_singleton] at hfuel
        omega

end Sequence

end Brackets

section Members

variable {gap text : List Char} {j : Json}

/-- An item is followed by another one or by the end of the array. -/
theorem readItems_comma {cs after more : List Char} {fuel : Nat}
    (hvalue : readValue fuel cs = some (j, after)) (hafter : skipGap after = ',' :: more)
    (done : List Json) : readItems (fuel + 1) done cs = readItems fuel (j :: done) more := by
  simp only [readItems, hvalue, hafter]

theorem readItems_close {cs after rest : List Char} {fuel : Nat}
    (hvalue : readValue fuel cs = some (j, after)) (hafter : skipGap after = ']' :: rest)
    (done : List Json) : readItems (fuel + 1) done cs = some ((j :: done).reverse, rest) := by
  simp only [readItems, hvalue, hafter]

/-- **A value is an item of an array.** -/
theorem ReadsAs.item (h : ReadsAs text j) : Brackets.array.Reads text j where
  start := h.start
  comma fuel done after more hfuel hafter := by
    have hstops : Stops after := stops_of_skipGap hafter (.inl rfl)
    exact readItems_comma (h.value fuel after hfuel hstops) hafter done
  close fuel done after rest hfuel hafter := by
    have hstops : Stops after := stops_of_skipGap hafter (.inr (.inl rfl))
    exact readItems_close (h.value fuel after hfuel hstops) hafter done

/-- A member: its name, a colon, and its value behind white space. -/
def memberText (gap : List Char) (name : String) (text : List Char) : List Char :=
  '"' :: (name.toList.flatMap escape ++ '"' :: ':' :: (gap ++ text))

theorem memberText_append (gap : List Char) (name : String) (text after : List Char) :
    memberText gap name text ++ after =
      '"' :: (name.toList.flatMap escape ++ '"' :: ':' :: (gap ++ (text ++ after))) := by
  simp [memberText]

theorem length_lt_memberText (gap : List Char) (name : String) (text : List Char) :
    text.length < (memberText gap name text).length := by
  simp only [memberText, List.length_append, List.length_cons]
  omega

section Member

variable {cs value after more rest : List Char} {name : String} {fuel : Nat}

/-- A member is followed by another one or by the end of the object. -/
theorem readMembers_comma (hname : readText cs = some (some name, ':' :: value))
    (hvalue : readValue fuel value = some (j, after)) (hafter : skipGap after = ',' :: more)
    (done : List (Option String × Json)) :
    readMembers (fuel + 1) done ('"' :: cs) = readMembers fuel ((some name, j) :: done) more := by
  have hquote : skipGap ('"' :: cs) = '"' :: cs := skipGap_cons rfl cs
  have hcolon : skipGap (':' :: value) = ':' :: value := skipGap_cons rfl value
  simp only [readMembers, hquote, hname, hcolon, hvalue, hafter]

theorem readMembers_close (hname : readText cs = some (some name, ':' :: value))
    (hvalue : readValue fuel value = some (j, after)) (hafter : skipGap after = '\x7d' :: rest)
    (done : List (Option String × Json)) :
    readMembers (fuel + 1) done ('"' :: cs) = some (((some name, j) :: done).reverse, rest) := by
  have hquote : skipGap ('"' :: cs) = '"' :: cs := skipGap_cons rfl cs
  have hcolon : skipGap (':' :: value) = ':' :: value := skipGap_cons rfl value
  simp only [readMembers, hquote, hname, hcolon, hvalue, hafter]

end Member

/-- The value of a member is read behind the colon. -/
theorem ReadsAs.value_of_member (h : ReadsAs text j) (hgap : IsGaps gap) {name : String} {fuel : Nat}
    (hfuel : (memberText gap name text).length < fuel) {after : List Char} (hafter : Stops after) :
    readValue fuel (gap ++ (text ++ after)) = some (j, after) := by
  rw [readValue_append hgap]
  exact h.value fuel after (Nat.lt_trans (length_lt_memberText gap name text) hfuel) hafter

/-- **A value behind its name is a member of an object.** -/
theorem ReadsAs.member (h : ReadsAs text j) (hgap : IsGaps gap) (name : String) :
    Brackets.object.Reads (memberText gap name text) (some name, j) where
  start := ⟨'"', _, rfl, rfl, by decide⟩
  comma fuel done after more hfuel hafter := by
    have hstops : Stops after := stops_of_skipGap hafter (.inl rfl)
    rw [memberText_append]
    exact readMembers_comma (readText_escape name _) (h.value_of_member hgap hfuel hstops) hafter done
  close fuel done after rest hfuel hafter := by
    have hstops : Stops after := stops_of_skipGap hafter (.inr (.inr rfl))
    rw [memberText_append]
    exact readMembers_close (readText_escape name _) (h.value_of_member hgap hfuel hstops) hafter done

end Members

/-! ## Whole values -/

mutual

/-- Whether all texts and numbers of a value are read as they were written. -/
def IsPlain : Json → Prop
  | .null => True
  | .bool _ => True
  | .number n => n.IsPlain
  | .text s => s.isSome = true
  | .array items => IsPlainList items
  | .object members => IsPlainMembers members

/-- Whether all values are plain. -/
def IsPlainList : List Json → Prop
  | [] => True
  | j :: rest => IsPlain j ∧ IsPlainList rest

/-- Whether all members are plain, their names included. -/
def IsPlainMembers : List (Option String × Json) → Prop
  | [] => True
  | (name, j) :: rest => name.isSome = true ∧ IsPlain j ∧ IsPlainMembers rest

end

/-! Both layouts follow the constructors: a value is read as it was written if all values in it are. -/

mutual

theorem readsAs_compress (j : Json) (h : j.IsPlain) : ReadsAs (compress j).toList j := by
  cases j with
  | null => exact readsAs_null
  | bool b => exact readsAs_bool b
  | number n => exact readsAs_number h
  | text s =>
      obtain ⟨s, rfl⟩ := Option.isSome_iff_exists.mp h
      exact readsAs_quote s
  | array items =>
      have hread := Brackets.array.readsAs isGaps_nil isGaps_nil (reads_compressList items h)
      have htext : (compress (.array items)).toList =
          '[' :: ([] ++ [','].intercalate ((compressList items).map String.toList) ++ [] ++ [']']) := by
        simp [compress, String.toList_intercalate]
      exact htext ▸ hread
  | object members =>
      have hread := Brackets.object.readsAs isGaps_nil isGaps_nil (reads_compressMembers members h)
      have htext : (compress (.object members)).toList =
          '\x7b' :: ([] ++ [','].intercalate ((compressMembers members).map String.toList) ++ [] ++
            ['\x7d']) := by
        simp [compress, String.toList_intercalate]
      exact htext ▸ hread

theorem reads_compressList (items : List Json) (h : IsPlainList items) :
    List.Forall₂ Brackets.array.Reads ((compressList items).map String.toList) items := by
  cases items with
  | nil => exact .nil
  | cons j rest => exact .cons (readsAs_compress j h.1).item (reads_compressList rest h.2)

theorem reads_compressMembers (members : List (Option String × Json)) (h : IsPlainMembers members) :
    List.Forall₂ Brackets.object.Reads ((compressMembers members).map String.toList) members := by
  match members with
  | [] => exact .nil
  | (name, j) :: rest =>
      obtain ⟨hname, hj, hrest⟩ := h
      obtain ⟨name, rfl⟩ := Option.isSome_iff_exists.mp hname
      have hread := (readsAs_compress j hj).member isGaps_nil name
      have htext : (quote name ++ ":" ++ compress j).toList = memberText [] name (compress j).toList := by
        simp [memberText, toList_quote]
      exact .cons (htext ▸ hread) (reads_compressMembers rest hrest)

end

section Layout

variable {α : Type} {b : Brackets α} {opening closing : String} {lines : List String} {as : List α}

theorem isGaps_newline (level : Nat) : IsGaps (newline level).toList := by
  intro c hc
  rw [newline, String.toList_ofList, List.mem_cons] at hc
  rcases hc with rfl | hc
  · rfl
  · rw [List.eq_of_mem_replicate hc]
    rfl

/-- Things on lines of their own are read like others. -/
theorem readsAs_bracketed (level : Nat) (hopening : opening.toList = [b.opening])
    (hclosing : closing.toList = [b.closing])
    (h : List.Forall₂ b.Reads (lines.map String.toList) as) :
    ReadsAs (bracketed level opening closing lines).toList (b.wrap as) := by
  unfold bracketed
  split
  · rename_i hempty
    have hread := b.readsAs isGaps_nil isGaps_nil h
    rw [List.isEmpty_iff.mp hempty] at hread
    rw [String.toList_append, hopening, hclosing]
    exact hread
  · have hread := b.readsAs (isGaps_newline (level + 1)) (isGaps_newline level) h
    simp only [String.toList_append, String.toList_intercalate, hopening, hclosing,
      List.append_assoc, List.singleton_append] at hread ⊢
    exact hread

end Layout

mutual

theorem readsAs_prettyAt (level : Nat) (j : Json) (h : j.IsPlain) :
    ReadsAs (prettyAt level j).toList j := by
  cases j with
  | null => exact readsAs_null
  | bool b => exact readsAs_bool b
  | number n => exact readsAs_number h
  | text s =>
      obtain ⟨s, rfl⟩ := Option.isSome_iff_exists.mp h
      exact readsAs_quote s
  | array items =>
      have hitems := reads_prettyList (level + 1) items h
      exact readsAs_bracketed level rfl rfl hitems
  | object members =>
      have hmembers := reads_prettyMembers (level + 1) members h
      exact readsAs_bracketed level rfl rfl hmembers

theorem reads_prettyList (level : Nat) (items : List Json) (h : IsPlainList items) :
    List.Forall₂ Brackets.array.Reads ((prettyList level items).map String.toList) items := by
  match items with
  | [] => exact .nil
  | j :: rest =>
      obtain ⟨hj, hrest⟩ := h
      exact .cons (readsAs_prettyAt level j hj).item (reads_prettyList level rest hrest)

theorem reads_prettyMembers (level : Nat) (members : List (Option String × Json))
    (h : IsPlainMembers members) :
    List.Forall₂ Brackets.object.Reads ((prettyMembers level members).map String.toList) members := by
  match members with
  | [] => exact .nil
  | (name, j) :: rest =>
      obtain ⟨hname, hj, hrest⟩ := h
      obtain ⟨name, rfl⟩ := Option.isSome_iff_exists.mp hname
      have hspace : IsGaps [' '] := by
        intro c hc
        rw [List.mem_singleton.mp hc]
        rfl
      have hread := (readsAs_prettyAt level j hj).member hspace name
      have htext : (quote name ++ ": " ++ prettyAt level j).toList =
          memberText [' '] name (prettyAt level j).toList := by
        simp [memberText, toList_quote]
      exact .cons (htext ▸ hread) (reads_prettyMembers level rest hrest)

end

/-- A text that is read as a value in every context stands for it. -/
theorem parse?_of_readsAs {s : String} {j : Json} (h : ReadsAs s.toList j) : parse? s = some j := by
  have hread := h.value (s.toList.length + 1) [] (Nat.lt_succ_self _) stops_nil
  rw [List.append_nil] at hread
  unfold parse?
  simp only [hread]
  rfl

/-- **A plain value is read as it was written**, without white space and with it. -/
theorem parse?_compress {j : Json} (h : j.IsPlain) : parse? j.compress = some j :=
  parse?_of_readsAs (readsAs_compress j h)

theorem parse?_pretty {j : Json} (h : j.IsPlain) : parse? j.pretty = some j :=
  parse?_of_readsAs (readsAs_prettyAt 0 j h)

/-! ## Written forms -/

section Forms

variable {α : Type} {form : α → Json → Prop} {decode : Json → Option α} {a : α}

/-- Whether all that may be written of a thing is plain. -/
def WritesPlain (form : α → Json → Prop) (a : α) : Prop := ∀ j, form a j → j.IsPlain

/-- Whether a thing is restored from the texts of whatever may be written of it, in either layout. -/
def RestoresText (decode : Json → Option α) (form : α → Json → Prop) (a : α) : Prop :=
  ∀ j, form a j →
    (parse? j.compress).bind decode = some a ∧ (parse? j.pretty).bind decode = some a

theorem Restores.restoresText (h : Restores decode form a) (hplain : WritesPlain form a) :
    RestoresText decode form a := by
  intro j hj
  rw [parse?_compress (hplain j hj), parse?_pretty (hplain j hj)]
  exact ⟨h j hj, h j hj⟩

theorem writesPlain_isExactly {encode : α → Json} (h : (encode a).IsPlain) :
    WritesPlain (IsExactly encode) a := by
  rintro _ rfl
  exact h

theorem writesPlain_str (s : String) : WritesPlain (IsExactly .str) s := writesPlain_isExactly rfl

theorem writesPlain_bool (b : Bool) : WritesPlain (IsExactly .bool) b := writesPlain_isExactly trivial

theorem writesPlain_int {n : Int} (h : Int64.minValue.toInt ≤ n ∧ n ≤ significandLimit) :
    WritesPlain (IsExactly .int) n := writesPlain_isExactly h

theorem writesPlain_nat {n : Nat} (h : n ≤ limit64) : WritesPlain (IsExactly .nat) n :=
  writesPlain_isExactly ⟨Int.le_trans (by decide) (Int.natCast_nonneg n), Int.ofNat_le.mpr h⟩

/-- A number of 32 bits is one of 64 bits. -/
theorem le_limit64 {n : Nat} (h : n ≤ limit32) : n ≤ limit64 := Nat.le_trans h (by decide)

theorem writesPlain_float {x : Float} (h : ReadsBack x) : WritesPlain (IsExactly .float) x := by
  refine writesPlain_isExactly ?_
  unfold float
  split
  · exact h
  · exact trivial

theorem writesPlain_option {a : Option α} (h : ∀ c, a = some c → WritesPlain form c) :
    WritesPlain (IsOptionOf form) a := by
  intro j hj
  cases a with
  | none => exact (show j = .null from hj) ▸ trivial
  | some c => exact h c rfl j hj

theorem writesPlain_list {as : List α} (h : ∀ a ∈ as, WritesPlain form a) :
    WritesPlain (IsListOf form) as := by
  rintro _ ⟨items, rfl, hitems⟩
  induction hitems with
  | nil => exact trivial
  | @cons a j as items ha _ ih =>
      exact ⟨h a List.mem_cons_self j ha, ih fun a ha => h a (List.mem_cons_of_mem _ ha)⟩

theorem isPlain_record {ms : List (String × Json)} (h : ∀ m ∈ ms, m.2.IsPlain) :
    (record ms).IsPlain := by
  induction ms with
  | nil => exact trivial
  | cons m rest ih =>
      exact ⟨rfl, h m List.mem_cons_self, ih fun m hm => h m (List.mem_cons_of_mem _ hm)⟩

theorem IsRecordOf.isPlain {fs : List Field} {j : Json} (h : j.IsRecordOf fs)
    (hs : Field.All IsPlain fs) : j.IsPlain := by
  obtain ⟨ms, written, hwritten, hperm, rfl⟩ := h
  refine isPlain_record fun m hm => ?_
  exact hwritten.forall_of_all hs m (hperm.mem_iff.mp hm)

end Forms

end CircuitBreaker.Json

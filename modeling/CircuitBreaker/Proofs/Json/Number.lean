import Mathlib.Data.List.TakeWhile
import CircuitBreaker.Json.Printer
import CircuitBreaker.Json.Reader

/-!
# `Proofs.Json.Number` — numbers are read as they were written

A numeral ends where a character comes that cannot belong to it. Whatever stands behind such an end makes
no difference to how the numeral is read (`readLiteral_append`), so it is enough to look at numerals that
stand alone.

Whole numbers of at most 64 bits are written with all their digits and read back (`readLiteral_toString`). For
floats that is more than the reader promises: it rounds twice, and the result may be one unit in the last
place off. `ReadsBack` names the floats that it reads back, and nothing here says which these are.

## Contents
- `Stops`, `readLiteral_append`: the end of a numeral.
- `takeDigits_toDigits`, `toDigits_ne_zero_cons`, `readLiteral_toString`: whole numbers.
- `ReadsBack`, `Number.IsPlain`: the numbers that read back.
- `readLiteral_numberText`: they do, in front of whatever ends a numeral.
-/

namespace CircuitBreaker.Json

variable {cs rest left : List Char} {negative : Bool}

/-! ## The end of a numeral -/

/-- Whether a numeral in front of `rest` ends there. -/
def Stops (rest : List Char) : Prop :=
  ∀ c ∈ rest.head?, c.isDigit = false ∧ c ≠ '.' ∧ c ≠ 'e' ∧ c ≠ 'E'

theorem stops_nil : Stops [] := by
  intro c hc
  cases hc

theorem splitDigits_append (h : Stops rest) (cs : List Char) :
    splitDigits (cs ++ rest) = ((splitDigits cs).1, (splitDigits cs).2 ++ rest) := by
  unfold splitDigits
  induction cs with
  | nil =>
      cases rest with
      | nil => rfl
      | cons c rest =>
          obtain ⟨hdigit, -⟩ := h c rfl
          simp [hdigit]
  | cons c cs ih =>
      obtain ⟨htake, hdrop⟩ := Prod.ext_iff.mp ih
      cases hdigit : c.isDigit with
      | false => simp [hdigit]
      | true => simp_all

theorem readFraction_append (h : Stops rest) {fraction : Option (List Char)}
    (hread : readFraction cs = some (fraction, left)) :
    readFraction (cs ++ rest) = some (fraction, left ++ rest) := by
  cases cs with
  | nil =>
      cases hread
      cases rest with
      | nil => rfl
      | cons c rest =>
          obtain ⟨-, hpoint, -⟩ := h c rfl
          simp [readFraction, hpoint]
  | cons c cs =>
      by_cases hpoint : c = '.'
      · subst hpoint
        simp only [readFraction, List.cons_append, splitDigits_append h] at hread ⊢
        split at hread
        · cases hread
        · cases hread
          rename_i hsome
          rw [if_neg hsome]
      · have hnone : ∀ tail, readFraction (c :: tail) = some (none, c :: tail) := by
          intro tail
          simp [readFraction, hpoint]
        rw [hnone] at hread
        cases hread
        exact hnone _

/-- Digits with their sign, and what follows them. -/
def splitSigned : List Char → Bool × List Char × List Char
  | '-' :: cs => (true, splitDigits cs)
  | '+' :: cs => (false, splitDigits cs)
  | cs => (false, splitDigits cs)

theorem readPower_cons {c : Char} (h : (c == 'e' || c == 'E') = true) (cs : List Char) :
    readPower (c :: cs) =
      if (splitSigned cs).2.1.isEmpty then none
      else some (some ((splitSigned cs).1, (splitSigned cs).2.1), (splitSigned cs).2.2) := by
  simp only [readPower, h, if_true]
  split
  · rfl
  · rfl
  · rename_i hminus hplus
    have hunsigned : splitSigned cs = (false, splitDigits cs) := by
      unfold splitSigned
      split
      · exact absurd rfl (hminus _)
      · exact absurd rfl (hplus _)
      · rfl
    rw [hunsigned]

theorem splitSigned_append (h : Stops rest) (c : Char) (cs : List Char) :
    splitSigned (c :: cs ++ rest) = ((splitSigned (c :: cs)).1, (splitSigned (c :: cs)).2.1,
      (splitSigned (c :: cs)).2.2 ++ rest) := by
  by_cases hminus : c = '-'
  · subst hminus
    simp only [List.cons_append, splitSigned, splitDigits_append h]
  · by_cases hplus : c = '+'
    · subst hplus
      simp only [List.cons_append, splitSigned, splitDigits_append h]
    · have hunsigned : ∀ tail, splitSigned (c :: tail) = (false, splitDigits (c :: tail)) := by
        intro tail
        simp [splitSigned, hminus, hplus]
      rw [hunsigned, ← splitDigits_append h, List.cons_append, hunsigned]

theorem readPower_append (h : Stops rest) {power : Option (Bool × List Char)}
    (hread : readPower cs = some (power, left)) :
    readPower (cs ++ rest) = some (power, left ++ rest) := by
  cases cs with
  | nil =>
      cases hread
      cases rest with
      | nil => rfl
      | cons c rest =>
          obtain ⟨-, -, he, hE⟩ := h c rfl
          simp [readPower, he, hE]
  | cons c cs =>
      by_cases hpower : (c == 'e' || c == 'E') = true
      · -- a sign or a digit has to follow, so that the numeral does not end behind the letter
        rw [List.cons_append]
        rw [readPower_cons hpower] at hread ⊢
        cases cs with
        | nil => cases hread
        | cons d cs =>
            rw [splitSigned_append h]
            split at hread
            · cases hread
            · cases hread
              rename_i hsome
              rw [if_neg hsome]
      · have hnone : ∀ tail, readPower (c :: tail) = some (none, c :: tail) := by
          intro tail
          simp_all [readPower]
        rw [hnone] at hread
        cases hread
        exact hnone _

/-- A number after its sign. -/
def readUnsigned (negative : Bool) (cs : List Char) : Option (Literal × List Char) :=
  let (whole, cs) := splitDigits cs
  match whole with
  | [] => none
  | '0' :: _ :: _ => none
  | _ => do
    let (fraction, cs) ← readFraction cs
    let (power, cs) ← readPower cs
    some ({ negative, whole, fraction, power }, cs)

theorem readLiteral_minus (cs : List Char) : readLiteral ('-' :: cs) = readUnsigned true cs := rfl

theorem readLiteral_of_ne {c : Char} (h : c ≠ '-') (cs : List Char) :
    readLiteral (c :: cs) = readUnsigned false (c :: cs) := by
  unfold readLiteral
  split
  rename_i hsign
  split at hsign
  · rename_i hminus
    cases hminus
    exact absurd rfl h
  · cases hsign
    rfl

/-- **What a number is after its sign**: digits, no zero in front of others, and then a fraction and a
    power, if they follow. -/
theorem readUnsigned_eq_some_iff {l : Literal} :
    readUnsigned negative cs = some (l, left) ↔
      l.negative = negative ∧ (splitDigits cs).1 = l.whole ∧ l.whole ≠ [] ∧
        (∀ d ds, l.whole ≠ '0' :: d :: ds) ∧
        ∃ mid, readFraction (splitDigits cs).2 = some (l.fraction, mid) ∧
          readPower mid = some (l.power, left) := by
  unfold readUnsigned
  obtain ⟨whole, after⟩ := splitDigits cs
  constructor
  · intro hread
    dsimp only at hread
    split at hread
    · cases hread
    · cases hread
    · rename_i hnil hzero
      obtain ⟨⟨fraction, mid⟩, hfraction, hread⟩ := Option.bind_eq_some_iff.mp hread
      obtain ⟨⟨power, left⟩, hpower, hread⟩ := Option.bind_eq_some_iff.mp hread
      cases hread
      exact ⟨rfl, rfl, hnil, hzero, mid, hfraction, hpower⟩
  · rintro ⟨rfl, hwhole, hnil, hzero, mid, hfraction, hpower⟩
    dsimp only at hwhole hfraction ⊢
    split
    · exact absurd hwhole.symm hnil
    · exact absurd hwhole.symm (hzero _ _)
    · rw [hfraction, hwhole]
      show (readPower mid >>= _) = _
      rw [hpower]
      rfl

/-- **What ends a numeral does not change how it is read.** -/
theorem readLiteral_append (h : Stops rest) {l : Literal}
    (hread : readLiteral cs = some (l, left)) : readLiteral (cs ++ rest) = some (l, left ++ rest) := by
  have hafter : ∀ negative cs, readUnsigned negative cs = some (l, left) →
      readUnsigned negative (cs ++ rest) = some (l, left ++ rest) := by
    intro negative cs hread
    obtain ⟨hsign, hwhole, hnil, hzero, mid, hfraction, hpower⟩ := readUnsigned_eq_some_iff.mp hread
    rw [readUnsigned_eq_some_iff, splitDigits_append h]
    exact ⟨hsign, hwhole, hnil, hzero, mid ++ rest, readFraction_append h hfraction,
      readPower_append h hpower⟩
  cases cs with
  | nil => cases hread
  | cons c cs =>
      by_cases hminus : c = '-'
      · subst hminus
        rw [List.cons_append]
        rw [readLiteral_minus] at hread ⊢
        exact hafter true cs hread
      · rw [readLiteral_of_ne hminus] at hread
        rw [List.cons_append, readLiteral_of_ne hminus]
        exact hafter false (c :: cs) hread

/-- A numeral starts with its sign or with a digit. -/
theorem head_of_readLiteral {l : Literal} (hread : readLiteral cs = some (l, left)) :
    ∃ c tail, cs = c :: tail ∧ (c = '-' ∨ c.isDigit = true) := by
  cases cs with
  | nil => cases hread
  | cons c cs =>
      refine ⟨c, cs, rfl, ?_⟩
      by_cases hminus : c = '-'
      · exact Or.inl hminus
      · right
        rw [readLiteral_of_ne hminus, readUnsigned_eq_some_iff] at hread
        obtain ⟨-, hwhole, hnil, -⟩ := hread
        cases hdigit : c.isDigit with
        | true => rfl
        | false =>
            rw [← hwhole] at hnil
            simp [splitDigits, hdigit] at hnil

/-! ## Whole numbers -/

theorem takeDigits_eq (n : Nat) (ds : List Char) (h : Nat.ofDigitChars 10 ds n ≤ significandLimit) :
    takeDigits n ds = (Nat.ofDigitChars 10 ds n, ds.length, []) := by
  induction ds generalizing n with
  | nil => rfl
  | cons c ds ih =>
      have hnext : n * 10 + digitValue c = 10 * n + (c.toNat - '0'.toNat) := by
        rw [Nat.mul_comm]
        rfl
      rw [Nat.ofDigitChars_cons] at h ⊢
      -- the digits read so far are no more than all of them
      have hfits : n * 10 + digitValue c ≤ significandLimit := by
        rw [hnext]
        rw [Nat.ofDigitChars_eq_ofDigitChars_zero] at h
        have hpow : 0 < 10 ^ ds.length := Nat.pow_pos (by decide)
        have hle := Nat.le_mul_of_pos_left (10 * n + (c.toNat - '0'.toNat)) hpow
        exact Nat.le_trans hle (Nat.le_trans (Nat.le_add_right _ _) h)
      rw [takeDigits, if_pos hfits, hnext, ih _ h]
      rfl

/-- All digits of a number of 64 bits are taken. -/
theorem takeDigits_toDigits {n : Nat} (h : n ≤ significandLimit) :
    takeDigits 0 (Nat.toDigits 10 n) = (n, (Nat.toDigits 10 n).length, []) := by
  have hvalue : Nat.ofDigitChars 10 (Nat.toDigits 10 n) 0 = n := Nat.ofDigitChars_ten_toDigits
  rw [takeDigits_eq 0 _ (hvalue.symm ▸ h), hvalue]

/-- No number but zero is written with a zero in front. -/
theorem head?_toDigits_ne {n : Nat} (h : 0 < n) : (Nat.toDigits 10 n).head? ≠ some '0' := by
  induction n using Nat.strongRecOn with
  | ind n ih =>
      rw [Nat.toDigits_eq_if (by decide)]
      split
      · rename_i hsmall
        have hdigit : ∀ d < 10, 0 < d → d.digitChar ≠ '0' := by decide
        intro hzero
        exact hdigit n hsmall h (Option.some.inj hzero)
      · rename_i hlarge
        have hpos : 0 < n / 10 := Nat.div_pos (Nat.le_of_not_lt hlarge) (by decide)
        have hrest := ih (n / 10) (Nat.div_lt_self h (by decide)) hpos
        cases hdigits : Nat.toDigits 10 (n / 10) with
        | nil => exact absurd hdigits Nat.toDigits_ne_nil
        | cons d ds =>
            rw [hdigits] at hrest
            exact hrest

theorem toDigits_ne_zero_cons (n : Nat) (d : Char) (ds : List Char) :
    Nat.toDigits 10 n ≠ '0' :: d :: ds := by
  intro hdigits
  rcases Nat.eq_zero_or_pos n with rfl | hpos
  · rw [Nat.toDigits_zero] at hdigits
    cases hdigits
  · apply head?_toDigits_ne hpos
    rw [hdigits]
    rfl

/-- The digits of a number are a numeral. -/
theorem readUnsigned_toDigits (negative : Bool) (n : Nat) :
    readUnsigned negative (Nat.toDigits 10 n) =
      some (⟨negative, Nat.toDigits 10 n, none, none⟩, []) := by
  have hdigits : splitDigits (Nat.toDigits 10 n) = (Nat.toDigits 10 n, []) := by
    have hall : ∀ c ∈ Nat.toDigits 10 n, c.isDigit = true :=
      fun c hc => Nat.isDigit_of_mem_toDigits (by decide) (by decide) hc
    unfold splitDigits
    rw [List.takeWhile_eq_self_iff.mpr hall, List.dropWhile_eq_nil_iff.mpr hall]
  rw [readUnsigned_eq_some_iff, hdigits]
  exact ⟨rfl, rfl, Nat.toDigits_ne_nil, toDigits_ne_zero_cons n, [], rfl, rfl⟩

/-- The digits of a number start with no sign. -/
theorem readLiteral_toDigits (n : Nat) :
    readLiteral (Nat.toDigits 10 n) = some (⟨false, Nat.toDigits 10 n, none, none⟩, []) := by
  have hread := readUnsigned_toDigits false n
  cases hdigits : Nat.toDigits 10 n with
  | nil => exact absurd hdigits Nat.toDigits_ne_nil
  | cons d ds =>
      have hdigit : d.isDigit = true :=
        Nat.isDigit_of_mem_toDigits (by decide) (by decide) (hdigits ▸ List.mem_cons_self)
      have hsign : d ≠ '-' := by
        rintro rfl
        cases hdigit
      rw [hdigits] at hread
      rw [readLiteral_of_ne hsign]
      exact hread

theorem value_toDigits {n : Nat} (h : n ≤ significandLimit) :
    Literal.value ⟨false, Nat.toDigits 10 n, none, none⟩ = .int n := by
  simp only [Literal.value, takeDigits_toDigits h]
  rfl

/-- Behind a minus, zero would be a float, and so would what is too far below zero. -/
theorem value_minus_toDigits {n : Nat} (hpos : 0 < n) (h : Int64.minValue.toInt ≤ -n) :
    Literal.value ⟨true, Nat.toDigits 10 n, none, none⟩ = .int (-n) := by
  have hfits : n ≤ significandLimit := by
    have hmin : Int64.minValue.toInt = -2 ^ 63 := rfl
    have hbound : n ≤ 2 ^ 63 := by omega
    exact Nat.le_trans hbound (by decide)
  have hwhole : (decide (n = 0) || decide (-(n : Int) < Int64.minValue.toInt)) = false := by
    rw [decide_eq_false (by omega), decide_eq_false (by omega), Bool.or_self]
  simp only [Literal.value, takeDigits_toDigits hfits, hwhole]
  rfl

theorem toList_repr (n : Nat) : n.repr.toList = Nat.toDigits 10 n := by
  rw [Nat.repr_eq_ofList_toDigits, String.toList_ofList]

/-- **A whole number is read as it was written.** -/
theorem readLiteral_toString {n : Int} (hleast : Int64.minValue.toInt ≤ n)
    (hgreatest : n ≤ significandLimit) :
    ∃ l, readLiteral (toString n).toList = some (l, []) ∧ l.value = .int n := by
  rw [Int.toString_eq_repr, Int.repr_eq_if]
  split
  · rename_i hpos
    rw [toList_repr]
    refine ⟨_, readLiteral_toDigits n.toNat, ?_⟩
    rw [value_toDigits (Int.toNat_le.mpr hgreatest), Int.toNat_of_nonneg hpos]
  · rename_i hneg
    have hvalue : -((-n).toNat : Int) = n := by omega
    rw [String.toList_append, toList_repr]
    refine ⟨_, readUnsigned_toDigits true (-n).toNat, ?_⟩
    rw [value_minus_toDigits (by omega) (by rw [hvalue]; exact hleast), hvalue]

/-! ## Numbers that read back -/

/-- A float **reads back** if its text is a numeral that is read as the same float. -/
def ReadsBack (x : Float) : Prop :=
  ∃ l, readLiteral (numberText (.float x)).toList = some (l, []) ∧ l.value = .float x

/-- The numbers that read back: whole ones of at most 64 bits, and floats that do. -/
def Number.IsPlain : Number → Prop
  | .int n => Int64.minValue.toInt ≤ n ∧ n ≤ significandLimit
  | .float x => ReadsBack x
  | .outOfRange => False

/-- **A number is read as it was written**, in front of whatever ends a numeral. -/
theorem readLiteral_numberText {n : Number} (h : n.IsPlain) (hrest : Stops rest) :
    ∃ l, readLiteral ((numberText n).toList ++ rest) = some (l, rest) ∧ l.value = n := by
  have halone : ∃ l, readLiteral (numberText n).toList = some (l, []) ∧ l.value = n := by
    cases n with
    | outOfRange => exact absurd h id
    | float x => exact h
    | int n =>
        obtain ⟨hleast, hgreatest⟩ := h
        exact readLiteral_toString hleast hgreatest
  obtain ⟨l, hread, hvalue⟩ := halone
  exact ⟨l, readLiteral_append hrest hread, hvalue⟩

end CircuitBreaker.Json

import Mathlib.Algebra.Group.Int.Defs
import Mathlib.Algebra.Group.Nat.Defs
import Mathlib.Data.Int.Order.Basic
import Mathlib.Data.Nat.Log
import Mathlib.Tactic.Set
import CircuitBreaker.Trigger

/-!
# `Proofs.Binary64` — the share of one count in another

A share is the quotient of two counts as floats. Both counts are rounded on the way, and so is the
quotient; a share is still between zero and one, because rounding keeps the order.

The floats that come up are **normal** (`Normal`): a mantissa of 53 bits times a power of two. Their
order is that of one number, the `rank`, which is the mantissa with the exponent in front of it. A
mantissa that is rounded up to 54 bits has the rank of the next power of two, so that a carry is no
special case (`exists_round`). Two facts are behind the bound.
* A count of more bits has a larger exponent, and counts of as many bits are rounded in order
  (`rounded_mono`). So a larger count is no smaller float (`rankOf_mono`).
* The mantissas of two normal floats have a quotient of 53 bits if the dividend is the smaller one,
  and of 54 if it is not (`log2_quotient`). If the dividend has the smaller rank, the exponents alone
  keep the quotient from passing one, and equal floats leave no remainder (`exists_div`).

## Contents
- `quarters`, `rounded_mono`: rounding a mantissa.
- `Normal`, `Normal.rank`: normal floats and their order; `Normal.unpack_pack`: their bits.
- `exists_round`, `exists_ofCount`, `exists_div`: what is rounded, counts and quotients.
- `compare_swap`, `exists_compare`, `not_le_iff`, `beq_self`: the order of floats, and equality.
- `share_mem_unit`: shares are between zero and one.
-/

namespace CircuitBreaker.Binary64

open Float.Model Float.Model.UnpackedFloat

/-! ## Rounding a mantissa -/

/-- A mantissa with its two residual bits, in quarters of a unit. -/
def quarters (em : ExtendedMantissa) : Nat :=
  4 * em.mantissa + 2 * em.roundBit.toNat + em.stickyBit.toNat

section Mantissa

variable {a b : ExtendedMantissa}

/-- Shifting halves the quarters, and keeps in mind that something was lost. -/
theorem quarters_shiftRightOne (em : ExtendedMantissa) :
    quarters em.shiftRightOne = 2 * (quarters em / 4) + min 1 (quarters em % 4) := by
  obtain ⟨m, r, s⟩ := em
  have hodd : (m % 2 != 0).toNat = m % 2 := by
    rcases Nat.mod_two_eq_zero_or_one m with h | h <;> simp [h]
  simp only [quarters, ExtendedMantissa.shiftRightOne, hodd]
  cases r <;> cases s <;>
    simp only [Bool.or_false, Bool.or_true, Bool.toNat_true, Bool.toNat_false] <;> omega

theorem shift_succ (em : ExtendedMantissa) (k : Nat) :
    em >>> (k + 1) = (em >>> k).shiftRightOne := rfl

theorem mantissa_shift (em : ExtendedMantissa) (k : Nat) :
    (em >>> k).mantissa = em.mantissa / 2 ^ k := by
  induction k with
  | zero => exact (Nat.div_one _).symm
  | succ k ih =>
      rw [shift_succ, Nat.pow_succ, ← Nat.div_div_eq_div_mul, ← ih]
      rfl

/-- Shifting keeps the order. -/
theorem quarters_shift_mono (h : quarters a ≤ quarters b) (k : Nat) :
    quarters (a >>> k) ≤ quarters (b >>> k) := by
  induction k with
  | zero => exact h
  | succ k ih =>
      rw [shift_succ, shift_succ, quarters_shiftRightOne, quarters_shiftRightOne]
      omega

/-- Rounding goes up by one at most. -/
theorem rounded_bounds (em : ExtendedMantissa) :
    em.mantissa ≤ em.roundedMantissa ∧ em.roundedMantissa ≤ em.mantissa + 1 := by
  obtain ⟨m, r, s⟩ := em
  cases r <;> cases s <;>
    simp only [ExtendedMantissa.roundedMantissa, ExtendedMantissa.accuracy,
      Accuracy.roundToNearestEven] <;> omega

/-- **Rounding keeps the order.** -/
theorem rounded_mono (h : quarters a ≤ quarters b) : a.roundedMantissa ≤ b.roundedMantissa := by
  by_cases hm : a.mantissa < b.mantissa
  · have ha := (rounded_bounds a).2
    have hb := (rounded_bounds b).1
    omega
  · -- the same mantissa, so that the residual bits decide
    obtain ⟨m, r, s⟩ := a
    obtain ⟨n, r', s'⟩ := b
    simp only [quarters] at h hm
    have hr := r.toNat_le
    have hs := s.toNat_le
    have hr' := r'.toNat_le
    have hs' := s'.toNat_le
    have hmn : m = n := by omega
    subst hmn
    cases r <;> cases s <;> cases r' <;> cases s' <;>
      simp only [ExtendedMantissa.roundedMantissa, ExtendedMantissa.accuracy,
        Accuracy.roundToNearestEven, Bool.toNat_true, Bool.toNat_false] at h ⊢ <;> omega

end Mantissa

/-! ## Normal floats -/

/-- A **normal** float: a mantissa of 53 bits times a power of two, not too large and not too small to
    be written as one. -/
structure Normal where
  mantissa : Nat
  exponent : Int
  ge : 2 ^ 52 ≤ mantissa
  lt : mantissa < 2 ^ 53
  low : -1074 ≤ exponent
  high : exponent ≤ 971

namespace Normal

theorem pos (a : Normal) : 0 < a.mantissa := Nat.lt_of_lt_of_le (Nat.two_pow_pos 52) a.ge

/-- The parts of the float. -/
def unpacked (a : Normal) : UnpackedFloat := .finite .positive a.mantissa a.exponent a.pos

/-- The mantissa with the exponent in front of it. -/
def rank (a : Normal) : Int := a.exponent * 2 ^ 52 + a.mantissa

theorem log2_mantissa (a : Normal) : a.mantissa.log2 = 52 :=
  (Nat.log2_eq_iff (Nat.ne_of_gt a.pos)).mpr ⟨a.ge, a.lt⟩

/-- **Normal floats are ordered by rank.** -/
theorem le_of_rank_le {a b : Normal} (h : a.rank ≤ b.rank) : a.unpacked.le b.unpacked = true := by
  have hage := a.ge
  have halt := a.lt
  have hbge := b.ge
  have hblt := b.lt
  unfold rank at h
  show ((compare a.exponent b.exponent).then (compare a.mantissa b.mantissa)).isLE = true
  rcases Int.lt_trichotomy a.exponent b.exponent with hlt | heq | hgt
  · rw [compare_lt_iff_lt.mpr hlt]
    rfl
  · have hm : a.mantissa ≤ b.mantissa := by omega
    rw [compare_eq_iff_eq.mpr heq]
    exact Nat.isLE_compare.mpr hm
  · omega

theorem finite_congr {sign : Sign} {m n : Nat} {d e : Int} {hm : 0 < m} {hn : 0 < n} (hmn : m = n)
    (hde : d = e) : UnpackedFloat.finite sign m d hm = .finite sign n e hn := by
  subst hmn hde
  rfl

/-- The exponent as it is written, above zero. -/
def biased (a : Normal) : Nat := (a.exponent + 1075).toNat

/-- The written exponent is neither of the two that stand for something else. -/
theorem biased_spec (a : Normal) : (a.biased : Int) = a.exponent + 1075 ∧ 0 < a.biased ∧
    a.biased < 2047 := by
  have hlow := a.low
  have hhigh := a.high
  unfold biased
  omega

/-- The bits of a normal float: the exponent, and the mantissa without its first bit. -/
theorem pack_unpacked (a : Normal) :
    UnpackedFloat.pack Format.binary64 a.unpacked =
      packComponents Format.binary64 .positive (BitVec.ofNat 11 a.biased)
        (BitVec.ofNat 52 a.mantissa) := by
  have hbiased : (a.exponent + Format.binary64.exponentBias +
      Format.binary64.mantissaBitsWithoutImplicit).toNat = a.biased := by
    show (a.exponent + 1023 + 52).toNat = (a.exponent + 1075).toNat
    omega
  unfold unpacked UnpackedFloat.pack
  simp only [hbiased, a.log2_mantissa]
  have hfinite : ¬2 ^ 11 ≤ a.biased + 1 := by
    have hlt := a.biased_spec.2.2
    omega
  rw [if_neg hfinite]
  exact if_pos rfl

/-- The first bit is the sign. -/
theorem unpackSign_packed (exponent : BitVec 11) (mantissa : BitVec 52) :
    unpackSign (packComponents Format.binary64 .positive exponent mantissa) = 0#1 := by
  have hlast : (0#1 ++ exponent ++ mantissa).getLsbD 63 = false := by
    rw [BitVec.getLsbD_append, BitVec.getLsbD_append]
    rfl
  show (0#1 ++ exponent ++ mantissa).extractLsb 63 63 = 0#1
  ext i hi
  obtain rfl : i = 0 := by omega
  rw [BitVec.getElem_extract, BitVec.getElem_zero]
  exact hlast

/-- Bits whose exponent is neither of the two that stand for something else are those of a float with a
    first bit of one before its mantissa. -/
theorem unpack_of_parts {b : BitVec Format.binary64.numBits} {sign : BitVec 1} {exponent : BitVec 11}
    {mantissa : BitVec 52} (hsign : unpackSign b = sign) (hexponent : unpackExponent b = exponent)
    (hmantissa : unpackMantissa b = mantissa) (hinfinite : exponent ≠ -1#_)
    (hsubnormal : exponent ≠ 0#_) :
    ∃ hpos, UnpackedFloat.unpack Format.binary64 b = .finite (Sign.ofBitVec sign)
      (1#1 ++ mantissa).toNat ((exponent.toNat : Int) - (1023 + 52)) hpos := by
  subst hsign hexponent hmantissa
  exact ⟨_, (if_neg hinfinite).trans (if_neg hsubnormal)⟩

/-- **The bits of a normal float give back its parts.** -/
theorem unpack_pack (a : Normal) : (pack a.unpacked).unpack = a.unpacked := by
  obtain ⟨hbiased, hpos, hlt⟩ := a.biased_spec
  have hnat : (BitVec.ofNat 11 a.biased).toNat = a.biased := by
    rw [BitVec.toNat_ofNat]
    omega
  have hinfinite : BitVec.ofNat 11 a.biased ≠ -1#_ := by
    rw [ne_eq, ← BitVec.toNat_inj, hnat]
    show ¬a.biased = 2047
    omega
  have hsubnormal : BitVec.ofNat 11 a.biased ≠ 0#_ := by
    rw [ne_eq, ← BitVec.toNat_inj, hnat]
    show ¬a.biased = 0
    omega
  have hmantissa : (1#1 ++ BitVec.ofNat 52 a.mantissa).toNat = a.mantissa := by
    have hge := a.ge
    have hlt := a.lt
    rw [BitVec.toNat_append, ← Nat.shiftLeft_add_eq_or_of_lt (BitVec.isLt _), BitVec.toNat_ofNat]
    show 2 ^ 52 + a.mantissa % 2 ^ 52 = a.mantissa
    omega
  have hexponent : ((BitVec.ofNat 11 a.biased).toNat : Int) - (1023 + 52) = a.exponent := by
    rw [hnat]
    omega
  obtain ⟨_, hunpacked⟩ := unpack_of_parts
    (unpackSign_packed (BitVec.ofNat 11 a.biased) (BitVec.ofNat 52 a.mantissa))
    unpackExponent_packComponents unpackMantissa_packComponents hinfinite hsubnormal
  show UnpackedFloat.unpack Format.binary64 (UnpackedFloat.pack Format.binary64 a.unpacked) = _
  rw [pack_unpacked, hunpacked]
  exact finite_congr hmantissa hexponent

end Normal

/-! ## Rounding -/

theorem targetExponent_eq (t : Int) : Format.binary64.targetExponent t = max (t - 53) (-1074) := rfl

theorem mantissa_ofMantissaAndAccuracy (q : Nat) (acc : Accuracy) :
    (ExtendedMantissa.ofMantissaAndAccuracy q acc).mantissa = q := by
  cases acc with
  | exact => rfl
  | inexact o => cases o <;> rfl

/-- A mantissa of `53 + k` bits is shifted by `k` bits. -/
theorem shiftToTargetExponent_eq {q k : Nat} {e : Int} (acc : Accuracy) (hq : q.log2 = 52 + k)
    (hlow : -1074 ≤ e + k) :
    shiftToTargetExponent Format.binary64 q e acc =
      (ExtendedMantissa.ofMantissaAndAccuracy q acc >>> k, e + k) := by
  have htarget : Format.binary64.targetExponent (totalExponent q e) = e + k := by
    rw [targetExponent_eq, totalExponent, hq]
    omega
  have hshift : (e + k - e).toNat = k := by omega
  simp only [shiftToTargetExponent, shiftToExponent, htarget, hshift]

/-- A mantissa of `53 + k` bits has 53 bits once it was shifted, or is rounded to the next power of
    two. -/
theorem rounded_shift_bounds {q k : Nat} (acc : Accuracy) (hq : q.log2 = 52 + k) :
    2 ^ 52 ≤ (ExtendedMantissa.ofMantissaAndAccuracy q acc >>> k).roundedMantissa ∧
      (ExtendedMantissa.ofMantissaAndAccuracy q acc >>> k).roundedMantissa ≤ 2 ^ 53 := by
  have hne : q ≠ 0 := by
    rintro rfl
    rw [Nat.log2_zero] at hq
    omega
  obtain ⟨hge, hlt⟩ := (Nat.log2_eq_iff hne).mp hq
  obtain ⟨hlower, hupper⟩ := rounded_bounds (ExtendedMantissa.ofMantissaAndAccuracy q acc >>> k)
  rw [mantissa_shift, mantissa_ofMantissaAndAccuracy] at hlower hupper
  have hdivge : 2 ^ 52 ≤ q / 2 ^ k := by
    rw [Nat.le_div_iff_mul_le (Nat.two_pow_pos k), ← Nat.pow_add]
    exact hge
  have hdivlt : q / 2 ^ k < 2 ^ 53 := by
    rw [Nat.div_lt_iff_lt_mul (Nat.two_pow_pos k), ← Nat.pow_add]
    calc q < 2 ^ (52 + k + 1) := hlt
      _ = 2 ^ (53 + k) := congrArg (2 ^ ·) (by omega)
  omega

/-- Rounding shifts a mantissa, rounds it, and shifts once more in case that there was a carry. -/
theorem round_of_shifts {q : Nat} {e d f : Int} {acc : Accuracy} {first last : ExtendedMantissa}
    (hfirst : shiftToTargetExponent Format.binary64 q e acc = (first, d))
    (hlast : shiftToTargetExponent Format.binary64 first.roundedMantissa d .exact = (last, f))
    (hne : last.mantissa ≠ 0) :
    ∃ hpos, roundWithAccuracy Format.binary64 .positive q e acc =
      .finite .positive last.mantissa f hpos := by
  unfold roundWithAccuracy
  rw [hfirst]
  dsimp only
  rw [hlast]
  exact ⟨_, dif_neg hne⟩

/-- **Rounding** a mantissa of `53 + k` bits makes a normal float. Its rank is that of the rounded
    mantissa, with or without a carry. -/
theorem exists_round {q k : Nat} {e : Int} (acc : Accuracy) (hq : q.log2 = 52 + k)
    (hlow : -1074 ≤ e + k) (hhigh : e + k ≤ 970) :
    ∃ a : Normal, roundWithAccuracy Format.binary64 .positive q e acc = a.unpacked ∧
      a.rank = (e + k) * 2 ^ 52 +
        (ExtendedMantissa.ofMantissaAndAccuracy q acc >>> k).roundedMantissa := by
  obtain ⟨hge, hle⟩ := rounded_shift_bounds acc hq
  have hshifted := shiftToTargetExponent_eq acc hq hlow
  set r := (ExtendedMantissa.ofMantissaAndAccuracy q acc >>> k).roundedMantissa with hr
  by_cases hcarry : r < 2 ^ 53
  · have hlog : r.log2 = 52 + 0 := (Nat.log2_eq_iff (by omega)).mpr ⟨hge, hcarry⟩
    refine ⟨⟨r, e + k, hge, hcarry, hlow, by omega⟩, ?_, rfl⟩
    have hagain := shiftToTargetExponent_eq (e := e + k) .exact hlog (by omega)
    have hmantissa : (ExtendedMantissa.ofMantissaAndAccuracy r .exact >>> 0).mantissa = r := by
      rw [mantissa_shift, mantissa_ofMantissaAndAccuracy, Nat.pow_zero, Nat.div_one]
    obtain ⟨_, hround⟩ := round_of_shifts hshifted hagain (by omega)
    rw [hround]
    exact Normal.finite_congr hmantissa (Int.add_zero _)
  · have hlog : r.log2 = 52 + 1 := by
      rw [show r = 2 ^ 53 by omega]
      decide
    refine ⟨⟨2 ^ 52, e + k + 1, by omega, by omega, by omega, by omega⟩, ?_, ?_⟩
    · have hagain := shiftToTargetExponent_eq (e := e + k) .exact hlog (by omega)
      have hmantissa : (ExtendedMantissa.ofMantissaAndAccuracy r .exact >>> 1).mantissa = 2 ^ 52 := by
        rw [mantissa_shift, mantissa_ofMantissaAndAccuracy]
        omega
      obtain ⟨_, hround⟩ := round_of_shifts hshifted hagain (by omega)
      rw [hround]
      exact Normal.finite_congr hmantissa rfl
    · simp only [Normal.rank]
      omega

/-! ## Counts -/

/-- A count that was brought to 53 bits, with what was lost of it in the residual bits. -/
def extended (n : Nat) : ExtendedMantissa :=
  ExtendedMantissa.ofMantissaAndAccuracy (n <<< (52 - n.log2)) .exact >>> (n.log2 - 52)

theorem log2_shiftLeft {n : Nat} (hn : n ≠ 0) (s : Nat) : (n <<< s).log2 = n.log2 + s := by
  obtain ⟨hge, hlt⟩ := (Nat.log2_eq_iff hn).mp rfl
  have hshift : n <<< s = n * 2 ^ s := Nat.shiftLeft_eq n s
  refine (Nat.log2_eq_iff ?_).mpr ⟨?_, ?_⟩
  · rw [hshift]
    exact Nat.mul_ne_zero hn (Nat.two_pow_pos s).ne'
  · rw [hshift, Nat.pow_add]
    exact Nat.mul_le_mul_right _ hge
  · rw [hshift, Nat.add_right_comm, Nat.pow_add]
    exact Nat.mul_lt_mul_of_pos_right hlt (Nat.two_pow_pos s)

theorem log2_le_log2 {n m : Nat} (h : n ≤ m) : n.log2 ≤ m.log2 := by
  rw [Nat.log2_eq_log_two, Nat.log2_eq_log_two]
  exact Nat.log_mono_right h

theorem rounded_extended_bounds {n : Nat} (hn : n ≠ 0) :
    2 ^ 52 ≤ (extended n).roundedMantissa ∧ (extended n).roundedMantissa ≤ 2 ^ 53 :=
  rounded_shift_bounds .exact (by rw [log2_shiftLeft hn]; omega)

/-- The rank of a count, once it is rounded to a float. -/
def rankOf (n : Nat) : Int := ((n.log2 : Int) - 52) * 2 ^ 52 + (extended n).roundedMantissa

/-- **A count as a float** is a normal one. -/
theorem exists_ofCount {n : Nat} (hn : n ≠ 0) (hbound : n < 2 ^ 64) :
    ∃ a : Normal, UnpackedFloat.ofNat Format.binary64 n = a.unpacked ∧ a.rank = rankOf n := by
  have hlog : n.log2 < 64 := (Nat.log2_lt hn).mpr hbound
  have hcompare : compare (n : Int) 0 = .gt := compare_gt_iff_gt.mpr (by omega)
  have htarget : (0 - Format.binary64.targetExponent (totalExponent n 0)).toNat = 52 - n.log2 := by
    rw [targetExponent_eq, totalExponent]
    omega
  have hround : UnpackedFloat.ofNat Format.binary64 n = roundWithAccuracy Format.binary64 .positive
      (n <<< (52 - n.log2)) (0 - (52 - n.log2 : Nat)) .exact := by
    simp only [UnpackedFloat.ofNat, UnpackedFloat.ofInt, UnpackedFloat.normalize, hcompare,
      UnpackedFloat.round, Int.toNat_natCast, decreaseExponent, htarget]
  have hlog' : (n <<< (52 - n.log2)).log2 = 52 + (n.log2 - 52) := by
    rw [log2_shiftLeft hn]
    omega
  obtain ⟨a, ha, hrank⟩ := exists_round (e := 0 - (52 - n.log2 : Nat)) .exact hlog' (by omega)
    (by omega)
  refine ⟨a, hround.trans ha, ?_⟩
  have hexponent : (0 : Int) - (52 - n.log2 : Nat) + (n.log2 - 52 : Nat) = (n.log2 : Int) - 52 := by
    omega
  rw [hrank, hexponent]
  rfl

/-- **A larger count is no smaller float.** -/
theorem rankOf_mono {n m : Nat} (hn : n ≠ 0) (h : n ≤ m) : rankOf n ≤ rankOf m := by
  unfold rankOf
  rcases Nat.lt_or_eq_of_le (log2_le_log2 h) with hlog | hlog
  · -- the larger count has more bits
    have hupper := (rounded_extended_bounds hn).2
    have hlower := (rounded_extended_bounds (n := m) (by omega)).1
    omega
  · have hshift : n <<< (52 - n.log2) ≤ m <<< (52 - n.log2) := by
      rw [Nat.shiftLeft_eq, Nat.shiftLeft_eq]
      exact Nat.mul_le_mul_right _ h
    have hquarters : quarters (ExtendedMantissa.ofMantissaAndAccuracy (n <<< (52 - n.log2)) .exact) ≤
        quarters (ExtendedMantissa.ofMantissaAndAccuracy (m <<< (52 - n.log2)) .exact) := by
      simp only [quarters, ExtendedMantissa.ofMantissaAndAccuracy]
      omega
    have hrounded : (extended n).roundedMantissa ≤ (extended m).roundedMantissa := by
      unfold extended
      rw [← hlog]
      exact rounded_mono (quarters_shift_mono hquarters _)
    omega

/-! ## Quotients -/

/-- The number one. -/
def one : Normal := ⟨2 ^ 52, -52, by decide, by decide, by decide, by decide⟩

/-- The mantissa of a quotient, to 53 bits or one more. -/
def quotient (a b : Normal) : Nat := a.mantissa * 2 ^ 53 / b.mantissa

/-- How good that mantissa is. -/
def accuracy (a b : Normal) : Accuracy :=
  accuracyOfFraction (a.mantissa * 2 ^ 53 % b.mantissa) b.mantissa

variable {a b : Normal}

/-- A quotient is less than one by the mantissas alone, and has 53 bits, or it is not, and has 54. -/
theorem log2_quotient (a b : Normal) :
    (quotient a b).log2 = 52 + if a.mantissa < b.mantissa then 0 else 1 := by
  have hage := a.ge
  have halt := a.lt
  have hblt := b.lt
  have hbge := b.ge
  have hlower {n : Nat} (h : n * b.mantissa ≤ a.mantissa * 2 ^ 53) : n ≤ quotient a b :=
    (Nat.le_div_iff_mul_le b.pos).mpr h
  have hupper {n : Nat} (h : a.mantissa * 2 ^ 53 < n * b.mantissa) : quotient a b < n :=
    (Nat.div_lt_iff_lt_mul b.pos).mpr h
  have hne : quotient a b ≠ 0 := by
    have hpos : 1 ≤ quotient a b := hlower (by omega)
    omega
  split <;> exact (Nat.log2_eq_iff hne).mpr ⟨hlower (by omega), hupper (by omega)⟩

/-- A division rounds the quotient of the mantissas. -/
theorem div_eq_round (hsmall : -1000 ≤ a.exponent - b.exponent) :
    UnpackedFloat.div Format.binary64 a.unpacked b.unpacked =
      roundWithAccuracy Format.binary64 .positive (quotient a b) (a.exponent - b.exponent - 53)
        (accuracy a b) := by
  have htarget : min (a.exponent - b.exponent) (Format.binary64.targetExponent
      (totalExponent a.mantissa a.exponent - totalExponent b.mantissa b.exponent)) =
        a.exponent - b.exponent - 53 := by
    rw [targetExponent_eq, totalExponent, totalExponent, a.log2_mantissa, b.log2_mantissa]
    omega
  have hshift : (a.exponent - b.exponent - (a.exponent - b.exponent - 53)).toNat = 53 := by omega
  have hcore : divCore Format.binary64 a.mantissa a.exponent b.mantissa b.exponent =
      (quotient a b, a.exponent - b.exponent - 53, accuracy a b) := by
    simp only [divCore, htarget, hshift, Nat.shiftLeft_eq]
    rfl
  unfold Normal.unpacked UnpackedFloat.div
  dsimp only
  rw [hcore]
  rfl

/-- **The quotient** of a normal float by one that is no smaller is a normal float, and at most one,
    unless it is too small to be normal. -/
theorem exists_div (h : a.rank ≤ b.rank) (hsmall : -1000 ≤ a.exponent - b.exponent) :
    ∃ c : Normal, UnpackedFloat.div Format.binary64 a.unpacked b.unpacked = c.unpacked ∧
      c.rank ≤ one.rank := by
  have halt := a.lt
  have hage := a.ge
  have hblt := b.lt
  have hbge := b.ge
  unfold Normal.rank at h
  have hlog := log2_quotient a b
  have hbits : (if a.mantissa < b.mantissa then 0 else 1) ≤ 1 := by split <;> omega
  obtain ⟨c, hc, hrank⟩ := exists_round (e := a.exponent - b.exponent - 53) (accuracy a b) hlog
    (by omega) (by omega)
  refine ⟨c, (div_eq_round hsmall).trans hc, ?_⟩
  have hupper := (rounded_shift_bounds (accuracy a b) hlog).2
  rw [hrank]
  show _ ≤ (-52 * 2 ^ 52 + 2 ^ 52 : Int)
  rcases Nat.lt_trichotomy a.mantissa b.mantissa with hlt | heq | hgt
  · rw [if_pos hlt] at hupper ⊢
    omega
  · -- the same mantissa, which leaves no remainder
    have hquotient : quotient a b = 2 ^ 53 := by
      rw [quotient, heq, Nat.mul_div_cancel_left _ b.pos]
    have hexact : accuracy a b = .exact := by
      rw [accuracy, heq, Nat.mul_mod_right]
      rfl
    have hone : (ExtendedMantissa.ofMantissaAndAccuracy (2 ^ 53) .exact >>> 1).roundedMantissa =
        2 ^ 52 := by decide
    rw [if_neg (by omega), hquotient, hexact, hone]
    omega
  · rw [if_neg (by omega)] at hupper ⊢
    omega

/-! ## The order -/

/-- The parts of a float. -/
def parts (x : Float) : UnpackedFloat := x.toModel.unpack

theorem le_iff {x y : Float} : x ≤ y ↔ (parts x).le (parts y) = true := by
  show Float.le x y = true ↔ _
  unfold Float.le
  rw [decide_eq_true_iff]
  rfl

theorem lt_iff {x y : Float} : x < y ↔ (parts x).lt (parts y) = true := by
  show Float.lt x y = true ↔ _
  unfold Float.lt
  rw [decide_eq_true_iff]
  rfl

/-- Two floats compare the other way round if they change places. -/
theorem compare_swap (a b : UnpackedFloat) : b.compare a = (a.compare b).map Ordering.swap := by
  have signs (s t : Sign) : compare t s = (compare s t).swap := by
    cases s <;> cases t <;> rfl
  have magnitudes (m n : Nat) (d e : Int) :
      (compare e d).then (compare n m) = ((compare d e).then (compare m n)).swap := by
    rw [Ordering.swap_then, Std.OrientedOrd.eq_swap (a := e), Std.OrientedOrd.eq_swap (a := n)]
  cases a with
  | notANumber => cases b <;> rfl
  | infinity s =>
      cases b with
      | notANumber => cases s <;> rfl
      | infinity t => exact congrArg some (signs s t)
      | zero t => cases s <;> rfl
      | finite t n e hn => cases s <;> cases t <;> rfl
  | zero s =>
      cases b with
      | notANumber => rfl
      | infinity t => cases t <;> rfl
      | zero t => rfl
      | finite t n e hn => cases t <;> rfl
  | finite s m d hm =>
      cases b with
      | notANumber => cases s <;> rfl
      | infinity t => cases s <;> cases t <;> rfl
      | zero t => cases s <;> rfl
      | finite t n e hn =>
          cases s <;> cases t
          · exact congrArg some (congrArg Ordering.swap (magnitudes m n d e))
          · rfl
          · rfl
          · exact congrArg some (magnitudes m n d e)

/-- Only what is not a number compares with nothing. -/
theorem compare_eq_none_iff {a b : UnpackedFloat} :
    a.compare b = none ↔ a.isNaN = true ∨ b.isNaN = true := by
  have ordered {o : Ordering} : some o = none ↔ false = true ∨ false = true :=
    iff_of_false (Option.some_ne_none o) (by decide)
  cases a with
  | notANumber => exact iff_of_true rfl (Or.inl rfl)
  | infinity s =>
      cases b with
      | notANumber => cases s <;> exact iff_of_true rfl (Or.inr rfl)
      | infinity t => exact ordered
      | zero t => cases s <;> exact ordered
      | finite t n e hn => cases s <;> exact ordered
  | zero s =>
      cases b with
      | notANumber => exact iff_of_true rfl (Or.inr rfl)
      | infinity t => cases t <;> exact ordered
      | zero t => exact ordered
      | finite t n e hn => cases t <;> exact ordered
  | finite s m d hm =>
      cases b with
      | notANumber => cases s <;> exact iff_of_true rfl (Or.inr rfl)
      | infinity t => cases s <;> cases t <;> exact ordered
      | zero t => cases s <;> exact ordered
      | finite t n e hn => cases s <;> cases t <;> exact ordered

/-- Numbers compare, one way and the other way round. -/
theorem exists_compare {x y : Float} (hx : x.isNaN = false) (hy : y.isNaN = false) :
    ∃ o, (parts x).compare (parts y) = some o ∧ (parts y).compare (parts x) = some o.swap := by
  have hsome : (parts x).compare (parts y) ≠ none := by
    rw [ne_eq, compare_eq_none_iff]
    exact not_or.mpr ⟨Bool.eq_false_iff.mp hx, Bool.eq_false_iff.mp hy⟩
  obtain ⟨o, ho⟩ := Option.ne_none_iff_exists'.mp hsome
  refine ⟨o, ho, ?_⟩
  rw [compare_swap, ho]
  rfl

/-- **Numbers are in order**: of two that are not in one order, the other order is strict. -/
theorem not_le_iff {x y : Float} (hx : x.isNaN = false) (hy : y.isNaN = false) :
    ¬y ≤ x ↔ x < y := by
  obtain ⟨o, ho, hswap⟩ := exists_compare hx hy
  rw [le_iff, lt_iff, UnpackedFloat.le, UnpackedFloat.lt, ho, hswap]
  cases o <;> decide

/-- A number is equal to itself. -/
theorem beq_self {x : Float} (hx : x.isNaN = false) : (x == x) = true := by
  obtain ⟨o, ho, hswap⟩ := exists_compare hx hx
  show ((parts x).compare (parts x) == some .eq) = true
  rw [ho] at hswap ⊢
  cases o with
  | eq => rfl
  | lt => cases hswap
  | gt => cases hswap

/-- What is not a number is not above anything. -/
theorem not_lt_of_isNaN {x y : Float} (hy : y.isNaN = true) : ¬x < y := by
  have hnone : (parts x).compare (parts y) = none := compare_eq_none_iff.mpr (Or.inr hy)
  rw [lt_iff, UnpackedFloat.lt, hnone]
  decide

/-! ## Shares -/

theorem parts_zero : parts 0 = .zero .positive := rfl

theorem parts_one : parts 1 = one.unpacked := rfl

theorem parts_div (x y : Float) :
    parts (x / y) = (pack (UnpackedFloat.div Format.binary64 (parts x) (parts y))).unpack := rfl

theorem parts_floatCount_zero : parts (Trigger.floatCount 0) = .zero .positive := rfl

theorem exists_floatCount {n : Nat} (hn : n ≠ 0) (hbound : n < 2 ^ 64) :
    ∃ a : Normal, parts (Trigger.floatCount n) = a.unpacked ∧ a.rank = rankOf n := by
  obtain ⟨a, ha, hrank⟩ := exists_ofCount hn hbound
  refine ⟨a, ?_, hrank⟩
  have hcount : parts (Trigger.floatCount n) =
      (pack (UnpackedFloat.ofNat Format.binary64 (UInt64.ofNat n).toNat)).unpack := rfl
  rw [hcount, UInt64.toNat_ofNat_of_lt' hbound, ha, Normal.unpack_pack]

/-- The exponent of a count is that of a number between `2 ^ 0` and `2 ^ 64`. -/
theorem exponent_bounds {n : Nat} {a : Normal} (hn : n ≠ 0) (hbound : n < 2 ^ 64)
    (hrank : a.rank = rankOf n) : -52 ≤ a.exponent ∧ a.exponent ≤ 12 := by
  have hlog : n.log2 < 64 := (Nat.log2_lt hn).mpr hbound
  obtain ⟨hlower, hupper⟩ := rounded_extended_bounds hn
  have hge := a.ge
  have hlt := a.lt
  unfold Normal.rank rankOf at hrank
  omega

/-- **The share of one count in another** is between zero and one. -/
theorem share_mem_unit {n m : Nat} (hm : m ≠ 0) (h : n ≤ m) (hbound : m < 2 ^ 64) :
    0 ≤ Trigger.floatCount n / Trigger.floatCount m ∧
      Trigger.floatCount n / Trigger.floatCount m ≤ 1 := by
  obtain ⟨b, hb, hbrank⟩ := exists_floatCount hm hbound
  rw [le_iff, le_iff, parts_div, hb, parts_zero, parts_one]
  by_cases hn : n = 0
  · have hzero : (pack (UnpackedFloat.div Format.binary64 (.zero .positive) b.unpacked)).unpack =
        .zero .positive := by
      show (pack (.zero (.positive / .positive))).unpack = _
      rfl
    rw [hn, parts_floatCount_zero, hzero]
    exact ⟨rfl, rfl⟩
  · obtain ⟨a, ha, harank⟩ := exists_floatCount hn (by omega)
    have hrank : a.rank ≤ b.rank := by
      rw [harank, hbrank]
      exact rankOf_mono hn h
    have hsmall : -1000 ≤ a.exponent - b.exponent := by
      have hlow := (exponent_bounds hn (by omega) harank).1
      have hhigh := (exponent_bounds hm hbound hbrank).2
      omega
    obtain ⟨c, hc, hone⟩ := exists_div hrank hsmall
    rw [ha, hc, Normal.unpack_pack]
    exact ⟨rfl, Normal.le_of_rank_le hone⟩

end CircuitBreaker.Binary64

/-!
# `CircuitBreaker.Decimal.Binary` — the exact value of a float

Decimal texts are computed in exact arithmetic on natural numbers. A float enters that arithmetic
as its kind, its sign and a mantissa times a power of two.

## Contents
- `Binary`: a finite magnitude `mantissa · 2 ^ exponent`.
- `Reading`: what a float is.
- `Reading.ofFloat`: a float's parts, from its bits.
-/

namespace CircuitBreaker.Decimal

/-- The magnitude `mantissa · 2 ^ exponent` of a finite float. -/
structure Binary where
  mantissa : Nat
  exponent : Int
  /-- The next smaller magnitude is half as far away as the next larger one. -/
  narrow : Bool
deriving DecidableEq, Repr

/-- What a float is: no number, an infinity, or a finite magnitude with a sign. -/
inductive Reading where
  | notANumber
  | infinite (negative : Bool)
  | finite (negative : Bool) (magnitude : Binary)
deriving DecidableEq, Repr

/-- The parts of a float, from the fields of its 64 bits. -/
def Reading.ofFloat (x : Float) : Reading :=
  let bits := x.toBits.toNat
  let negative := decide (Nat.pow 2 63 ≤ bits)
  let biased := bits / Nat.pow 2 52 % Nat.pow 2 11
  let fraction := bits % Nat.pow 2 52
  if biased = Nat.pow 2 11 - 1 then
    if fraction = 0 then .infinite negative else .notANumber
  else if biased = 0 then
    .finite negative ⟨fraction, -1074, false⟩
  else
    .finite negative
      ⟨Nat.pow 2 52 + fraction, Int.ofNat biased - 1075, fraction == 0 && decide (1 < biased)⟩

/-- `n · 2 ^ e` as a fraction. -/
def scaled (n : Nat) (e : Int) : Nat × Nat := (n * Nat.pow 2 e.toNat, Nat.pow 2 (-e).toNat)

end CircuitBreaker.Decimal

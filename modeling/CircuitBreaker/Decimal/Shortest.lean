import CircuitBreaker.Decimal.Binary

/-!
# `CircuitBreaker.Decimal.Shortest` — the fewest digits that read back

Every real number between two halfway points rounds to the same float. Of all decimals in that
interval this module picks one with the fewest digits, and among those the nearest to the float.

## Contents
- `Digits`: a decimal `digits · 10 ^ exponent`.
- `Tie`: which of two equally near decimals is taken.
- `readsBack`: whether a decimal lies in the interval of a float.
- `shortest`: the decimal picked.
-/

namespace CircuitBreaker.Decimal

/-- The decimal `digits · 10 ^ exponent`. -/
structure Digits where
  digits : Nat
  exponent : Int
deriving DecidableEq, Repr

/-- Which of two equally near neighbours is taken. -/
inductive Tie where
  | toEven
  | awayFromZero
deriving DecidableEq, Repr

/-- How `a · 10 ^ i` compares with `n · 2 ^ j`. -/
def compareScaled (a : Nat) (i : Int) (n : Nat) (j : Int) : Ordering :=
  compare (a * Nat.pow 10 i.toNat * Nat.pow 2 (-j).toNat)
    (n * Nat.pow 2 j.toNat * Nat.pow 10 (-i).toNat)

/-- Whether the decimal rounds to the float: it lies between the halfway points to the float's
    neighbours, or on one of them if the float's mantissa is even. -/
def readsBack (x : Binary) (d : Digits) : Bool :=
  let low := 4 * x.mantissa - (if x.narrow then 1 else 2)
  let high := 4 * x.mantissa + 2
  let closed := x.mantissa % 2 == 0
  let atLow := compareScaled d.digits d.exponent low (x.exponent - 2)
  let atHigh := compareScaled d.digits d.exponent high (x.exponent - 2)
  (atLow == .gt || (closed && atLow == .eq)) && (atHigh == .lt || (closed && atHigh == .eq))

/-- The least power of ten above the magnitude, near the one that its binary logarithm suggests. -/
def scaleOf (x : Binary) : Int :=
  let guess := ((Nat.log2 x.mantissa : Int) + x.exponent) * 30103 / 100000 - 1
  ((List.range 6).map fun i : Nat => guess + i).find?
    (fun k => compareScaled 1 k x.mantissa x.exponent == .gt) |>.getD (guess + 6)

/-- The decimals on the grid `10 ^ g` on both sides of the magnitude that read back, the nearer
    one first. -/
def neighbours (tie : Tie) (x : Binary) (g : Int) : List Digits :=
  let num := x.mantissa * Nat.pow 2 x.exponent.toNat * Nat.pow 10 (-g).toNat
  let den := Nat.pow 2 (-x.exponent).toNat * Nat.pow 10 g.toNat
  let below := num / den
  let twice := 2 * (num % den)
  let belowFirst :=
    match tie with
    | .toEven => twice < den || (twice == den && below % 2 == 0)
    | .awayFromZero => twice < den
  let pair := if belowFirst then [below, below + 1] else [below + 1, below]
  (pair.map fun d => { digits := d, exponent := g : Digits }).filter (readsBack x)

/-- The same decimal without zeros at the end of its digits; looks at `fuel` digits. -/
def Digits.strip (fuel : Nat) (d : Digits) : Digits :=
  match fuel with
  | 0 => d
  | fuel + 1 =>
      if d.digits ≠ 0 ∧ d.digits % 10 = 0 then
        strip fuel { digits := d.digits / 10, exponent := d.exponent + 1 }
      else
        d

/-- The nearest of the shortest decimals that read back as the magnitude. Seventeen digits always
    suffice; should none be found, the exact value in units of its last place stands in. -/
def shortest (tie : Tie) (x : Binary) : Digits :=
  if x.mantissa = 0 then
    { digits := 0, exponent := 0 }
  else
    let k := scaleOf x
    match (List.range 17).findSome? fun n => (neighbours tie x (k - (n + 1 : Nat))).head? with
    | some d => d.strip 18
    | none =>
        if 0 ≤ x.exponent then
          { digits := x.mantissa * Nat.pow 2 x.exponent.toNat, exponent := 0 }
        else
          { digits := x.mantissa * Nat.pow 5 (-x.exponent).toNat, exponent := x.exponent }

end CircuitBreaker.Decimal

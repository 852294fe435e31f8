import CircuitBreaker.Json

/-!
# `CircuitBreaker.Json.Number` — reading numbers

A whole number that fits 64 bits is read as itself. Any other number is read as a float in two
steps: the leading digits that fit 64 bits make a whole number, and one power of ten scales it.
The scaling rounds once more, so the result may be one unit in the last place off the nearest
float.

## Contents
- `Literal`: the parts of a number's text.
- `Significand.take`: the leading digits that fit.
- `scale?`: a whole number times a power of ten.
- `Literal.value`: the number that a literal stands for.
-/

namespace CircuitBreaker.Json

/-- The parts of a number's text. -/
structure Literal where
  negative : Bool
  /-- The digits before the point. -/
  whole : List Char
  /-- The digits after the point, where there is one. -/
  fraction : Option (List Char)
  /-- The sign and the digits of the power of ten, where there is one. -/
  power : Option (Bool × List Char)
deriving DecidableEq, Repr

/-- The largest significand: it is an unsigned 64-bit number. -/
def significandLimit : Nat := UInt64.size - 1

/-- The largest power of ten that a literal may write. -/
def powerLimit : Nat := Int32.maxValue.toNatClampNeg

/-- The value of a decimal digit. -/
def digitValue (c : Char) : Nat := c.toNat - '0'.toNat

/-- Extend `n` by leading digits as long as it fits 64 bits. The result counts the digits taken
    and holds those left. -/
def takeDigits (n : Nat) : List Char → Nat × Nat × List Char
  | [] => (n, 0, [])
  | c :: rest =>
      if n * 10 + digitValue c ≤ significandLimit then
        let (m, taken, left) := takeDigits (n * 10 + digitValue c) rest
        (m, taken + 1, left)
      else
        (n, 0, c :: rest)

/-- Powers of ten as floats. -/
def floatPower (e : Nat) : Float := Float.ofScientific 1 false e

/-- The largest power of ten that is a float. -/
def greatestPower : Nat := 308

/-- `x · 10 ^ power`. A negative power is divided out, in steps of the largest power of ten if it
    needs to be (`steps` bounds them); a magnitude too large is `none`. -/
def scale? (steps : Nat) (x : Float) (power : Int) : Option Float :=
  if power.natAbs ≤ greatestPower then
    if 0 ≤ power then
      let y := x * floatPower power.toNat
      if y.isInf then none else some y
    else
      some (x / floatPower power.natAbs)
  else if x == 0 then
    some x
  else if 0 ≤ power then
    none
  else
    match steps with
    | 0 => some 0
    | steps + 1 => scale? steps (x / floatPower greatestPower) (power + greatestPower)

/-- A magnitude with its sign. -/
def signed (negative : Bool) (x : Float) : Float := if negative then -x else x

namespace Literal

/-- The literal as a float. -/
def floatValue (l : Literal) : Number :=
  let (n, _, dropped) := takeDigits 0 l.whole
  let (n, taken) :=
    match l.fraction with
    | none => (n, 0)
    | some ds =>
        let (n, taken, _) := takeDigits n ds
        (n, taken)
  let base := (dropped.length : Int) - taken
  let finish (power : Int) : Number :=
    match scale? 8 (UInt64.ofNat n).toFloat power with
    | some x => .float (signed l.negative x)
    | none => .outOfRange
  match l.power with
  | none => finish base
  | some (negativePower, ds) =>
      let (p, _, left) := takeDigits 0 ds
      if left.isEmpty && p ≤ powerLimit then
        let p : Int := if negativePower then -p else p
        finish (max (-powerLimit - 1) (min powerLimit (base + p)))
      else if n ≠ 0 && !negativePower then
        .outOfRange
      else
        .float (signed l.negative 0)

/-- The number that a literal stands for. Zero with a sign is a float. -/
def value (l : Literal) : Number :=
  if l.fraction.isSome || l.power.isSome then
    l.floatValue
  else
    let (n, _, left) := takeDigits 0 l.whole
    if left.isEmpty then
      if !l.negative then .int n
      else if n = 0 || -n < Int64.minValue.toInt then l.floatValue
      else .int (-n)
    else
      l.floatValue

end Literal

end CircuitBreaker.Json

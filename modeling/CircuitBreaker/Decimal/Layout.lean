import CircuitBreaker.Decimal.Shortest

/-!
# `CircuitBreaker.Decimal.Layout` — how a float is written

The digits of a float are one matter, where they stand on the page another. A `Layout` holds the
decisions of one written form.

## Contents
- `Layout`: the decisions; `Layout.write` writes a float in them.
- `plain`: positional notation throughout.
- `fixedPlaces`: a float rounded to a set number of places.
-/

namespace CircuitBreaker.Decimal

/-- The decisions of one written form of floats. -/
structure Layout where
  /-- Which of two equally near decimals is written. -/
  tie : Tie
  /-- Positional notation is used for magnitudes of at least `10 ^ least`, where one is set. -/
  least : Option Int
  /-- Positional notation is used for magnitudes below `10 ^ most`, where one is set. -/
  most : Option Int
  /-- Whole numbers end in `.0`. -/
  pointed : Bool
  /-- What stands for a float that is no number. -/
  nanText : String
  /-- What stands for infinity. -/
  infinityText : String

/-- The decimal digits of a number. -/
def digitChars (n : Nat) : List Char := Nat.toDigits 10 n

/-- Digits with a point `after` places from the left, filled up with zeros. -/
def positional (digits : List Char) (after : Int) (pointed : Bool) : List Char :=
  let n := digits.length
  if (n : Int) ≤ after then
    digits ++ List.replicate (after.toNat - n) '0' ++ (if pointed then ['.', '0'] else [])
  else if 0 < after then
    digits.take after.toNat ++ '.' :: digits.drop after.toNat
  else
    '0' :: '.' :: (List.replicate (-after).toNat '0' ++ digits)

/-- Digits with a point after the first, and a signed power of ten. -/
def scientific (digits : List Char) (after : Int) : List Char :=
  let head := digits.take 1
  let tail := digits.drop 1
  let power := after - 1
  head ++ (if tail.isEmpty then [] else '.' :: tail)
    ++ 'e' :: (if power < 0 then '-' else '+') :: digitChars power.natAbs

/-- A finite magnitude in a layout. -/
def Layout.writeBinary (l : Layout) (x : Binary) : List Char :=
  if x.mantissa = 0 then
    '0' :: (if l.pointed then ['.', '0'] else [])
  else
    let d := shortest l.tie x
    let digits := digitChars d.digits
    let after := (digits.length : Int) + d.exponent
    let isPositional :=
      (l.least.all fun k => decide (k < after)) && (l.most.all fun k => decide (after ≤ k))
    if isPositional then positional digits after l.pointed else scientific digits after

/-- A float in a layout. -/
def Layout.write (l : Layout) (x : Float) : String :=
  match Reading.ofFloat x with
  | .notANumber => l.nanText
  | .infinite negative => (if negative then "-" else "") ++ l.infinityText
  | .finite negative m =>
      (if negative then "-" else "") ++ String.ofList (l.writeBinary m)

/-- Positional notation throughout: the fewest digits that read back, and no point in a whole
    number. -/
def plain : Layout where
  tie := .awayFromZero
  least := none
  most := none
  pointed := false
  nanText := "NaN"
  infinityText := "inf"

/-- `num / den` rounded to the nearest whole number. -/
def roundDiv (tie : Tie) (num den : Nat) : Nat :=
  let below := num / den
  let twice := 2 * (num % den)
  match tie with
  | .toEven =>
      if twice < den ∨ (twice = den ∧ below % 2 = 0) then below else below + 1
  | .awayFromZero => if twice < den then below else below + 1

/-- The exact value of a float rounded to `places` decimal places, halves to the even neighbour. -/
def fixedPlaces (places : Nat) (x : Float) : String :=
  match Reading.ofFloat x with
  | .notANumber => "NaN"
  | .infinite negative => if negative then "-inf" else "inf"
  | .finite negative m =>
      let (num, den) := scaled m.mantissa m.exponent
      let units := digitChars (roundDiv .toEven (num * Nat.pow 10 places) den)
      let digits := List.replicate (places + 1 - units.length) '0' ++ units
      let whole := digits.length - places
      (if negative then "-" else "") ++ String.ofList (digits.take whole)
        ++ (if places = 0 then "" else "." ++ String.ofList (digits.drop whole))

end CircuitBreaker.Decimal

/-!
# `CircuitBreaker.Text.Numeral` — numbers written in digits

## Contents
- `digit?`, `digits?`: digits of some base.
- `nat?`: a natural number, with or without a plus sign.
- `int?`: a whole number, with or without a sign.
-/

namespace CircuitBreaker.Text.Numeral

/-- The value of a digit, of either case, if it is one of the base. -/
def digit? (base : Nat) (c : Char) : Option Nat :=
  let value :=
    if '0' ≤ c ∧ c ≤ '9' then some (c.toNat - '0'.toNat)
    else if 'a' ≤ c ∧ c ≤ 'f' then some (c.toNat - 'a'.toNat + 10)
    else if 'A' ≤ c ∧ c ≤ 'F' then some (c.toNat - 'A'.toNat + 10)
    else none
  value.bind fun d => if d < base then some d else none

/-- The number that digits stand for, after those that are in `n`. -/
def digitsFrom? (base n : Nat) : List Char → Option Nat
  | [] => some n
  | c :: rest => (digit? base c).bind fun d => digitsFrom? base (base * n + d) rest

/-- The number that one or more digits stand for. -/
def digits? (base : Nat) (cs : List Char) : Option Nat :=
  if cs.isEmpty then none else digitsFrom? base 0 cs

/-- A natural number of at most `limit`. -/
def nat? (base limit : Nat) (cs : List Char) : Option Nat :=
  let n := match cs with
    | '+' :: rest => digits? base rest
    | cs => digits? base cs
  n.bind fun n => if n ≤ limit then some n else none

/-- A whole number from `-limit - 1` to `limit`. -/
def int? (base limit : Nat) (cs : List Char) : Option Int :=
  match cs with
  | '-' :: rest =>
      (digits? base rest).bind fun n => if n ≤ limit + 1 then some (-Int.ofNat n) else none
  | cs => (nat? base limit cs).map Int.ofNat

end CircuitBreaker.Text.Numeral

/-!
# `CircuitBreaker.Unicode.Ranges` — tables of code points

A set of code points as a list of ranges, lowest first. The tables of the standard are written down
as texts such as `41-5A AA`, in hexadecimal.

## Contents
- `Ranges`, `Ranges.contains`: the sets.
- `Ranges.ofText`: the set that a text writes down.
-/

namespace CircuitBreaker.Unicode

/-- Ranges of code points, both ends included, lowest first and apart from each other. -/
abbrev Ranges := List (Nat × Nat)

namespace Ranges

/-- Whether a code point is in one of the ranges. -/
def contains : Ranges → Nat → Bool
  | [], _ => false
  | (low, high) :: rest, n =>
      if n < low then false else if n ≤ high then true else contains rest n

/-- The value of an upper case hexadecimal digit. -/
def digitValue (c : Char) : Nat :=
  if c.isDigit then c.toNat - '0'.toNat else c.toNat - 'A'.toNat + 10

/-- The range from `low` to `high`, or the one code point `high`, once `high` is known. -/
def single (low high : Option Nat) : Ranges :=
  match high with
  | some n => [(low.getD n, n)]
  | none => []

/-- Read ranges: `low` is the lower end of the present range once it is known, `n` the number read
    so far. -/
def read (low n : Option Nat) : List Char → Ranges
  | [] => single low n
  | c :: rest =>
      if c == '-' then read n none rest
      else if c == ' ' || c == '\n' then single low n ++ read none none rest
      else read low (some (16 * n.getD 0 + digitValue c)) rest

/-- The ranges that a text writes down, with white space between them. -/
def ofText (s : String) : Ranges := read none none s.toList

end Ranges

end CircuitBreaker.Unicode

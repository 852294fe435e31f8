import CircuitBreaker.Regex

/-!
# `CircuitBreaker.Regex.Search` — looking for a match

An expression is matched by its residuals: what is left to match after one character. Assertions are
decided at the place where they are met, so residuals depend on the characters around that place.
The search keeps the set of residuals of all matches under way, and starts a new match at every
place.

## Contents
- `Regex.matchesEmpty`: whether an expression matches the empty text at a place.
- `Regex.residuals`: what is left of an expression after one character.
- `Regex.isMatch`: whether an expression matches some part of a text.
-/

namespace CircuitBreaker.Regex

/-- Whether the expression matches the empty text at a place. -/
def matchesEmpty (p : Place) : Regex → Bool
  | never => false
  | empty => true
  | set _ => false
  | look l => l.holds p
  | cat a b => a.matchesEmpty p && b.matchesEmpty p
  | alt a b => a.matchesEmpty p || b.matchesEmpty p
  | rep a least _ => least == 0 || a.matchesEmpty p

/-- One expression after another; nothing is left of an empty one. -/
def andThen (a b : Regex) : Regex :=
  match a with
  | empty => b
  | a => cat a b

/-- What may be left to match after the character `c` is matched from a place on. A repetition whose
    item matches the empty text there may have used up its least count already. -/
def residuals (p : Place) (c : Char) : Regex → List Regex
  | never => []
  | empty => []
  | set s => if s.mem c.toNat then [empty] else []
  | look _ => []
  | cat a b =>
      (a.residuals p c).map (fun r => andThen r b)
        ++ (if a.matchesEmpty p then b.residuals p c else [])
  | alt a b => a.residuals p c ++ b.residuals p c
  | rep a least most =>
      if most == some 0 then
        []
      else
        -- items that match the empty text here may have made up the rest of the least count
        let least := if a.matchesEmpty p then 0 else least - 1
        (a.residuals p c).map fun r => andThen r (rep a least (most.map fun m => m - 1))

/-- Whether one of the matches under way, or one that starts later, comes to an end. -/
def search (r : Regex) (underWay : List Regex) (before : Option Char) : List Char → Bool
  | [] => (r :: underWay).any fun s => s.matchesEmpty { before, after := none }
  | c :: rest =>
      let here := r :: underWay
      let p : Place := { before, after := some c }
      if here.any fun s => s.matchesEmpty p then
        true
      else
        search r (here.flatMap fun s => s.residuals p c).eraseDups (some c) rest

/-- Whether the expression matches some part of the text. -/
def isMatch (r : Regex) (s : String) : Bool := r.search [] none s.toList

end CircuitBreaker.Regex

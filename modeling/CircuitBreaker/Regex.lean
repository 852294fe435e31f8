import CircuitBreaker.Text.Blank
import CircuitBreaker.Unicode.Folding
import CircuitBreaker.Unicode.Property

/-!
# `CircuitBreaker.Regex` — regular expressions

What a regular expression is made of: sets of characters, assertions about a place between two
characters, and the ways to put expressions together. Whether an expression matches is a matter of
`Regex.Search`, how it is written one of `Regex.Reader`.

## Contents
- `Property`, `CharSet`, `CharSet.mem`: sets of characters.
- `Place`, `Edge`, `Look`, `Look.holds`: assertions.
- `Regex`: the expressions.
-/

namespace CircuitBreaker

open Unicode (Ranges Category)

/-- Properties of characters that a set may ask for. -/
inductive Property where
  | digit
  | space
  | word
  | alphabetic
  | uppercase
  | lowercase
  | category (c : Category)
deriving DecidableEq, Repr

namespace Property

/-- Whether a code point has the property. -/
def has (p : Property) (n : Nat) : Bool :=
  match p with
  | digit => Unicode.isDigit n
  | space => Text.isBlankChar (Char.ofNat n)
  | word => Unicode.isWord n
  | alphabetic => Unicode.isAlphabetic n
  | uppercase => Unicode.isUppercase n
  | lowercase => Unicode.isLowercase n
  | category c => c.has n

end Property

/-- A set of characters. -/
inductive CharSet where
  | table (ranges : Ranges)
  | property (p : Property)
  | union (a b : CharSet)
  | inter (a b : CharSet)
  | diff (a b : CharSet)
  | symmDiff (a b : CharSet)
  | compl (a : CharSet)
  /-- The characters that differ from one in the set at most in case. Only the letters of ASCII have
      case if the set is not `wide`. -/
  | folded (wide : Bool) (a : CharSet)
deriving DecidableEq, Repr

namespace CharSet

/-- The letters of ASCII in both cases, and other characters as they are. -/
def asciiVariants (n : Nat) : List Nat :=
  if 0x41 ≤ n ∧ n ≤ 0x5A then [n, n + 0x20]
  else if 0x61 ≤ n ∧ n ≤ 0x7A then [n, n - 0x20]
  else [n]

/-- Whether a code point is in the set. -/
def mem : CharSet → Nat → Bool
  | table ranges, n => ranges.any fun r => decide (r.1 ≤ n) && decide (n ≤ r.2)
  | property p, n => p.has n
  | union a b, n => a.mem n || b.mem n
  | inter a b, n => a.mem n && b.mem n
  | diff a b, n => a.mem n && !b.mem n
  | symmDiff a b, n => a.mem n != b.mem n
  | compl a, n => !a.mem n
  | folded wide a, n =>
      (if wide then Unicode.caseVariants n else asciiVariants n).any fun m => a.mem m

/-- The set of nothing. -/
def empty : CharSet := table []

/-- The set of one character. -/
def single (n : Nat) : CharSet := table [(n, n)]

end CharSet

/-- A place in a text: the characters right before and right after it. -/
structure Place where
  before : Option Char
  after : Option Char
deriving DecidableEq, Repr

/-- What a place may be to the words around it. -/
inductive Edge where
  /-- A word starts or ends here. -/
  | boundary
  /-- No word starts or ends here. -/
  | noBoundary
  | starts
  | ends
  /-- No word goes on from the left. -/
  | freeBefore
  /-- No word goes on to the right. -/
  | freeAfter
deriving DecidableEq, Repr

/-- Assertions about a place. -/
inductive Look where
  /-- The text starts here. -/
  | first
  /-- The text ends here. -/
  | last
  /-- A line starts here; with `carriage`, carriage returns end lines as well. -/
  | lineFirst (carriage : Bool)
  /-- A line ends here. -/
  | lineLast (carriage : Bool)
  /-- The place is at the edge of a word; words are made of ASCII if it is not `wide`. -/
  | edge (e : Edge) (wide : Bool)
deriving DecidableEq, Repr

namespace Look

/-- Whether a character belongs to words. -/
def isWordChar (wide : Bool) (c : Char) : Bool :=
  if wide then Unicode.isWord c.toNat else c.isAlphanum || c == '_'

/-- Whether the assertion holds at a place. -/
def holds (l : Look) (p : Place) : Bool :=
  match l with
  | first => p.before.isNone
  | last => p.after.isNone
  | lineFirst false => p.before.all fun c => c == '\n'
  | lineLast false => p.after.all fun c => c == '\n'
  | lineFirst true => p.before.all fun c => c == '\n' || (c == '\r' && p.after != some '\n')
  | lineLast true => p.after.all fun c => c == '\r' || (c == '\n' && p.before != some '\r')
  | edge e wide =>
      let left := p.before.any (isWordChar wide)
      let right := p.after.any (isWordChar wide)
      match e with
      | .boundary => left != right
      | .noBoundary => left == right
      | .starts => !left && right
      | .ends => left && !right
      | .freeBefore => !left
      | .freeAfter => !right

end Look

/-- A regular expression. -/
inductive Regex where
  /-- Matches nothing at all. -/
  | never
  /-- Matches the empty text. -/
  | empty
  /-- Matches one character of a set. -/
  | set (s : CharSet)
  /-- Matches the empty text at places where an assertion holds. -/
  | look (l : Look)
  | cat (a b : Regex)
  | alt (a b : Regex)
  /-- Matches `a` at least `least` times in a row, and at most `most` times where that is set. -/
  | rep (a : Regex) (least : Nat) (most : Option Nat)
deriving DecidableEq, Repr

end CircuitBreaker

import CircuitBreaker.Regex.Search

/-!
# `CircuitBreaker.Pattern.Cache` — compiled expressions, the most recently used

Compiling an expression takes time, so the expressions used last are kept. The entries stand in the
order of use; one too many pushes out the entry at the end. What does not compile is not kept.

## Contents
- `Compiler`: what turns a text into an expression.
- `PatternCache`: the entries, and how often the compiler was asked.
- `PatternCache.lookup`: the expression of a text, from the cache or from the compiler.
-/

namespace CircuitBreaker

/-- What turns a text into an expression; `none` if the text is none. -/
abbrev Compiler := String → Option Regex

/-- Compiled expressions, the most recently used first. -/
structure PatternCache where
  capacity : Nat
  entries : List (String × Regex) := []
  /-- How often the compiler was asked. -/
  compilations : Nat := 0
deriving Repr

namespace PatternCache

/-- A cache for `capacity` expressions, and for one at least. -/
def ofCapacity (capacity : Nat) : PatternCache := { capacity := max capacity 1 }

/-- The number of entries. -/
def size (c : PatternCache) : Nat := c.entries.length

/-- The entry of a text. -/
def find? (c : PatternCache) (text : String) : Option Regex :=
  (c.entries.find? fun e => e.1 == text).map fun e => e.2

/-- The entries with one put in front and none of its name behind. -/
def promote (entries : List (String × Regex)) (text : String) (r : Regex) :
    List (String × Regex) :=
  (text, r) :: entries.filter fun e => e.1 != text

/-- The expression of a text. An entry is used as it is and becomes the most recent one; otherwise
    the compiler is asked, and what it gives is kept. -/
def lookup (compile : Compiler) (c : PatternCache) (text : String) :
    Option Regex × PatternCache :=
  match c.find? text with
  | some r => (some r, { c with entries := promote c.entries text r })
  | none =>
      let asked := { c with compilations := c.compilations + 1 }
      match compile text with
      | some r => (some r, { asked with entries := ((text, r) :: c.entries).take c.capacity })
      | none => (none, asked)

end PatternCache

end CircuitBreaker

import CircuitBreaker.Pattern
import CircuitBreaker.Pattern.Cache

/-!
# `CircuitBreaker.Pattern.Matching` — whether a text fits a pattern

## Contents
- `pieces`: a list with commas.
- `Pattern.expression?`: the expression that a pattern needs compiled.
- `Pattern.accepts`: whether a text fits, given the compiled expression.
- `Pattern.compile`, `Pattern.matchesIn`: compiling through a cache.
- `CompiledPattern`: a pattern compiled beforehand.
-/

namespace CircuitBreaker

/-- The parts of a text between the separators. -/
def pieces (separator : Char) : List Char → List (List Char)
  | [] => [[]]
  | c :: rest =>
      if c == separator then
        [] :: pieces separator rest
      else
        match pieces separator rest with
        | [] => [[c]]
        | p :: more => (c :: p) :: more

namespace Pattern

/-- Whether a text is one of the values between commas, white space around them aside. -/
def isListed (value text : String) : Bool :=
  (pieces ',' value.toList).any fun p => Text.trimChars p == text.toList

/-- The expression that has to be compiled: patterns of other kinds have none, and wildcards need
    none. -/
def expression? (p : Pattern) : Option String :=
  if p.kind == .regex && !Text.isWildcard p.value then some p.value else none

/-- Whether a text fits the pattern, whose expression compiled to `regex`. An expression that does
    not compile fits nothing. -/
def accepts (p : Pattern) (regex : Option Regex) (text : String) : Bool :=
  match p.kind with
  | .exact => Text.isWildcard p.value || p.value == text
  | .regex => Text.isWildcard p.value || regex.any fun r => r.isMatch text
  | .notEquals => p.value != text
  | .oneOf => isListed p.value text
  | .noneOf => !isListed p.value text

/-- The pattern's expression, looked up in a cache. -/
def compile (f : Compiler) (p : Pattern) (cache : PatternCache) : Option Regex × PatternCache :=
  match p.expression? with
  | some e => cache.lookup f e
  | none => (none, cache)

/-- Whether a text fits the pattern, whose expression is looked up in a cache. -/
def matchesIn (f : Compiler) (p : Pattern) (text : String) (cache : PatternCache) :
    Bool × PatternCache :=
  let (regex, cache) := p.compile f cache
  (p.accepts regex text, cache)

end Pattern

/-- A pattern with its expression. -/
structure CompiledPattern where
  pattern : Pattern
  regex : Option Regex
deriving Repr

namespace CompiledPattern

/-- Compile a pattern through a cache. -/
def ofPattern (f : Compiler) (p : Pattern) (cache : PatternCache) :
    CompiledPattern × PatternCache :=
  let (regex, cache) := p.compile f cache
  ({ pattern := p, regex }, cache)

/-- Whether a text fits. -/
def accepts (p : CompiledPattern) (text : String) : Bool := p.pattern.accepts p.regex text

end CompiledPattern

end CircuitBreaker

/-!
# `CircuitBreaker.Pattern` — what a rule may say about a text

A pattern compares a path or a return code with a value: as it stands, as a regular expression, or
as a set of values.

## Contents
- `PatternKind`: how the value is compared.
- `Pattern`: a kind and a value.
-/

namespace CircuitBreaker

/-- How a pattern compares its value with a text. -/
inductive PatternKind where
  /-- The text is the value. -/
  | exact
  /-- The value is a regular expression that matches some part of the text. -/
  | regex
  /-- The text is not the value. -/
  | notEquals
  /-- The value is a list with commas, and the text is in it. -/
  | oneOf
  /-- The value is a list with commas, and the text is not in it. -/
  | noneOf
deriving DecidableEq, Repr, Inhabited

namespace PatternKind

/-- The name of the kind. -/
def text : PatternKind → String
  | exact => "Exact"
  | regex => "Regex"
  | notEquals => "NotEquals"
  | oneOf => "In"
  | noneOf => "NotIn"

/-- The kinds. -/
def all : List PatternKind := [exact, regex, notEquals, oneOf, noneOf]

end PatternKind

/-- A pattern. -/
structure Pattern where
  kind : PatternKind := .exact
  value : String := ""
deriving DecidableEq, Repr, Inhabited

end CircuitBreaker

/-!
# `CircuitBreaker.Text.Fields` — structures on one line

## Contents
- `fields`: a structure with its fields, each with its name.
-/

namespace CircuitBreaker.Text

/-- A structure on one line: its name, then its fields in braces. -/
def fields (name : String) (fs : List (String × String)) : String :=
  name ++ " \x7b " ++ ", ".intercalate (fs.map fun f => f.1 ++ ": " ++ f.2) ++ " \x7d"

end CircuitBreaker.Text

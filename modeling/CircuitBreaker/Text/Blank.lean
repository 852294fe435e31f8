/-!
# `CircuitBreaker.Text.Blank` — white space

The characters with the Unicode property White_Space, and the texts that they leave blank.

## Contents
- `isBlankChar`: the property, as the ranges of the standard.
- `trimChars`, `trim`: a text without the white space at its two ends.
- `isBlank`: texts that trim to nothing.
- `isWildcard`: names that stand for every name.
-/

namespace CircuitBreaker.Text

/-- Whether `c` has the Unicode property White_Space. -/
def isBlankChar (c : Char) : Bool :=
  let n := c.toNat
  (0x9 ≤ n && n ≤ 0xD) || n == 0x20 || n == 0x85 || n == 0xA0 || n == 0x1680
    || (0x2000 ≤ n && n ≤ 0x200A) || n == 0x2028 || n == 0x2029 || n == 0x202F || n == 0x205F
    || n == 0x3000

/-- The characters without the white space at the two ends. -/
def trimChars (cs : List Char) : List Char :=
  ((cs.dropWhile isBlankChar).reverse.dropWhile isBlankChar).reverse

/-- The text without the white space at its two ends. -/
def trim (s : String) : String := String.ofList (trimChars s.toList)

/-- Whether nothing but white space is in the text. -/
def isBlank (s : String) : Bool := s.toList.all isBlankChar

/-- Whether a name in a rule stands for every name: it is empty or a lone star. -/
def isWildcard (s : String) : Bool := s == "" || s == "*"

end CircuitBreaker.Text

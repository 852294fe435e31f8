import CircuitBreaker.Unicode.Property

/-!
# `CircuitBreaker.Text.Quoted` — names and reasons inside quotes

Messages quote the names that users chose. Inside the quotes every character that would not show,
or that would merge with the one before it, is written as its code point.

## Contents
- `escape`: what stands for a character.
- `quoted`: a text with its quotes.
-/

namespace CircuitBreaker.Text

/-- A code point as lower case hexadecimal digits between braces. -/
def codePoint (n : Nat) : List Char := ['\\', 'u', '\x7b'] ++ Nat.toDigits 16 n ++ ['\x7d']

/-- What stands for a character inside quotes. -/
def escape (c : Char) : List Char :=
  match c with
  | '\x00' => ['\\', '0']
  | '\t' => ['\\', 't']
  | '\r' => ['\\', 'r']
  | '\n' => ['\\', 'n']
  | '"' => ['\\', '"']
  | '\\' => ['\\', '\\']
  | c =>
      if Unicode.extendsGrapheme c.toNat || !Unicode.isPrintable c.toNat then codePoint c.toNat
      else [c]

/-- A text with its quotes. -/
def quoted (s : String) : String := "\"" ++ String.ofList (s.toList.flatMap escape) ++ "\""

end CircuitBreaker.Text

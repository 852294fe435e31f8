import CircuitBreaker.Json
import CircuitBreaker.Decimal.Layout

/-!
# `CircuitBreaker.Json.Printer` — values as text

JSON text in two layouts: without white space, and indented by two spaces a level.

## Contents
- `quote`: a text with its quotes; only quotes, backslashes and control characters are escaped.
- `numberLayout`: how floats are written.
- `compress`, `pretty`: the two layouts.
-/

namespace CircuitBreaker.Json

/-- The lower case hexadecimal digit of a number below sixteen. -/
def hexDigit (n : Nat) : Char := Nat.digitChar n

/-- What stands for a character inside quotes. -/
def escape (c : Char) : List Char :=
  match c with
  | '"' => ['\\', '"']
  | '\\' => ['\\', '\\']
  | '\n' => ['\\', 'n']
  | '\r' => ['\\', 'r']
  | '\t' => ['\\', 't']
  | '\x08' => ['\\', 'b']
  | '\x0c' => ['\\', 'f']
  | c =>
      if c.toNat < 0x20 then
        ['\\', 'u', '0', '0', hexDigit (c.toNat / 16), hexDigit (c.toNat % 16)]
      else
        [c]

/-- A text with its quotes. -/
def quote (s : String) : String := "\"" ++ String.ofList (s.toList.flatMap escape) ++ "\""

/-- Floats have the fewest digits that read back and always show that they are no whole numbers;
    magnitudes below 1e-5 and from 1e16 on have an exponent. -/
def numberLayout : Decimal.Layout where
  tie := .toEven
  least := some (-5)
  most := some 16
  pointed := true
  nanText := "null"
  infinityText := "null"

/-- A number. What is no finite number is written as null. -/
def numberText : Number → String
  | .int n => toString n
  | .float x => if x.isNaN || x.isInf then "null" else numberLayout.write x
  | .outOfRange => "null"

mutual

/-- A value without white space. -/
def compress : Json → String
  | .null => "null"
  | .bool b => if b then "true" else "false"
  | .number n => numberText n
  | .text s => quote (s.getD "")
  | .array items => "[" ++ ",".intercalate (compressList items) ++ "]"
  | .object members => "\x7b" ++ ",".intercalate (compressMembers members) ++ "\x7d"

/-- Values without white space. -/
def compressList : List Json → List String
  | [] => []
  | j :: rest => compress j :: compressList rest

/-- Members without white space. -/
def compressMembers : List (Option String × Json) → List String
  | [] => []
  | (name, j) :: rest => (quote (name.getD "") ++ ":" ++ compress j) :: compressMembers rest

end

/-- A line break and the indentation of a level. -/
def newline (level : Nat) : String := String.ofList ('\n' :: List.replicate (2 * level) ' ')

/-- Lines between two brackets, one level further in; nothing at all between them if there are
    none. -/
def bracketed (level : Nat) (opening closing : String) (lines : List String) : String :=
  if lines.isEmpty then
    opening ++ closing
  else
    opening ++ newline (level + 1) ++ ("," ++ newline (level + 1)).intercalate lines
      ++ newline level ++ closing

mutual

/-- A value over several lines, at a level of indentation. -/
def prettyAt (level : Nat) : Json → String
  | .array items => bracketed level "[" "]" (prettyList (level + 1) items)
  | .object members => bracketed level "\x7b" "\x7d" (prettyMembers (level + 1) members)
  | .null => "null"
  | .bool b => if b then "true" else "false"
  | .number n => numberText n
  | .text s => quote (s.getD "")

/-- Values over several lines. -/
def prettyList (level : Nat) : List Json → List String
  | [] => []
  | j :: rest => prettyAt level j :: prettyList level rest

/-- Members over several lines. -/
def prettyMembers (level : Nat) : List (Option String × Json) → List String
  | [] => []
  | (name, j) :: rest =>
      (quote (name.getD "") ++ ": " ++ prettyAt level j) :: prettyMembers level rest

end

/-- A value over several lines, indented by two spaces a level. -/
def pretty (j : Json) : String := prettyAt 0 j

end CircuitBreaker.Json

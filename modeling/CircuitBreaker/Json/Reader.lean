import CircuitBreaker.Json.Number

/-!
# `CircuitBreaker.Json.Reader` — values from text

A total reader of JSON text. Each function takes the characters ahead and returns what it read with
the characters left; `fuel` bounds how often values follow or enclose each other, and the number of
characters is always enough of it.

## Contents
- `readLiteral`, `readUnits`, `assemble`: numbers and texts.
- `readValue`, `readItems`, `readMembers`: values.
- `parse?`: a whole text.
-/

namespace CircuitBreaker.Json

/-- White space between tokens. -/
def isGap (c : Char) : Bool := c == ' ' || c == '\t' || c == '\n' || c == '\r'

/-- The characters after leading white space. -/
def skipGap (cs : List Char) : List Char := cs.dropWhile isGap

/-! ## Numbers -/

/-- The digits at the front, and what follows them. -/
def splitDigits (cs : List Char) : List Char × List Char :=
  (cs.takeWhile Char.isDigit, cs.dropWhile Char.isDigit)

/-- The digits after a point, if one follows: at least one. -/
def readFraction (cs : List Char) : Option (Option (List Char) × List Char) :=
  match cs with
  | '.' :: rest =>
      let (ds, rest) := splitDigits rest
      if ds.isEmpty then none else some (some ds, rest)
  | _ => some (none, cs)

/-- The power of ten, if one follows: an optional sign and at least one digit. -/
def readPower (cs : List Char) : Option (Option (Bool × List Char) × List Char) :=
  match cs with
  | c :: rest =>
      if c == 'e' || c == 'E' then
        let (negative, rest) :=
          match rest with
          | '-' :: rest => (true, rest)
          | '+' :: rest => (false, rest)
          | _ => (false, rest)
        let (ds, rest) := splitDigits rest
        if ds.isEmpty then none else some (some (negative, ds), rest)
      else
        some (none, cs)
  | [] => some (none, [])

/-- A number: no digits may follow a leading zero. -/
def readLiteral (cs : List Char) : Option (Literal × List Char) := do
  let (negative, cs) :=
    match cs with
    | '-' :: rest => (true, rest)
    | _ => (false, cs)
  let (whole, cs) := splitDigits cs
  match whole with
  | [] => none
  | '0' :: _ :: _ => none
  | _ =>
    let (fraction, cs) ← readFraction cs
    let (power, cs) ← readPower cs
    some ({ negative, whole, fraction, power }, cs)

/-! ## Texts -/

/-- The value of a hexadecimal digit. -/
def hexValue? (c : Char) : Option Nat :=
  if c.isDigit then some (c.toNat - '0'.toNat)
  else if 'a' ≤ c ∧ c ≤ 'f' then some (c.toNat - 'a'.toNat + 10)
  else if 'A' ≤ c ∧ c ≤ 'F' then some (c.toNat - 'A'.toNat + 10)
  else none

/-- The character that a one-letter escape stands for. -/
def escaped? (c : Char) : Option Char :=
  match c with
  | '"' => some '"'
  | '\\' => some '\\'
  | '/' => some '/'
  | 'b' => some '\x08'
  | 'f' => some '\x0c'
  | 'n' => some '\n'
  | 'r' => some '\r'
  | 't' => some '\t'
  | _ => none

/-- The code points of a text up to its closing quote, in reverse and in front of `done`. An escaped
    surrogate counts as a code point of its own. -/
def readUnits (done : List Nat) : List Char → Option (List Nat × List Char)
  | [] => none
  | '"' :: rest => some (done, rest)
  | '\\' :: 'u' :: a :: b :: c :: d :: rest =>
      match hexValue? a, hexValue? b, hexValue? c, hexValue? d with
      | some a, some b, some c, some d =>
          readUnits ((((a * 16 + b) * 16 + c) * 16 + d) :: done) rest
      | _, _, _, _ => none
  | '\\' :: c :: rest =>
      match escaped? c with
      | some c => readUnits (c.toNat :: done) rest
      | none => none
  | c :: rest => if c.toNat < 0x20 then none else readUnits (c.toNat :: done) rest

/-- Join surrogate pairs, going backwards through reversed code points. A surrogate without its
    partner leaves no text. -/
def assemble (done : List Char) : List Nat → Option (List Char)
  | [] => some done
  | low :: rest =>
      if 0xDC00 ≤ low ∧ low ≤ 0xDFFF then
        match rest with
        | high :: rest =>
            if 0xD800 ≤ high ∧ high ≤ 0xDBFF then
              assemble (Char.ofNat (0x10000 + (high - 0xD800) * 0x400 + (low - 0xDC00)) :: done) rest
            else none
        | [] => none
      else if 0xD800 ≤ low ∧ low ≤ 0xDBFF then none
      else assemble (Char.ofNat low :: done) rest

/-- A text after its opening quote. -/
def readText (cs : List Char) : Option (Option String × List Char) := do
  let (units, rest) ← readUnits [] cs
  some ((assemble [] units).map String.ofList, rest)

/-! ## Values -/

/-- The rest of `cs` after `word`. -/
def dropWord (word : List Char) (cs : List Char) : Option (List Char) :=
  if cs.take word.length == word then some (cs.drop word.length) else none

mutual

/-- A value after white space. -/
def readValue (fuel : Nat) (cs : List Char) : Option (Json × List Char) :=
  match fuel with
  | 0 => none
  | fuel + 1 =>
      match skipGap cs with
      | [] => none
      | c :: rest =>
          match c with
          | 'n' => (dropWord ['u', 'l', 'l'] rest).map fun rest => (.null, rest)
          | 't' => (dropWord ['r', 'u', 'e'] rest).map fun rest => (.bool true, rest)
          | 'f' => (dropWord ['a', 'l', 's', 'e'] rest).map fun rest => (.bool false, rest)
          | '"' => (readText rest).map fun (s, rest) => (.text s, rest)
          | '[' =>
              match skipGap rest with
              | ']' :: rest => some (.array [], rest)
              | rest => (readItems fuel [] rest).map fun (items, rest) => (.array items, rest)
          | '{' =>
              match skipGap rest with
              | '}' :: rest => some (.object [], rest)
              | rest =>
                  (readMembers fuel [] rest).map fun (members, rest) => (.object members, rest)
          | _ => (readLiteral (c :: rest)).map fun (l, rest) => (.number l.value, rest)

/-- The items of an array up to its end; `done` holds the earlier ones in reverse. -/
def readItems (fuel : Nat) (done : List Json) (cs : List Char) : Option (List Json × List Char) :=
  match fuel with
  | 0 => none
  | fuel + 1 =>
      match readValue fuel cs with
      | none => none
      | some (item, rest) =>
          match skipGap rest with
          | ',' :: rest => readItems fuel (item :: done) rest
          | ']' :: rest => some ((item :: done).reverse, rest)
          | _ => none

/-- The members of an object up to its end; `done` holds the earlier ones in reverse. -/
def readMembers (fuel : Nat) (done : List (Option String × Json)) (cs : List Char) :
    Option (List (Option String × Json) × List Char) :=
  match fuel with
  | 0 => none
  | fuel + 1 =>
      match skipGap cs with
      | '"' :: rest =>
          match readText rest with
          | none => none
          | some (name, rest) =>
              match skipGap rest with
              | ':' :: rest =>
                  match readValue fuel rest with
                  | none => none
                  | some (item, rest) =>
                      match skipGap rest with
                      | ',' :: rest => readMembers fuel ((name, item) :: done) rest
                      | '}' :: rest => some (((name, item) :: done).reverse, rest)
                      | _ => none
              | _ => none
      | _ => none

end

/-- The value that a text stands for: one value, with white space around it. -/
def parse? (s : String) : Option Json :=
  let cs := s.toList
  match readValue (cs.length + 1) cs with
  | some (j, rest) => if (skipGap rest).isEmpty then some j else none
  | none => none

end CircuitBreaker.Json

import CircuitBreaker.Text.Numeral
import CircuitBreaker.Yaml.Cursor

/-!
# `CircuitBreaker.Yaml.Tag` — tags and directives

A tag says how a text is to be read. Directives stand before a document; they are read and passed
over.

## Contents
- `Tag`: what a tag says.
- `Tag.read`: a tag.
- `Tag.readDirective`: a directive.
-/

namespace CircuitBreaker.Yaml

/-- What a tag says. -/
inductive Tag where
  /-- One of the tags that every document has, such as that of whole numbers. -/
  | core (name : String)
  /-- A tag of the document's own. -/
  | own
deriving DecidableEq, Repr

namespace Tag

/-- The characters of tags, beside the percent sign that begins an escape. -/
def isTagChar (c : Char) : Bool :=
  isWord c || c == ';' || c == '/' || c == '?' || c == ':' || c == '@' || c == '&' || c == '='
    || c == '+' || c == '$' || c == ',' || c == '.' || c == '!' || c == '~' || c == '*'
    || c == '\'' || c == '(' || c == ')' || c == '[' || c == ']'

/-- The number of two hexadecimal digits. -/
def octet? (a b : Char) : Option Nat := Text.Numeral.digits? 16 [a, b]

/-- The character that two octets stand for: the one with their number, read as two digits. -/
def pairChar? (high low : Nat) : Option Char :=
  if 0xC0 ≤ high ∧ high < 0xD8 ∧ 0x80 ≤ low ∧ low < 0xC0 then some (Char.ofNat (256 * high + low))
  else none

/-- The longest text of tag characters and escapes, and what follows. The first `skipped` characters
    belong to an escape that was read. -/
def readText (skipped : Nat) : List Char → Option (List Char × List Char)
  | [] => some ([], [])
  | c :: rest =>
      match skipped with
      | n + 1 => readText n rest
      | 0 =>
          if c == '%' then
            match rest with
            | a :: b :: more => do
                let high ← octet? a b
                if high < 0x80 then
                  (readText 2 rest).map fun (t, r) => (Char.ofNat high :: t, r)
                else
                  match more with
                  | '%' :: x :: y :: _ => do
                      let c ← pairChar? high (← octet? x y)
                      (readText 5 rest).map fun (t, r) => (c :: t, r)
                  | _ => none
            | _ => none
          else if isTagChar c then (readText 0 rest).map fun (t, r) => (c :: t, r)
          else some ([], c :: rest)

/-- A tag, from behind its exclamation mark. -/
def read (cs : List Char) : Option (Tag × List Char) :=
  match cs with
  | '<' :: rest => do
      let (text, rest) ← readText 0 rest
      match text, rest with
      | _ :: _, '>' :: rest => some (own, rest)
      | _, _ => none
  | _ =>
      let name := cs.takeWhile isWord
      match cs.drop name.length with
      | '!' :: rest => do
          let (text, rest) ← readText 0 rest
          if text.isEmpty then none
          else if name.isEmpty then some (core (String.ofList text), rest)
          else some (own, rest)
      | rest => do
          let (_, rest) ← readText 0 rest
          some (own, rest)

/-! ## Directives -/

/-- The longest version number. -/
def longestNumber : Nat := 9

/-- Behind the digits of a version number. -/
def skipNumber (cs : List Char) : Option (List Char) :=
  let digits := cs.takeWhile fun c => c.isDigit
  if digits.isEmpty || decide (longestNumber < digits.length) then none
  else some (cs.drop digits.length)

/-- Behind a version. -/
def skipVersion (cs : List Char) : Option (List Char) := do
  match ← skipNumber (cs.dropWhile isBlank) with
  | '.' :: rest => skipNumber rest
  | _ => none

/-- Behind the mark of a tag and what the mark stands for. -/
def skipShorthand (cs : List Char) : Option (List Char) := do
  match cs.dropWhile isBlank with
  | '!' :: rest =>
      let name := rest.takeWhile isWord
      let rest := rest.drop name.length
      let rest ← match rest with
        | '!' :: rest => some rest
        | rest => if name.isEmpty then some rest else none
      let (text, rest) ← readText 0 (rest.dropWhile isBlank)
      if text.isEmpty || !endsWord rest.head? then none else some rest
  | _ => none

/-- Behind a directive, from behind its percent sign. One that is not known is passed over up to the
    end of its line. -/
def readDirective (cs : List Char) : Option (List Char) :=
  let name := cs.takeWhile isWord
  let rest := cs.drop name.length
  if name.isEmpty || !endsWord rest.head? then none
  else
    match String.ofList name with
    | "YAML" => skipVersion rest
    | "TAG" => skipShorthand rest
    | _ => some (rest.dropWhile fun c => !isBreak c)

end Tag

end CircuitBreaker.Yaml

/-!
# `CircuitBreaker.Yaml.Cursor` — a place in a text

The structure of a YAML text hangs on the columns of its lines. A cursor is what is left of the text
and where that begins. A carriage return on its own ends a line, but does not go back to the first
column.

## Contents
- `isBreak`, `isBlank`, `isGap`, `isFlow`, `isWord`: kinds of characters.
- `Cursor`: the rest of the text and its place; `next`, `skip`, `skipWhile`, `skipBreak`.
- `Cursor.atMark`: whether a document begins or ends here.
-/

namespace CircuitBreaker.Yaml

/-- The characters that end a line. -/
def isBreak (c : Char) : Bool := c == '\n' || c == '\r'

/-- The characters between words. -/
def isBlank (c : Char) : Bool := c == ' ' || c == '\t'

/-- The characters between words or lines. -/
def isGap (c : Char) : Bool := isBlank c || isBreak c

/-- The characters that structure collections in brackets. -/
def isFlow (c : Char) : Bool :=
  c == ',' || c == '[' || c == ']' || c == '\x7b' || c == '\x7d'

/-- The characters of names. -/
def isWord (c : Char) : Bool := c.isAlphanum || c == '_' || c == '-'

/-- Whether a word ends before a character, or at the end of the text. -/
def endsWord : Option Char → Bool
  | some c => isGap c
  | none => true

/-- The rest of a text and where it begins. -/
structure Cursor where
  rest : List Char
  /-- How many characters are behind. -/
  index : Nat := 0
  /-- How many lines are behind. -/
  line : Nat := 0
  /-- How many characters of the line are behind. -/
  column : Nat := 0
deriving DecidableEq, Repr

namespace Cursor

/-- The beginning of a text. A null character ends it. -/
def ofText (s : String) : Cursor := { rest := s.toList.takeWhile fun c => c != '\x00' }

/-- One character further. -/
def next (c : Cursor) : Cursor :=
  match c.rest with
  | [] => c
  | '\n' :: rest => { rest, index := c.index + 1, line := c.line + 1, column := 0 }
  | _ :: rest => { rest, index := c.index + 1, line := c.line, column := c.column + 1 }

/-- Some characters further. -/
def skip (n : Nat) (c : Cursor) : Cursor := n.repeat next c

/-- Behind the characters at the front that `p` holds of. -/
def skipWhile (p : Char → Bool) (c : Cursor) : Cursor := c.skip (c.rest.takeWhile p).length

/-- Where the rest is what `rest` holds. -/
def moveTo (c : Cursor) (rest : List Char) : Cursor := c.skip (c.rest.length - rest.length)

/-- Behind the end of the line, if the cursor is at one. -/
def skipBreak (c : Cursor) : Cursor :=
  match c.rest with
  | '\r' :: '\n' :: _ => c.skip 2
  | x :: _ => if isBreak x then c.next else c
  | [] => c

/-- At the end of the line. -/
def skipLine (c : Cursor) : Cursor := c.skipWhile fun x => !isBreak x

/-- Whether the cursor is at the end of a line or of the text. -/
def atLineEnd (c : Cursor) : Bool :=
  match c.rest with
  | [] => true
  | x :: _ => isBreak x

/-- At the end of the line, if nothing stands before it but blanks and a comment. -/
def skipComment? (c : Cursor) : Option Cursor :=
  let c := c.skipWhile isBlank
  let c := match c.rest with
    | '#' :: _ => c.skipLine
    | _ => c
  if c.atLineEnd then some c else none

/-- Whether three characters of a kind stand alone at the beginning of the line. -/
def atMark (c : Cursor) (mark : Char) : Bool :=
  c.column == 0 && c.rest.take 3 == [mark, mark, mark] && endsWord c.rest[3]?

/-- Whether a document begins or ends here. -/
def atDocumentMark (c : Cursor) : Bool := c.atMark '-' || c.atMark '.'

end Cursor

end CircuitBreaker.Yaml

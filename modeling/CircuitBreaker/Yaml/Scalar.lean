import CircuitBreaker.Text.Numeral
import CircuitBreaker.Yaml.Cursor

/-!
# `CircuitBreaker.Yaml.Scalar` — texts in a document

A text is written plain, in quotes, or as a block of indented lines. Over a line break a plain or
quoted text goes on: one break is read as a space, and of several all but the first are kept.

## Contents
- `joint`: what stands between two parts of a text.
- `readQuoted`: a text in quotes.
- `readPlain`: a plain text.
- `readBlock`: a block.
-/

namespace CircuitBreaker.Yaml

/-! ## Breaks -/

/-- How many lines end in some characters. -/
def breakCount : List Char → Nat
  | [] => 0
  | '\r' :: '\n' :: rest => breakCount rest + 1
  | c :: rest => if isBreak c then breakCount rest + 1 else breakCount rest

/-- What some blanks and breaks between two parts of a text are read as. -/
def joint (gap : List Char) : List Char :=
  match breakCount gap with
  | 0 => gap
  | 1 => [' ']
  | n + 2 => List.replicate (n + 1) '\n'

/-- What they are read as after a break that was escaped. -/
def jointAfterEscape (gap : List Char) : List Char := List.replicate (breakCount gap) '\n'

/-! ## Quotes -/

/-- How a part of a quoted text ends. -/
inductive PartEnd where
  /-- The text ends too. -/
  | quote
  /-- Blanks or breaks follow. -/
  | gap
  /-- A break was escaped. -/
  | escapedBreak
deriving DecidableEq, Repr

/-- The character that a letter stands for after a backslash. -/
def escaped? : Char → Option Char
  | '0' => some '\x00'
  | 'a' => some '\x07'
  | 'b' => some '\x08'
  | 't' => some '\t'
  | '\t' => some '\t'
  | 'n' => some '\n'
  | 'v' => some '\x0b'
  | 'f' => some '\x0c'
  | 'r' => some '\r'
  | 'e' => some '\x1b'
  | ' ' => some ' '
  | '"' => some '"'
  | '\'' => some '\''
  | '\\' => some '\\'
  | 'N' => some '\u0085'
  | '_' => some '\u00a0'
  | 'L' => some '\u2028'
  | 'P' => some '\u2029'
  | _ => none

/-- How many hexadecimal digits follow a letter after a backslash. -/
def codeLength? : Char → Option Nat
  | 'x' => some 2
  | 'u' => some 4
  | 'U' => some 8
  | _ => none

/-- The character with a number, if there is one. -/
def charOf? (n : Nat) : Option Char := if n.isValidChar then some (Char.ofNat n) else none

/-- The character that hexadecimal digits stand for. -/
def codeChar? (length : Nat) (cs : List Char) : Option Char :=
  if cs.length < length then none
  else (Text.Numeral.digits? 16 (cs.take length)).bind charOf?

/-- Put a character in front of a part. -/
def consPart (c : Char) (r : List Char × PartEnd × List Char) : List Char × PartEnd × List Char :=
  (c :: r.1, r.2)

/-- A part of a text in single quotes, up to a quote or a gap, and the rest. Two quotes stand for
    one. -/
def readSinglePart : List Char → List Char × PartEnd × List Char
  | [] => ([], .gap, [])
  | '\'' :: '\'' :: rest => consPart '\'' (readSinglePart rest)
  | '\'' :: rest => ([], .quote, rest)
  | c :: rest => if isGap c then ([], .gap, c :: rest) else consPart c (readSinglePart rest)

/-- A part of a text in double quotes, up to a quote or a gap, and the rest. The first `skipped`
    characters belong to an escape that was read. -/
def readDoublePart (skipped : Nat) : List Char → Option (List Char × PartEnd × List Char)
  | [] => some ([], .gap, [])
  | c :: rest =>
      match skipped with
      | n + 1 => readDoublePart n rest
      | 0 =>
          if c == '"' then some ([], .quote, rest)
          else if c == '\\' then
            match rest with
            | [] => none
            | e :: more =>
                if isBreak e then some ([], .escapedBreak, e :: more)
                else
                  match escaped? e, codeLength? e with
                  | some x, _ => (readDoublePart 1 rest).map (consPart x)
                  | none, some length => do
                      let x ← codeChar? length more
                      (readDoublePart (length + 1) rest).map (consPart x)
                  | none, none => none
          else if isGap c then some ([], .gap, c :: rest)
          else (readDoublePart 0 rest).map (consPart c)

/-- The rest of a quoted text, from behind the opening quote or a gap, and the place behind it. -/
def readQuoted (single : Bool) (done : List Char) (c : Cursor) : Option (List Char × Cursor) :=
  if c.atDocumentMark || c.rest.isEmpty then
    none
  else
    match if single then some (readSinglePart c.rest) else readDoublePart 0 c.rest with
    | none => none
    | some (part, .quote, rest) => some (done ++ part, c.moveTo rest)
    | some (part, ending, rest) =>
        let behind := c.moveTo rest
        let start := if ending == .escapedBreak then behind.skipBreak else behind
        let gap := start.rest.takeWhile isGap
        let between := if ending == .escapedBreak then jointAfterEscape gap else joint gap
        let next := start.skipWhile isGap
        if _ : next.rest.length < c.rest.length then
          readQuoted single (done ++ part ++ between) next
        else
          none
termination_by c.rest.length
decreasing_by assumption

/-! ## Plain texts -/

/-- A part of a plain text: up to a gap, a colon behind which a word ends, or in brackets a
    character that structures them. -/
def plainPart (inFlow : Bool) : List Char → List Char
  | [] => []
  | c :: rest =>
      if isGap c then []
      else if c == ':' && (endsWord rest.head? || (inFlow && rest.head?.any isFlow)) then []
      else if inFlow && isFlow c then []
      else c :: plainPart inFlow rest

/-- Whether one of the next `n` characters is a tab that indents a line by too little. -/
def hasTab (indent : Int) (behindBreak : Bool) (c : Cursor) : Nat → Bool
  | 0 => false
  | n + 1 =>
      match c.rest with
      | [] => false
      | x :: _ =>
          (behindBreak && x == '\t' && decide (Int.ofNat c.column < indent))
            || hasTab indent (behindBreak || isBreak x) c.next n

/-- A plain text that was read. -/
structure Plain where
  text : List Char
  /-- Whether lines ended behind the text. -/
  endsLine : Bool
  /-- The place behind the text and the gap that follows. -/
  behind : Cursor

/-- The rest of a plain text whose lines have to be indented by `indent`. The `gap` stands before
    it. -/
def readPlain (inFlow : Bool) (indent : Int) (done gap : List Char) (c : Cursor) : Option Plain :=
  let stop : Plain := { text := done, endsLine := decide (0 < breakCount gap), behind := c }
  if c.atDocumentMark || c.rest.head? == some '#' then
    some stop
  else
    -- the part may be empty: then the text ended in front of the gap already
    let part := plainPart inFlow c.rest
    let after := c.skip part.length
    let done := if part.isEmpty then done else done ++ joint gap ++ part
    let following := after.rest.takeWhile isGap
    if following.isEmpty then
      some { text := done, endsLine := part.isEmpty && stop.endsLine, behind := after }
    else if hasTab indent false after following.length then
      none
    else
      let next := after.skip following.length
      if !inFlow && decide (Int.ofNat next.column < indent) then
        some { text := done, endsLine := decide (0 < breakCount following), behind := next }
      else if _ : next.rest.length < c.rest.length then
        readPlain inFlow indent done following next
      else
        none
termination_by c.rest.length
decreasing_by assumption

/-! ## Blocks -/

/-- What happens to the line breaks at the end of a block. -/
inductive Chomping where
  /-- None is kept. -/
  | strip
  /-- One is kept. -/
  | clip
  /-- All are kept. -/
  | keep
deriving DecidableEq, Repr

/-- What stands at the head of a block. -/
structure BlockHeader where
  chomping : Chomping := .clip
  /-- By how much the lines are indented; 0 leaves it to the first of them. -/
  indentation : Nat := 0
deriving DecidableEq, Repr

/-- What a sign says about the line breaks at the end. -/
def chomping? : Char → Option Chomping
  | '+' => some .keep
  | '-' => some .strip
  | _ => none

/-- The head of a block, behind its indicator, and the rest. -/
def readHeader : List Char → Option (BlockHeader × List Char)
  | [] => some ({}, [])
  | a :: rest =>
      match chomping? a, Text.Numeral.digit? 10 a with
      | some chomping, _ =>
          match rest with
          | [] => some ({ chomping }, [])
          | b :: more =>
              match Text.Numeral.digit? 10 b with
              | some 0 => none
              | some n => some ({ chomping, indentation := n }, more)
              | none => some ({ chomping }, b :: more)
      | none, some 0 => none
      | none, some n =>
          match rest with
          | [] => some ({ indentation := n }, [])
          | b :: more =>
              match chomping? b with
              | some chomping => some ({ chomping, indentation := n }, more)
              | none => some ({ indentation := n }, b :: more)
      | none, none => some ({}, a :: rest)

/-- Behind the spaces that indent a line, at most up to the column `indent`, if that is known. -/
def skipIndent (indent : Nat) (c : Cursor) : Cursor :=
  let spaces := (c.rest.takeWhile fun x => x == ' ').length
  c.skip (if indent = 0 then spaces else min spaces (indent - c.column))

/-- Empty lines of a block. -/
structure EmptyLines where
  count : Nat
  /-- The widest indentation among them and of the line behind. -/
  widest : Nat
  /-- The place behind the indentation of the next line. -/
  behind : Cursor

/-- Read the empty lines of a block and the indentation behind them. A tab must not indent. -/
def readEmptyLines (indent count widest : Nat) (c : Cursor) : Option EmptyLines :=
  let start := skipIndent indent c
  let widest := max widest start.column
  let short := indent == 0 || decide (start.column < indent)
  if short && start.rest.head? == some '\t' then
    none
  else if start.rest.head?.any isBreak then
    let next := start.skipBreak
    if _ : next.rest.length < c.rest.length then readEmptyLines indent (count + 1) widest next
    else none
  else
    some { count, widest, behind := start }
termination_by c.rest.length
decreasing_by assumption

/-- What a block was read to up to some line. -/
structure BlockState where
  text : List Char := []
  /-- Whether a line ended behind the text. -/
  ended : Bool := false
  /-- Whether the last line began with a blank. -/
  indented : Bool := false
  /-- How many empty lines follow. -/
  empty : Nat := 0

/-- Add a line to a block. In a folded block the break between two lines that begin with no blank is
    read as a space, or as nothing where empty lines follow it. -/
def BlockState.add (folded : Bool) (s : BlockState) (line : List Char) : BlockState :=
  let indented := line.head?.any isBlank
  let between :=
    if folded && s.ended && !s.indented && !indented then
      if s.empty = 0 then [' '] else []
    else if s.ended then ['\n'] else []
  { text := s.text ++ between ++ List.replicate s.empty '\n' ++ line
    ended := false
    indented
    empty := 0 }

/-- The text of a block. -/
def BlockState.finish (s : BlockState) (chomping : Chomping) : List Char :=
  let last := if s.ended then ['\n'] else []
  match chomping with
  | .strip => s.text
  | .clip => s.text ++ last
  | .keep => s.text ++ last ++ List.replicate s.empty '\n'

/-- Read the lines of a block. They stand in the column `indent`. -/
def readLines (folded : Bool) (indent : Nat) (s : BlockState) (c : Cursor) :
    Option (BlockState × Cursor) :=
  if c.column = indent ∧ ¬ c.rest.isEmpty then
    let line := c.rest.takeWhile fun x => !isBreak x
    let s := s.add folded line
    let ending := c.skip line.length
    if ending.rest.isEmpty then
      some (s, ending)
    else
      match readEmptyLines indent 0 0 ending.skipBreak with
      | none => none
      | some e =>
          if _ : e.behind.rest.length < c.rest.length then
            readLines folded indent { s with ended := true, empty := e.count } e.behind
          else
            none
  else
    some (s, c)
termination_by c.rest.length
decreasing_by assumption

/-- A block, from behind its indicator, in a collection that is indented by `indent`, and the place
    behind it. -/
def readBlock (folded : Bool) (indent : Int) (c : Cursor) : Option (List Char × Cursor) := do
  let (header, rest) ← readHeader c.rest
  let c ← (c.moveTo rest).skipComment?
  -- 0 stands for an indentation that the first line will tell
  let known :=
    if header.indentation = 0 then 0
    else if 0 ≤ indent then indent.toNat + header.indentation
    else header.indentation
  let first ← readEmptyLines known 0 0 c.skipBreak
  let width := if known = 0 then max first.widest (max (indent + 1).toNat 1) else known
  let (s, c) ← readLines folded width { empty := first.count } first.behind
  return (s.finish header.chomping, c)

end CircuitBreaker.Yaml

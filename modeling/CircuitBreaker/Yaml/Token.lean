import CircuitBreaker.Yaml.Scalar
import CircuitBreaker.Yaml.Tag

/-!
# `CircuitBreaker.Yaml.Token` — the words of a document

Collections in brackets are bounded by their brackets, blocks by their indentation: where a line
begins further to the right a block begins, and where one begins further to the left blocks end.

A key need not be marked. What may turn out to be one is remembered until a colon follows on the
same line, within 1024 characters; the mark of the key is then put in front of it.

## Contents
- `Token`: the words.
- `Candidate`: what may turn out to be a key.
- `Scanner`: what was read, and the collections that are open.
- `Token.ofText?`: the words of a text.
-/

namespace CircuitBreaker.Yaml

/-- The words of a document. -/
inductive Token where
  /-- A line about the documents that follow. -/
  | directive
  | documentStart
  | documentEnd
  /-- A sequence in a block begins. -/
  | sequenceStart
  /-- A mapping in a block begins. -/
  | mappingStart
  | blockEnd
  /-- An item of a sequence in a block follows. -/
  | item
  | flowSequenceStart
  | flowSequenceEnd
  | flowMappingStart
  | flowMappingEnd
  /-- The comma between items in brackets. -/
  | flowSeparator
  | key
  | value
  | reference (name : String)
  | anchor (name : String)
  | tag (t : Tag)
  | scalar (isPlain : Bool) (text : String)
deriving DecidableEq, Repr

/-- What may turn out to be a key. -/
structure Candidate where
  /-- How many words stand before it. -/
  position : Nat
  /-- Where it begins. -/
  index : Nat
  line : Nat
  column : Nat
  /-- Whether it is an error if it is none. -/
  isRequired : Bool
deriving DecidableEq, Repr

/-- What was read, and the collections that are open. -/
structure Scanner where
  cursor : Cursor
  tokens : List Token := []
  /-- The candidates, one place for each open bracket, innermost first, and one for the block. -/
  candidates : List (Option Candidate) := [none]
  /-- Whether a key may begin here. -/
  keyAllowed : Bool := true
  /-- The column of the innermost block; -1 outside of all. -/
  indent : Int := -1
  /-- The columns of the blocks around it. -/
  outer : List Int := []
  /-- How many brackets are open. -/
  depth : Nat := 0
  /-- Where the latest text in quotes ends: in brackets a colon there ends a key even if a word
      follows at once. -/
  adjacent : Nat := 0
deriving Repr

namespace Scanner

/-! ## Blocks and keys -/

/-- How long a key may be. -/
def longestKey : Nat := 1024

/-- How many brackets may be open. -/
def deepest : Nat := 255

/-- Add a word. -/
def push (s : Scanner) (t : Token) : Scanner := { s with tokens := s.tokens ++ [t] }

/-- Whether brackets are open. -/
def inFlow (s : Scanner) : Bool := decide (0 < s.depth)

/-- Drop the candidates that are too far behind. -/
def dropStale (s : Scanner) : Option Scanner := do
  let candidates ← s.candidates.mapM fun
    | none => some none
    | some k =>
        if k.line < s.cursor.line ∨ k.index + longestKey < s.cursor.index then
          if k.isRequired then none else some none
        else
          some (some k)
  return { s with candidates }

/-- Put another candidate in the innermost place. -/
def setCandidate (s : Scanner) (k : Option Candidate) : Scanner :=
  { s with candidates := k :: s.candidates.drop 1 }

/-- Give up the innermost candidate. -/
def dropCandidate (s : Scanner) : Option Scanner :=
  match s.candidates.head?.join with
  | some k => if k.isRequired then none else some (s.setCandidate none)
  | none => some s

/-- What follows may turn out to be a key, if one may begin here. -/
def noteCandidate (s : Scanner) : Option Scanner :=
  if s.keyAllowed then do
    let s ← s.dropCandidate
    return s.setCandidate (some {
      position := s.tokens.length
      index := s.cursor.index
      line := s.cursor.line
      column := s.cursor.column
      isRequired := s.inFlow && s.indent == Int.ofNat s.cursor.column })
  else
    some s

/-- Begin a block in a column, unless one stands there already. Its first word is put at the place
    `position`. -/
def openBlock (s : Scanner) (column position : Nat) (t : Token) : Scanner :=
  if !s.inFlow && decide (s.indent < Int.ofNat column) then
    { s with
      tokens := s.tokens.insertIdx position t
      indent := Int.ofNat column
      outer := s.indent :: s.outer }
  else
    s

/-- The columns of the blocks that stay open to the left of a column or in it, and how many end. -/
def unwind (column indent : Int) : List Int → Int × List Int × Nat
  | [] => (indent, [], 0)
  | i :: rest =>
      if column < indent then
        let (indent, outer, count) := unwind column i rest
        (indent, outer, count + 1)
      else
        (indent, i :: rest, 0)

/-- End the blocks to the right of a column. -/
def closeBlocks (s : Scanner) (column : Int) : Scanner :=
  if s.inFlow then s
  else
    let (indent, outer, count) := unwind column s.indent s.outer
    { s with tokens := s.tokens ++ List.replicate count .blockEnd, indent, outer }

/-! ## Words -/

/-- Add a word of `n` characters. -/
def pushWord (s : Scanner) (n : Nat) (t : Token) : Scanner :=
  { s with cursor := s.cursor.skip n }.push t

/-- Say whether a key may begin here. -/
def allowKey (s : Scanner) (allowed : Bool) : Scanner := { s with keyAllowed := allowed }

/-- Pass over blanks, breaks and comments. A tab must not stand where a key may begin. -/
def skipGap (s : Scanner) : Scanner :=
  match s.cursor.rest with
  | [] => s
  | c :: _ =>
      let next :=
        if c == ' ' then { s with cursor := s.cursor.next }
        else if c == '\t' && (s.inFlow || !s.keyAllowed) then { s with cursor := s.cursor.next }
        else if isBreak c then
          { s with cursor := s.cursor.skipBreak, keyAllowed := s.keyAllowed || !s.inFlow }
        else if c == '#' then { s with cursor := s.cursor.skipLine }
        else s
      -- at a word `next` is `s` itself, and the gap ends
      if _ : next.cursor.rest.length < s.cursor.rest.length then skipGap next else s
termination_by s.cursor.rest.length
decreasing_by assumption

/-- The line that begins with a percent sign. -/
def readDirective (s : Scanner) : Option Scanner := do
  let s ← (s.closeBlocks (-1)).dropCandidate
  let rest ← Tag.readDirective (s.cursor.rest.drop 1)
  let c ← (s.cursor.moveTo rest).skipComment?
  return ({ s with cursor := c.skipBreak }.allowKey false).push .directive

/-- The beginning or end of a document. -/
def readMark (s : Scanner) (t : Token) : Option Scanner := do
  let s ← (s.closeBlocks (-1)).dropCandidate
  return (s.allowKey false).pushWord 3 t

/-- An opening bracket. -/
def readOpening (s : Scanner) (t : Token) : Option Scanner := do
  let s ← s.noteCandidate
  if s.depth < deepest then
    return ({ s with candidates := none :: s.candidates, depth := s.depth + 1 }.allowKey true).pushWord
      1 t
  else
    none

/-- A closing bracket. -/
def readClosing (s : Scanner) (t : Token) : Option Scanner := do
  let s ← s.dropCandidate
  let s := if s.inFlow then { s with candidates := s.candidates.drop 1, depth := s.depth - 1 } else s
  return (s.allowKey false).pushWord 1 t

/-- A comma. -/
def readSeparator (s : Scanner) : Option Scanner := do
  let s ← s.dropCandidate
  return (s.allowKey true).pushWord 1 .flowSeparator

/-- A dash in front of an item. -/
def readItem (s : Scanner) : Option Scanner := do
  if s.inFlow || !s.keyAllowed then
    none
  else
    let s := s.openBlock s.cursor.column s.tokens.length .sequenceStart
    let s ← s.dropCandidate
    return (s.allowKey true).pushWord 1 .item

/-- A question mark in front of a key. -/
def readKey (s : Scanner) : Option Scanner := do
  if !s.inFlow && !s.keyAllowed then
    none
  else
    let s := s.openBlock s.cursor.column s.tokens.length .mappingStart
    let s ← s.dropCandidate
    return (s.allowKey (!s.inFlow)).pushWord 1 .key

/-- A colon in front of a value. -/
def readValue (s : Scanner) : Option Scanner :=
  match s.candidates.head?.join with
  | some k =>
      -- what was read last was a key: its mark goes in front of it, and that of its mapping before
      let s := { s with tokens := s.tokens.insertIdx k.position .key }
      let s := (s.openBlock k.column k.position .mappingStart).setCandidate none
      some ((s.allowKey false).pushWord 1 .value)
  | none =>
      if !s.inFlow && !s.keyAllowed then
        none
      else
        let s := s.openBlock s.cursor.column s.tokens.length .mappingStart
        some ((s.allowKey (!s.inFlow)).pushWord 1 .value)

/-- Whether something other than a word character may follow the name of an anchor. -/
def endsName : Option Char → Bool
  | none => true
  | some c =>
      isGap c || c == '?' || c == ':' || c == ',' || c == ']' || c == '\x7d' || c == '%' || c == '@'
        || c == '\x60'

/-- The name of an anchor, or of one meant elsewhere. -/
def readName (s : Scanner) (token : String → Token) : Option Scanner := do
  let s ← s.noteCandidate
  let name := (s.cursor.rest.drop 1).takeWhile isWord
  let c := s.cursor.skip (name.length + 1)
  if name.isEmpty || !endsName c.rest.head? then none
  else return ({ s with cursor := c }.allowKey false).push (token (String.ofList name))

/-- A tag. -/
def readTag (s : Scanner) : Option Scanner := do
  let s ← s.noteCandidate
  let (t, rest) ← Tag.read (s.cursor.rest.drop 1)
  if endsWord rest.head? then
    return ({ s with cursor := s.cursor.moveTo rest }.allowKey false).push (.tag t)
  else
    none

/-- A block of text. -/
def readBlockScalar (s : Scanner) (folded : Bool) : Option Scanner := do
  let s ← s.noteCandidate
  let (text, c) ← readBlock folded s.indent s.cursor.next
  return ({ s with cursor := c }.allowKey true).push (.scalar false (String.ofList text))

/-- A text in quotes. -/
def readQuotedScalar (s : Scanner) (single : Bool) : Option Scanner := do
  let s ← s.noteCandidate
  let (text, c) ← readQuoted single [] s.cursor.next
  return ({ s with cursor := c, adjacent := c.index }.allowKey false).push
    (.scalar false (String.ofList text))

/-- A plain text. -/
def readPlainScalar (s : Scanner) : Option Scanner := do
  let s ← s.noteCandidate
  let p ← readPlain s.inFlow (s.indent + 1) [] [] s.cursor
  return ({ s with cursor := p.behind }.allowKey p.endsLine).push
    (.scalar true (String.ofList p.text))

/-- Whether a colon here stands before a value, given the character behind it. -/
def isValueMark (s : Scanner) (following : Option Char) : Bool :=
  endsWord following
    || (s.inFlow && (following.any isFlow || s.cursor.index == s.adjacent))

/-- The word that begins with some characters. -/
def readWord (s : Scanner) (c : Char) (following : Option Char) : Option Scanner :=
  if s.cursor.column == 0 && c == '%' then s.readDirective
  else if s.cursor.atMark '-' then s.readMark .documentStart
  else if s.cursor.atMark '.' then s.readMark .documentEnd
  else if c == '[' then s.readOpening .flowSequenceStart
  else if c == '\x7b' then s.readOpening .flowMappingStart
  else if c == ']' then s.readClosing .flowSequenceEnd
  else if c == '\x7d' then s.readClosing .flowMappingEnd
  else if c == ',' then s.readSeparator
  else if c == '-' && endsWord following then s.readItem
  else if c == '?' && endsWord following then s.readKey
  else if c == ':' && s.isValueMark following then s.readValue
  else if c == '*' then s.readName .reference
  else if c == '&' then s.readName .anchor
  else if c == '!' then s.readTag
  else if c == '|' && !s.inFlow then s.readBlockScalar false
  else if c == '>' && !s.inFlow then s.readBlockScalar true
  else if c == '\'' then s.readQuotedScalar true
  else if c == '"' then s.readQuotedScalar false
  else if c == '%' || c == '@' || c == '\x60' then none
  else s.readPlainScalar

/-- The words of the rest of the text. -/
def run (s : Scanner) : Option (List Token) :=
  match (skipGap s).dropStale with
  | none => none
  | some ready =>
      match ready.cursor.rest with
      -- at the end of the text all blocks end, and no key may be waited for
      | [] => ((ready.closeBlocks (-1)).dropCandidate).map fun last => last.tokens
      | c :: rest =>
          match (ready.closeBlocks (Int.ofNat ready.cursor.column)).readWord c rest.head? with
          | none => none
          | some next =>
              if _ : next.cursor.rest.length < s.cursor.rest.length then run next else none
termination_by s.cursor.rest.length
decreasing_by assumption

end Scanner

namespace Token

/-- The words of a text. -/
def ofText? (text : String) : Option (List Token) := Scanner.run { cursor := Cursor.ofText text }

end Token

end CircuitBreaker.Yaml

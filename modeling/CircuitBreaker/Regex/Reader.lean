import CircuitBreaker.Regex.Name

/-!
# `CircuitBreaker.Regex.Reader` — regular expressions from text

The written form of regular expressions: alternatives of sequences of repeated items. Each function
takes the characters ahead and returns what it read with the characters left; `fuel` bounds the
number of items, and the number of characters is always enough of it.

## Contents
- `Flags`, `skipIgnored`: what the letters in `(?ims)` switch.
- `readEscape`, `readClass`, `readRepetition`, `readGroup`, `readSequence`: the parts.
- `Regex.weight`: how large an expression is once its repetitions are written out.
- `Regex.parse?`: a whole text.
-/

namespace CircuitBreaker.Regex.Reader

open Unicode (Ranges)

/-- What the flags of an expression switch. -/
structure Flags where
  caseless : Bool := false
  multiline : Bool := false
  dotAll : Bool := false
  verbose : Bool := false
  /-- Characters are those of Unicode, and not only of ASCII. -/
  wide : Bool := true
  /-- Carriage returns end lines as well. -/
  carriage : Bool := false
deriving DecidableEq, Repr

/-- The characters after white space and comments; `inComment` says whether one is open. -/
def skipIgnoredFrom (inComment : Bool) : List Char → List Char
  | [] => []
  | c :: rest =>
      if inComment then skipIgnoredFrom (c != '\n') rest
      else if c == '#' then skipIgnoredFrom true rest
      else if Text.isBlankChar c then skipIgnoredFrom false rest
      else c :: rest

/-- The characters after what a verbose expression ignores. -/
def skipIgnored (f : Flags) (cs : List Char) : List Char :=
  if f.verbose then skipIgnoredFrom false cs else cs

/-- An expression, and how deep its written form nests. -/
structure Piece where
  regex : Regex
  depth : Nat

/-- A set of characters, and how deep its written form nests. -/
structure SetPiece where
  set : CharSet
  depth : Nat

/-- The deepest nesting among pieces. -/
def maxDepth (ds : List Nat) : Nat := ds.foldl max 0

/-! ## Escapes -/

/-- What an escape stands for. -/
inductive Escaped where
  | char (n : Nat)
  | set (s : CharSet)
  | look (l : Look)

/-- The value of a hexadecimal digit. -/
def hexValue? (c : Char) : Option Nat :=
  if c.isDigit then some (c.toNat - '0'.toNat)
  else if 'a' ≤ c ∧ c ≤ 'f' then some (c.toNat - 'a'.toNat + 10)
  else if 'A' ≤ c ∧ c ≤ 'F' then some (c.toNat - 'A'.toNat + 10)
  else none

/-- The code point that hexadecimal digits write, if it is a character. -/
def codePoint? (digits : List Char) : Option Nat := do
  if digits.isEmpty then none
  let ds ← digits.mapM hexValue?
  let n := ds.foldl (fun n d => 16 * n + d) 0
  if n < 0xD800 ∨ (0xDFFF < n ∧ n ≤ 0x10FFFF) then some n else none

/-- The characters between braces, after the opening one. -/
def readBraced (cs : List Char) : Option (List Char × List Char) :=
  match cs.dropWhile fun c => c != '\x7d' with
  | [] => none
  | _ :: rest => some (cs.takeWhile fun c => c != '\x7d', rest)

/-- A code point in hexadecimal, of `width` digits or between braces. -/
def readHex (f : Flags) (width : Nat) (cs : List Char) : Option (Nat × List Char) :=
  match cs with
  | '\x7b' :: rest => do
      let (digits, rest) ← readBraced rest
      let n ← codePoint? digits
      some (n, rest)
  | _ => do
      if cs.length < width then none
      let n ← codePoint? (cs.take width)
      if !f.wide && decide (0x80 ≤ n) then none
      some (n, cs.drop width)

/-- A name before an operator, the operator's presence, and the value after it. -/
def splitValue (name : List Char) : Option (List Char × Bool × List Char) :=
  let isOperator := fun c => c == '=' || c == ':' || c == '!'
  match name.dropWhile fun c => !isOperator c with
  | '!' :: '=' :: value => some (name.takeWhile fun c => !isOperator c, true, value)
  | '=' :: value => some (name.takeWhile fun c => !isOperator c, false, value)
  | ':' :: value => some (name.takeWhile fun c => !isOperator c, false, value)
  | _ => none

/-- The set that `\p` names. -/
def readNamed (f : Flags) (negated : Bool) (cs : List Char) : Option (CharSet × List Char) := do
  if !f.wide then none
  let (s, flip, rest) ←
    match cs with
    | [] => none
    | '\x7b' :: rest => do
        let (name, rest) ← readBraced rest
        match splitValue name with
        | some (name, flip, value) => (CharSet.valueSet? name value).map fun s => (s, flip, rest)
        | none => (CharSet.namedSet? name).map fun s => (s, false, rest)
    | c :: rest => (CharSet.namedSet? [c]).map fun s => (s, false, rest)
  let s := if f.caseless then CharSet.folded true s else s
  some (if negated != flip then .compl s else s, rest)

/-- The set of a class letter. -/
def classLetter? (f : Flags) (c : Char) : Option CharSet :=
  let digit := if f.wide then CharSet.property .digit else .table [(0x30, 0x39)]
  let space := if f.wide then CharSet.property .space else .table [(0x9, 0xD), (0x20, 0x20)]
  let word :=
    if f.wide then CharSet.property .word
    else .table [(0x30, 0x39), (0x41, 0x5A), (0x5F, 0x5F), (0x61, 0x7A)]
  match c with
  | 'd' => some digit
  | 's' => some space
  | 'w' => some word
  | 'D' => some (.compl digit)
  | 'S' => some (.compl space)
  | 'W' => some (.compl word)
  | _ => none

/-- Whether a character may be escaped to stand for itself. -/
def isEscapable (c : Char) : Bool :=
  decide (c.toNat < 0x80) && !c.isAlphanum && c != '<' && c != '>'

/-- Whether a character may occur in the name of a word edge. -/
def isEdgeNameChar (c : Char) : Bool := c.isAlpha || c == '-'

/-- The kind of a word edge, after `\b`. Braces around anything but a name are left for a
    repetition. -/
def readEdge (cs : List Char) : Option (Edge × List Char) :=
  match cs with
  | '\x7b' :: c :: rest =>
      if isEdgeNameChar c then
        match (c :: rest).dropWhile isEdgeNameChar with
        | '\x7d' :: after =>
            let name := String.ofList ((c :: rest).takeWhile isEdgeNameChar)
            if name == "start" then some (.starts, after)
            else if name == "end" then some (.ends, after)
            else if name == "start-half" then some (.freeBefore, after)
            else if name == "end-half" then some (.freeAfter, after)
            else none
        | _ => none
      else
        some (.boundary, cs)
  | '\x7b' :: [] => none
  | _ => some (.boundary, cs)

/-- An escape, after its backslash. -/
def readEscape (f : Flags) : List Char → Option (Escaped × List Char)
  | [] => none
  | c :: rest =>
      match classLetter? f c with
      | some s => some (.set s, rest)
      | none =>
          match c with
          | 'x' => (readHex f 2 rest).map fun (n, rest) => (.char n, rest)
          | 'u' => (readHex { f with wide := true } 4 rest).map fun (n, rest) => (.char n, rest)
          | 'U' => (readHex { f with wide := true } 8 rest).map fun (n, rest) => (.char n, rest)
          | 'p' => (readNamed f false rest).map fun (s, rest) => (.set s, rest)
          | 'P' => (readNamed f true rest).map fun (s, rest) => (.set s, rest)
          | 'a' => some (.char 0x07, rest)
          | 'f' => some (.char 0x0C, rest)
          | 't' => some (.char 0x09, rest)
          | 'n' => some (.char 0x0A, rest)
          | 'r' => some (.char 0x0D, rest)
          | 'v' => some (.char 0x0B, rest)
          | 'A' => some (.look .first, rest)
          | 'z' => some (.look .last, rest)
          | 'b' => (readEdge rest).map fun (e, rest) => (.look (.edge e f.wide), rest)
          | 'B' => some (.look (.edge .noBoundary f.wide), rest)
          | '<' => some (.look (.edge .starts f.wide), rest)
          | '>' => some (.look (.edge .ends f.wide), rest)
          | c => if isEscapable c then some (.char c.toNat, rest) else none

/-! ## Bracketed classes -/

/-- The operations between the sets of a class. -/
inductive SetOp where
  | inter
  | diff
  | symmDiff

/-- One end of a range, or a set. -/
def readClassItem (f : Flags) : List Char → Option (Escaped × List Char)
  | [] => none
  | '\\' :: rest => readEscape f rest
  | c :: rest => if !f.wide && decide (0x80 ≤ c.toNat) then none else some (.char c.toNat, rest)

/-- An item of a class: a set, a character, or a range of characters. A hyphen before a closing
    bracket or another hyphen makes no range. -/
def readClassRange (f : Flags) (cs : List Char) : Option (CharSet × List Char) := do
  let (first, rest) ← readClassItem f cs
  let single : Option CharSet :=
    match first with
    | .char n => some (.single n)
    | .set s => some s
    | .look _ => none
  match skipIgnored f rest with
  | [] => none
  | '-' :: after =>
      match skipIgnored f after with
      | [] => none
      | ']' :: _ => single.map fun s => (s, '-' :: after)
      | '-' :: _ => single.map fun s => (s, '-' :: after)
      | after => do
          let (second, rest) ← readClassItem f after
          match first, second with
          | .char a, .char b => if a ≤ b then some (.table [(a, b)], rest) else none
          | _, _ => none
  | rest => single.map fun s => (s, rest)

/-- An ASCII class such as `:alpha:`, after its opening bracket. -/
def readAsciiClass? (f : Flags) (cs : List Char) : Option (CharSet × List Char) :=
  match cs with
  | ':' :: rest =>
      let (negated, rest) :=
        match rest with
        | '^' :: rest => (true, rest)
        | _ => (false, rest)
      match rest.dropWhile fun c => c != ':' with
      | ':' :: ']' :: after =>
          (CharSet.asciiClass? (rest.takeWhile fun c => c != ':')).map fun s =>
            let s := if f.caseless then CharSet.folded f.wide s else s
            (if negated then .compl s else s, after)
      | _ => none
  | _ => none

/-- The union of items, given last first. -/
def joinItems (items : List SetPiece) : SetPiece :=
  match items.reverse with
  | [] => ⟨.empty, 0⟩
  | [p] => p
  | p :: rest =>
      ⟨rest.foldl (fun s q => .union s q.set) p.set,
        maxDepth (items.map fun q => q.depth) + 1⟩

/-- A set with the letters of the other case, if the expression is caseless. -/
def foldCase (f : Flags) (s : CharSet) : CharSet :=
  if f.caseless then .folded f.wide s else s

/-- Carry out the operation that waits for its right-hand side. -/
def applyOp (f : Flags) (pending : Option (SetOp × SetPiece)) (right : SetPiece) : SetPiece :=
  match pending with
  | none => right
  | some (op, left) =>
      let a := foldCase f left.set
      let b := foldCase f right.set
      let depth := max left.depth right.depth + 1
      match op with
      | .inter => ⟨.inter a b, depth⟩
      | .diff => ⟨.diff a b, depth⟩
      | .symmDiff => ⟨.symmDiff a b, depth⟩

/-- The set of a class once it is closed. -/
def closeClass (f : Flags) (negated : Bool) (p : SetPiece) : SetPiece :=
  let s := foldCase f p.set
  ⟨if negated then .compl s else s, p.depth + 1⟩

/-- The hyphens at the start of a class, which stand for themselves. -/
def readHyphens (f : Flags) (fuel : Nat) (items : List SetPiece) (cs : List Char) :
    List SetPiece × List Char :=
  match fuel with
  | 0 => (items, cs)
  | fuel + 1 =>
      match cs with
      | '-' :: rest => readHyphens f fuel (⟨.single '-'.toNat, 0⟩ :: items) (skipIgnored f rest)
      | _ => (items, cs)

mutual

/-- A class after its opening bracket. -/
def readClass (fuel : Nat) (f : Flags) (cs : List Char) : Option (SetPiece × List Char) :=
  match fuel with
  | 0 => none
  | fuel + 1 =>
      let cs := skipIgnored f cs
      let (negated, cs) :=
        match cs with
        | '^' :: rest => (true, skipIgnored f rest)
        | _ => (false, cs)
      let (items, cs) := readHyphens f cs.length [] cs
      let (items, cs) :=
        match items, cs with
        | [], ']' :: rest => ([⟨.single ']'.toNat, 0⟩], rest)
        | _, _ => (items, cs)
      (readClassRest fuel f none items cs).map fun (p, rest) => (closeClass f negated p, rest)

/-- The rest of a class, up to its closing bracket. `pending` waits for the union of `items`. -/
def readClassRest (fuel : Nat) (f : Flags) (pending : Option (SetOp × SetPiece))
    (items : List SetPiece) (cs : List Char) : Option (SetPiece × List Char) :=
  match fuel with
  | 0 => none
  | fuel + 1 =>
      let operate (op : SetOp) (rest : List Char) :=
        readClassRest fuel f (some (op, applyOp f pending (joinItems items))) [] rest
      match skipIgnored f cs with
      | [] => none
      | '[' :: rest =>
          match readAsciiClass? f rest with
          | some (s, rest) => readClassRest fuel f pending (⟨s, 0⟩ :: items) rest
          | none =>
              match readClass fuel f rest with
              | some (p, rest) => readClassRest fuel f pending (p :: items) rest
              | none => none
      | ']' :: rest => some (applyOp f pending (joinItems items), rest)
      | '&' :: '&' :: rest => operate .inter rest
      | '-' :: '-' :: rest => operate .diff rest
      | '~' :: '~' :: rest => operate .symmDiff rest
      | cs =>
          match readClassRange f cs with
          | some (s, rest) => readClassRest fuel f pending (⟨s, 0⟩ :: items) rest
          | none => none

end

/-- Whether a set holds bytes that are no ASCII. -/
def holdsHighBytes (s : CharSet) : Bool := (List.range 128).any fun n => s.mem (128 + n)

/-- The expression of a set. Without Unicode only sets of ASCII keep texts whole. -/
def ofSet? (f : Flags) (s : CharSet) : Option Regex :=
  if !f.wide && holdsHighBytes s then none else some (.set s)

/-! ## Repetitions -/

/-- The largest count of a repetition. -/
def countLimit : Nat := UInt32.size - 1

/-- A count, with white space around it; `none` without a digit. -/
def readCount (cs : List Char) : Option (Nat × List Char) :=
  let cs := cs.dropWhile Text.isBlankChar
  let digits := cs.takeWhile Char.isDigit
  let rest := (cs.dropWhile Char.isDigit).dropWhile Text.isBlankChar
  if digits.isEmpty then none
  else
    let n := digits.foldl (fun n c => 10 * n + (c.toNat - '0'.toNat)) 0
    if n ≤ countLimit then some (n, rest) else none

/-- The counts of a repetition, after its opening brace. -/
def readCounts (f : Flags) (cs : List Char) : Option (Nat × Option Nat × List Char) := do
  let (least, rest) ← readCount (skipIgnored f cs)
  match rest with
  | '\x7d' :: rest => some (least, some least, rest)
  | ',' :: rest =>
      match skipIgnored f rest with
      | '\x7d' :: rest => some (least, none, rest)
      | rest => do
          let (most, rest) ← readCount rest
          match rest with
          | '\x7d' :: rest => if least ≤ most then some (least, some most, rest) else none
          | _ => none
  | _ => none

/-- The repetition that an operator stands for, from the operator on. -/
def readRepetition (f : Flags) : List Char → Option (Nat × Option Nat × List Char)
  | '?' :: rest => some (0, some 1, rest)
  | '*' :: rest => some (0, none, rest)
  | '+' :: rest => some (1, none, rest)
  | '\x7b' :: rest => readCounts f rest
  | _ => none

/-- The characters after the mark of a reluctant repetition. What matches does not depend on it. -/
def skipReluctant : List Char → List Char
  | '?' :: rest => rest
  | cs => cs

/-! ## Groups -/

/-- Read flags up to a colon or closing bracket, from `f`. `seen` holds the letters so far, `off`
    whether they switch off, and `bare` whether a hyphen came last. -/
def readFlags (f : Flags) (seen : List Char) (off bare : Bool) :
    List Char → Option (Flags × List Char × Bool × List Char)
  | [] => none
  | c :: rest =>
      if c == ':' || c == ')' then
        if bare then none else some (f, seen, c == ':', rest)
      else if c == '-' then
        if off then none else readFlags f seen true true rest
      else if seen.contains c then none
      else
        let next (f : Flags) := readFlags f (c :: seen) off false rest
        match c with
        | 'i' => next { f with caseless := !off }
        | 'm' => next { f with multiline := !off }
        | 's' => next { f with dotAll := !off }
        | 'U' => next f
        | 'u' => next { f with wide := !off }
        | 'x' => next { f with verbose := !off }
        | 'R' => next { f with carriage := !off }
        | _ => none

/-- Whether a character may occur in the name of a group. -/
def isNameChar (isFirst : Bool) (c : Char) : Bool :=
  c == '_' || Unicode.isAlphabetic c.toNat
    || (!isFirst && (Unicode.isNumeric c.toNat || c == '.' || c == '[' || c == ']'))

/-- The name of a group, after its opening angle; it must be new. -/
def readGroupName (names : List (List Char)) (cs : List Char) :
    Option (List Char × List Char) :=
  let name := cs.takeWhile fun c => c != '>'
  match name, cs.dropWhile fun c => c != '>' with
  | c :: more, _ :: rest =>
      if isNameChar true c && more.all (isNameChar false) && !names.contains name then
        some (name, rest)
      else
        none
  | _, _ => none

/-- What an opening bracket starts. -/
inductive Opening where
  /-- A group, with the flags inside it and the names used so far. -/
  | group (f : Flags) (names : List (List Char))
  /-- Flags for the rest of the group around. -/
  | directive (f : Flags)

/-- What is read after an opening bracket. Looking ahead or back is not supported. -/
def readOpening (f : Flags) (names : List (List Char)) (cs : List Char) :
    Option (Opening × List Char) :=
  match skipIgnored f cs with
  | '?' :: '=' :: _ => none
  | '?' :: '!' :: _ => none
  | '?' :: '<' :: '=' :: _ => none
  | '?' :: '<' :: '!' :: _ => none
  | '?' :: 'P' :: '<' :: rest =>
      (readGroupName names rest).map fun (name, rest) => (.group f (name :: names), rest)
  | '?' :: '<' :: rest =>
      (readGroupName names rest).map fun (name, rest) => (.group f (name :: names), rest)
  | '?' :: rest =>
      match readFlags f [] false false rest with
      | some (g, seen, isGroup, rest) =>
          if isGroup then some (.group g names, rest)
          else if seen.isEmpty then none
          else some (.directive g, rest)
      | none => none
  | rest => some (.group f names, rest)

/-! ## Sequences and alternatives -/

/-- The pieces of a sequence, given last first, one after the other. What is no expression (a change
    of flags) counts for the nesting only. -/
def joinSequence (items : List (Option Piece)) : Piece :=
  match items.reverse with
  | [] => ⟨.empty, 0⟩
  | [none] => ⟨.empty, 0⟩
  | [some p] => p
  | ordered =>
      let pieces := ordered.filterMap id
      ⟨pieces.foldr (fun p r => match r with
          | .empty => p.regex
          | r => .cat p.regex r) .empty,
        maxDepth (pieces.map fun p => p.depth) + 1⟩

/-- Alternatives, given last first. -/
def joinAlternatives (alternatives : List Piece) : Piece :=
  match alternatives with
  | [] => ⟨.empty, 0⟩
  | [p] => p
  | p :: rest =>
      ⟨rest.foldl (fun r q => .alt q.regex r) p.regex,
        maxDepth (alternatives.map fun q => q.depth) + 1⟩

/-- The expression of a single character. -/
def ofChar (f : Flags) (n : Nat) : Regex :=
  .set (if f.caseless then .folded f.wide (.single n) else .single n)

/-- The expression of a dot. -/
def ofDot? (f : Flags) : Option Regex :=
  if !f.wide then none
  else if f.dotAll then some (.set (.compl .empty))
  else if f.carriage then some (.set (.compl (.table [(0xA, 0xA), (0xD, 0xD)])))
  else some (.set (.compl (.single 0xA)))

/-- An item that is neither a group nor a class. -/
def readAtom (f : Flags) : List Char → Option (Regex × List Char)
  | [] => none
  | '\\' :: rest =>
      match readEscape f rest with
      | some (.char n, rest) => some (ofChar f n, rest)
      | some (.set s, rest) => (ofSet? f s).map fun r => (r, rest)
      | some (.look l, rest) => some (.look l, rest)
      | none => none
  | '.' :: rest => (ofDot? f).map fun r => (r, rest)
  | '^' :: rest => some (.look (if f.multiline then .lineFirst f.carriage else .first), rest)
  | '$' :: rest => some (.look (if f.multiline then .lineLast f.carriage else .last), rest)
  | c :: rest => some (ofChar f c.toNat, rest)

/-- Alternatives up to the end of a group or of the text. `alternatives` and `items` hold what was
    read before, last first, and `names` the names of groups so far. -/
def readSequence (fuel : Nat) (f : Flags) (names : List (List Char)) (alternatives : List Piece)
    (items : List (Option Piece)) (cs : List Char) :
    Option (Piece × List (List Char) × List Char) :=
  match fuel with
  | 0 => none
  | fuel + 1 =>
      let finish (rest : List Char) :=
        some (joinAlternatives (joinSequence items :: alternatives), names, rest)
      match skipIgnored f cs with
      | [] => finish []
      | c :: rest =>
          match c with
          | ')' => finish (c :: rest)
          | '|' => readSequence fuel f names (joinSequence items :: alternatives) [] rest
          | '(' =>
              match readOpening f names rest with
              | some (.directive g, rest) =>
                  readSequence fuel g names alternatives (none :: items) rest
              | some (.group g names, rest) =>
                  match readSequence fuel g names [] [] rest with
                  | some (p, names, ')' :: rest) =>
                      readSequence fuel f names alternatives
                        (some ⟨p.regex, p.depth + 1⟩ :: items) rest
                  | _ => none
              | none => none
          | '[' =>
              match readClass (2 * rest.length + 2) f rest with
              | some (p, rest) =>
                  match ofSet? f p.set with
                  | some r => readSequence fuel f names alternatives (some ⟨r, p.depth⟩ :: items) rest
                  | none => none
              | none => none
          | _ =>
              if c == '?' || c == '*' || c == '+' || c == '\x7b' then
                match items, readRepetition f (c :: rest) with
                | some p :: items, some (least, most, rest) =>
                    readSequence fuel f names alternatives
                      (some ⟨.rep p.regex least most, p.depth + 1⟩ :: items) (skipReluctant rest)
                | _, _ => none
              else
                match readAtom f (c :: rest) with
                | some (r, rest) => readSequence fuel f names alternatives (some ⟨r, 0⟩ :: items) rest
                | none => none

end CircuitBreaker.Regex.Reader

namespace CircuitBreaker.Regex

/-- How deep a written expression may nest. -/
def nestingLimit : Nat := 250

/-- How large an expression may be. -/
def weightLimit : Nat := 327680

/-- How many sets an expression holds once its repetitions are written out, sets of many characters
    counted several times. -/
def weight : Regex → Nat
  | never => 1
  | empty => 1
  | set (.property .word) => 2200
  | set _ => 1
  | look _ => 1
  | cat a b => a.weight + b.weight
  | alt a b => a.weight + b.weight + 1
  | rep a least most =>
      match most with
      | none => (least + 1) * (a.weight + 1)
      | some most => least * a.weight + (most - least) * (a.weight + 1)

/-- The expression that a text writes, if there is one within the limits. -/
def parse? (s : String) : Option Regex :=
  let cs := s.toList
  match Reader.readSequence (cs.length + 1) {} [] [] [] cs with
  | some (p, _, []) =>
      if p.depth ≤ nestingLimit ∧ p.regex.weight ≤ weightLimit then some p.regex else none
  | _ => none

end CircuitBreaker.Regex

namespace CircuitBreaker

/-- A compiler to run with. Nothing about patterns, rules and circuits depends on it: they are told what
    to compile with. -/
def standardCompiler : String → Option Regex := Regex.parse?

end CircuitBreaker

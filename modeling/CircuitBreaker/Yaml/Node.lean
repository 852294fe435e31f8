import CircuitBreaker.Yaml.Token

/-!
# `CircuitBreaker.Yaml.Node` — what a document holds

A document holds a text, a sequence or a mapping. A node may be named by an anchor and meant again
elsewhere; it is then found by the number of its anchor. A key or an item that is left out is the
plain text `~`.

## Contents
- `Node`: the nodes; `Node.absent`.
- `Node.find?`: the node with an anchor.
- `Supply`: the words that are left, and the anchors so far.
- `readNode` and what it is made of: from words to nodes.
- `Node.ofText?`: the one document in a text.
-/

namespace CircuitBreaker.Yaml

/-- What a document holds. The number of an anchor is 0 where there is none. -/
inductive Node where
  | scalar (anchor : Nat) (tag : Option Tag) (isPlain : Bool) (text : String)
  | sequence (anchor : Nat) (items : List Node)
  | mapping (anchor : Nat) (entries : List (Node × Node))
  /-- The node with an anchor, once more. -/
  | reference (target : Nat)
deriving Repr

namespace Node

/-- What is left out. -/
def absent : Node := .scalar 0 none true "~"

mutual

/-- The node with an anchor, in a node. -/
def find? (target : Nat) : Node → Option Node
  | scalar anchor tag isPlain text =>
      if anchor = target then some (scalar anchor tag isPlain text) else none
  | sequence anchor items =>
      if anchor = target then some (sequence anchor items) else findAmong? target items
  | mapping anchor entries =>
      if anchor = target then some (mapping anchor entries) else findIn? target entries
  | reference _ => none

/-- The node with an anchor, in some nodes. -/
def findAmong? (target : Nat) : List Node → Option Node
  | [] => none
  | n :: rest =>
      match find? target n with
      | some found => some found
      | none => findAmong? target rest

/-- The node with an anchor, in some entries. -/
def findIn? (target : Nat) : List (Node × Node) → Option Node
  | [] => none
  | (key, value) :: rest =>
      match find? target key with
      | some found => some found
      | none =>
          match find? target value with
          | some found => some found
          | none => findIn? target rest

end

end Node

/-! ## From words to nodes -/

/-- The words that are left, and the anchors so far. -/
structure Supply where
  tokens : List Token
  /-- The names of anchors and their numbers, the latest first. -/
  anchors : List (String × Nat) := []
  /-- How many anchors were numbered. -/
  numbered : Nat := 0

namespace Supply

/-- The supply with other words left. -/
def withTokens (s : Supply) (tokens : List Token) : Supply := { s with tokens }

/-- The supply after an anchor, which gets the next number. -/
def addAnchor (s : Supply) (name : String) : Supply :=
  { s with anchors := (name, s.numbered + 1) :: s.anchors, numbered := s.numbered + 1 }

end Supply

/-- What may stand before a node. -/
structure Properties where
  anchor : Nat := 0
  tag : Option Tag := none

/-- Read an anchor and a tag, in either order, where there are any. -/
def readProperties (s : Supply) : Properties × Supply :=
  match s.tokens with
  | .anchor name :: rest =>
      let s := s.addAnchor name
      match rest with
      | .tag t :: rest => ({ anchor := s.numbered, tag := some t }, s.withTokens rest)
      | rest => ({ anchor := s.numbered }, s.withTokens rest)
  | .tag t :: rest =>
      match rest with
      | .anchor name :: rest =>
          let s := s.addAnchor name
          ({ anchor := s.numbered, tag := some t }, s.withTokens rest)
      | rest => ({ tag := some t }, s.withTokens rest)
  | _ => ({}, s)

/-- Whether an item of a sequence in a block is left out before a word. -/
def Token.endsItem : Token → Bool
  | .item | .blockEnd => true
  | _ => false

/-- Whether an item of a sequence without a block of its own is left out before a word. -/
def Token.endsBareItem : Token → Bool
  | .item | .key | .value | .blockEnd => true
  | _ => false

/-- Whether a key or value in a block is left out before a word. -/
def Token.endsEntry : Token → Bool
  | .key | .value | .blockEnd => true
  | _ => false

/-- Whether a key in curly brackets is left out before a word. -/
def Token.endsFlowKey : Token → Bool
  | .value | .flowSeparator | .flowMappingEnd => true
  | _ => false

/-- Whether a value in curly brackets is left out before a word. -/
def Token.endsFlowValue : Token → Bool
  | .flowSeparator | .flowMappingEnd => true
  | _ => false

/-- Whether the value of a pair in square brackets is left out before a word. -/
def Token.endsPairValue : Token → Bool
  | .flowSeparator | .flowSequenceEnd => true
  | _ => false

mutual

/-- A node. It may be a block if `block` says so, and a sequence without a block of its own if
    `bare` does. -/
def readNode (fuel : Nat) (block bare : Bool) (s : Supply) : Option (Node × Supply) :=
  match fuel with
  | 0 => none
  | fuel + 1 =>
      match s.tokens with
      | .reference name :: rest =>
          (s.anchors.lookup name).map fun target => (.reference target, s.withTokens rest)
      | _ =>
          let (p, s) := readProperties s
          match s.tokens with
          | .scalar isPlain text :: rest =>
              some (.scalar p.anchor p.tag isPlain text, s.withTokens rest)
          | .flowSequenceStart :: rest => do
              let (items, s) ← readFlowItems fuel true (s.withTokens rest)
              return (.sequence p.anchor items, s)
          | .flowMappingStart :: rest => do
              let (entries, s) ← readFlowEntries fuel true (s.withTokens rest)
              return (.mapping p.anchor entries, s)
          | t :: rest =>
              if bare && t == .item then do
                let (items, s) ← readBareItems fuel s
                return (.sequence p.anchor items, s)
              else if block && t == .sequenceStart then do
                let (items, s) ← readItems fuel (s.withTokens rest)
                return (.sequence p.anchor items, s)
              else if block && t == .mappingStart then do
                let (entries, s) ← readEntries fuel (s.withTokens rest)
                return (.mapping p.anchor entries, s)
              else if p.tag.isSome || p.anchor != 0 then
                some (.scalar p.anchor p.tag true "", s)
              else
                none
          | [] =>
              if p.tag.isSome || p.anchor != 0 then some (.scalar p.anchor p.tag true "", s)
              else none

/-- A node, or the absent one before a word that `ends` it. -/
def readOptional (fuel : Nat) (block bare : Bool) (ends : Token → Bool) (s : Supply) :
    Option (Node × Supply) :=
  match fuel with
  | 0 => none
  | fuel + 1 =>
      if s.tokens.head?.any ends then some (.absent, s) else readNode fuel block bare s

/-- The value behind a key, if it has its mark. -/
def readValue (fuel : Nat) (block : Bool) (ends : Token → Bool) (s : Supply) :
    Option (Node × Supply) :=
  match fuel with
  | 0 => none
  | fuel + 1 =>
      match s.tokens with
      | .value :: rest => readOptional fuel block block ends (s.withTokens rest)
      | _ => some (.absent, s)

/-- The items of a sequence in a block. -/
def readItems (fuel : Nat) (s : Supply) : Option (List Node × Supply) :=
  match fuel with
  | 0 => none
  | fuel + 1 =>
      match s.tokens with
      | .blockEnd :: rest => some ([], s.withTokens rest)
      | .item :: rest => do
          let (n, s) ← readOptional fuel true false Token.endsItem (s.withTokens rest)
          let (more, s) ← readItems fuel s
          return (n :: more, s)
      | _ => none

/-- The items of a sequence without a block of its own. -/
def readBareItems (fuel : Nat) (s : Supply) : Option (List Node × Supply) :=
  match fuel with
  | 0 => none
  | fuel + 1 =>
      match s.tokens with
      | .item :: rest => do
          let (n, s) ← readOptional fuel true false Token.endsBareItem (s.withTokens rest)
          let (more, s) ← readBareItems fuel s
          return (n :: more, s)
      | _ => some ([], s)

/-- The entries of a mapping in a block. -/
def readEntries (fuel : Nat) (s : Supply) : Option (List (Node × Node) × Supply) :=
  match fuel with
  | 0 => none
  | fuel + 1 =>
      match s.tokens with
      | .blockEnd :: rest => some ([], s.withTokens rest)
      | .key :: rest => do
          let (key, s) ← readOptional fuel true true Token.endsEntry (s.withTokens rest)
          let (value, s) ← readValue fuel true Token.endsEntry s
          let (more, s) ← readEntries fuel s
          return ((key, value) :: more, s)
      | .value :: _ => do
          let (value, s) ← readValue fuel true Token.endsEntry s
          let (more, s) ← readEntries fuel s
          return ((.absent, value) :: more, s)
      | _ => none

/-- The items in square brackets. A comma stands before each but the first. -/
def readFlowItems (fuel : Nat) (first : Bool) (s : Supply) : Option (List Node × Supply) :=
  match fuel with
  | 0 => none
  | fuel + 1 =>
      match s.tokens with
      | .flowSequenceEnd :: rest => some ([], s.withTokens rest)
      | .flowSeparator :: rest =>
          if first then none
          else
            match rest with
            | .flowSequenceEnd :: rest => some ([], s.withTokens rest)
            | _ => readFlowItem fuel (s.withTokens rest)
      | _ => if first then readFlowItem fuel s else none

/-- An item in square brackets, and those behind it. A pair alone is a mapping. Where its key is
    left out, the word behind the mark of the key is lost. -/
def readFlowItem (fuel : Nat) (s : Supply) : Option (List Node × Supply) :=
  match fuel with
  | 0 => none
  | fuel + 1 =>
      match s.tokens with
      | .key :: rest => do
          let (key, s) ← match rest with
            | .value :: rest => some (Node.absent, s.withTokens rest)
            | .flowSeparator :: rest => some (Node.absent, s.withTokens rest)
            | .flowSequenceEnd :: rest => some (Node.absent, s.withTokens rest)
            | _ => readNode fuel false false (s.withTokens rest)
          let (value, s) ← readValue fuel false Token.endsPairValue s
          let (more, s) ← readFlowItems fuel false s
          return (.mapping 0 [(key, value)] :: more, s)
      | _ => do
          let (n, s) ← readNode fuel false false s
          let (more, s) ← readFlowItems fuel false s
          return (n :: more, s)

/-- The entries in curly brackets. A comma stands before each but the first. -/
def readFlowEntries (fuel : Nat) (first : Bool) (s : Supply) :
    Option (List (Node × Node) × Supply) :=
  match fuel with
  | 0 => none
  | fuel + 1 =>
      match s.tokens with
      | .flowMappingEnd :: rest => some ([], s.withTokens rest)
      | .flowSeparator :: rest =>
          if first then none
          else
            match rest with
            | .flowMappingEnd :: rest => some ([], s.withTokens rest)
            | _ => readFlowEntry fuel (s.withTokens rest)
      | _ => if first then readFlowEntry fuel s else none

/-- An entry in curly brackets, and those behind it. A key without a mark has no value. -/
def readFlowEntry (fuel : Nat) (s : Supply) : Option (List (Node × Node) × Supply) :=
  match fuel with
  | 0 => none
  | fuel + 1 =>
      match s.tokens with
      | .key :: rest => do
          let (key, s) ← readOptional fuel false false Token.endsFlowKey (s.withTokens rest)
          let (value, s) ← readValue fuel false Token.endsFlowValue s
          let (more, s) ← readFlowEntries fuel false s
          return ((key, value) :: more, s)
      | .value :: _ => do
          let (value, s) ← readValue fuel false Token.endsFlowValue s
          let (more, s) ← readFlowEntries fuel false s
          return ((.absent, value) :: more, s)
      | _ => do
          let (key, s) ← readNode fuel false false s
          let (more, s) ← readFlowEntries fuel false s
          return ((key, .absent) :: more, s)

end

/-! ## Documents -/

/-- Whether a document is left out before a word. -/
def Token.endsDocument : Token → Bool
  | .directive | .documentStart | .documentEnd => true
  | _ => false

/-- The node of a document that has one. -/
def readRoot (s : Supply) : Option (Node × Supply) :=
  readNode (4 * s.tokens.length + 4) true false s

/-- What a document holds behind its mark. -/
def readContent (s : Supply) : Option (Node × Supply) :=
  match s.tokens with
  | [] => some (.absent, s)
  | t :: _ => if t.endsDocument then some (.absent, s) else readRoot s

/-- Pass over the mark at the end of a document, if there is one. -/
def skipEnd (s : Supply) : Supply :=
  match s.tokens with
  | .documentEnd :: rest => s.withTokens rest
  | _ => s

/-- The documents of some words. Only the first may do without a mark at its beginning. Anchors hold
    in their document. -/
def readDocuments (fuel : Nat) (isFirst : Bool) (s : Supply) : Option (List Node) :=
  match fuel with
  | 0 => none
  | fuel + 1 =>
      let skipped := s.tokens.dropWhile fun t => t == Token.documentEnd
      let s := { s with anchors := [], tokens := if isFirst then s.tokens else skipped }
      let isMarked := s.tokens.head?.any fun t => t == Token.directive || t == Token.documentStart
      if s.tokens.isEmpty then
        some []
      else if isMarked then
        match s.tokens.dropWhile fun t => t == Token.directive with
        | .documentStart :: rest => do
            let (n, s) ← readContent (s.withTokens rest)
            let more ← readDocuments fuel false (skipEnd s)
            return n :: more
        | _ => none
      else if isFirst then do
        let (n, s) ← readRoot s
        let more ← readDocuments fuel false (skipEnd s)
        return n :: more
      else
        none

namespace Node

/-- The one document in a text. -/
def ofText? (text : String) : Option Node := do
  let tokens ← Token.ofText? text
  match ← readDocuments (tokens.length + 1) true { tokens } with
  | [n] => some n
  | _ => none

end Node

end CircuitBreaker.Yaml

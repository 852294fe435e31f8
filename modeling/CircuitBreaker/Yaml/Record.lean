import CircuitBreaker.Yaml.Node

/-!
# `CircuitBreaker.Yaml.Record` — reading structures from documents

A structure is written as a mapping, or as a sequence of its fields in order, whose last ones may be
missing. Entries that are no fields are passed over, and a field must not appear twice.

Whether a text is a number or a truth value is told by its spelling, unless it has a tag or stands
in quotes. Where a text is wanted every spelling will do.

## Contents
- `Document`: a node with the anchors of its document.
- `wholeNumber?`: the spellings of whole numbers.
- `Document.toNat?`, `toBool?`, `toStr?`: plain values.
- `Document.fields?`, `orElse`: structures.
-/

namespace CircuitBreaker.Yaml

/-- A node and the root of its document, where the anchors are found. -/
structure Document where
  root : Node
  node : Node

/-! ## Spellings -/

/-- The largest unsigned 64-bit number. -/
def limitUnsigned : Nat := UInt64.size - 1

/-- The largest signed 64-bit number. -/
def limitSigned : Nat := Int64.maxValue.toNatClampNeg

/-- The number with a letter that names its base: hexadecimal, octal or binary. -/
def based? (base : Nat) (letter : Char) (cs : List Char) : Option Int :=
  match cs with
  | '0' :: x :: rest =>
      if x == letter then (Text.Numeral.nat? base limitUnsigned rest).map Int.ofNat else none
  | '+' :: '0' :: x :: rest =>
      if x == letter then (Text.Numeral.nat? base limitUnsigned rest).map Int.ofNat else none
  | '-' :: '0' :: x :: rest =>
      if x == letter then Text.Numeral.int? base limitSigned ('-' :: rest) else none
  | _ => none

/-- The number in decimal digits. With a zero in front of others it is none. -/
def decimal? (cs : List Char) : Option Int :=
  if 1 < cs.length ∧ cs.head? = some '0' ∧ cs.all Char.isDigit then none
  else
    match Text.Numeral.nat? 10 limitUnsigned cs with
    | some n => some (Int.ofNat n)
    | none => Text.Numeral.int? 10 limitSigned cs

/-- The whole number that a text spells. -/
def wholeNumber? (cs : List Char) : Option Int :=
  based? 16 'x' cs <|> based? 8 'o' cs <|> based? 2 'b' cs <|> decimal? cs

/-- The truth value that a text spells. -/
def truth? (text : String) : Option Bool :=
  if text = "true" then some true else if text = "false" then some false else none

namespace Document

/-- The node itself, where it is another one meant once more. -/
def resolve (d : Document) : Document :=
  match d.node with
  | .reference target => { d with node := (d.root.find? target).getD d.node }
  | _ => d

/-- The text of a node. -/
def toStr? (d : Document) : Option String :=
  match d.resolve.node with
  | .scalar _ _ _ text => some text
  | _ => none

/-- The truth value of a node. -/
def toBool? (d : Document) : Option Bool :=
  match d.resolve.node with
  | .scalar _ none true text => truth? text
  | .scalar _ (some (.core "bool")) true text => truth? text
  | _ => none

/-- The whole number of a node. -/
def toInt? (d : Document) : Option Int :=
  match d.resolve.node with
  | .scalar _ none true text => wholeNumber? text.toList
  | .scalar _ (some (.core "int")) true text => Text.Numeral.int? 10 limitSigned text.toList
  | _ => none

/-- The natural number of a node, at most `limit`. -/
def toNat? (limit : Nat) (d : Document) : Option Nat :=
  d.toInt?.bind fun n => if 0 ≤ n ∧ n ≤ Int.ofNat limit then some n.toNat else none

/-! ## Structures -/

/-- The entries of a mapping with the texts of their keys. -/
def entries? (d : Document) (entries : List (Node × Node)) : Option (List (String × Document)) :=
  entries.mapM fun (key, value) => do
    let name ← ({ d with node := key } : Document).toStr?
    return (name, { d with node := value })

/-- The values of the fields called `names`. -/
def fields? (names : List String) (d : Document) : Option (List (Option Document)) :=
  match d.resolve.node with
  | .mapping _ entries => do
      let named ← d.entries? entries
      if names.all fun name => decide ((named.countP fun e => e.1 == name) ≤ 1) then
        return names.map fun name => named.lookup name
      else
        none
  | .sequence _ items =>
      if items.length ≤ names.length then
        some ((List.range names.length).map fun i => items[i]?.map fun n => { d with node := n })
      else
        none
  | _ => none

/-- A field with a default. -/
def orElse {α : Type} (default : α) (decode : Document → Option α) :
    Option Document → Option α
  | none => some default
  | some d => decode d

/-- The one document in a text. -/
def ofText? (text : String) : Option Document :=
  (Node.ofText? text).map fun root => { root, node := root }

end Document

end CircuitBreaker.Yaml

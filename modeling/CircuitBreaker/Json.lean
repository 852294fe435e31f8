/-!
# `CircuitBreaker.Json` — JSON values

The values that rules, outcomes and configurations are exchanged in. A value keeps what its text
said: members in order and with repetitions, integers apart from fractions. Text that only fails
when somebody needs it (half of a surrogate pair, a number too large) is kept as such a failure.

## Contents
- `Json.Number`, `Json`: the values.
- `Json.str`, `Json.nat`, `Json.record`: values in their plain form.
- `Json.nesting`, `Json.isSound`: how deep a value nests, and whether all of it can be used.
-/

namespace CircuitBreaker

/-- A number as JSON text gives it. -/
inductive Json.Number where
  /-- A whole number of at most 64 bits, without fraction or exponent. -/
  | int (n : Int)
  /-- Any other number. -/
  | float (x : Float)
  /-- A number too large for a float. -/
  | outOfRange

/-- A JSON value. -/
inductive Json where
  | null
  | bool (b : Bool)
  | number (n : Json.Number)
  /-- A text; `none` where an escape leaves half of a surrogate pair. -/
  | text (s : Option String)
  | array (items : List Json)
  /-- Members in the order of the text; a name that is no text is `none`. -/
  | object (members : List (Option String × Json))

namespace Json

/-- A text. -/
def str (s : String) : Json := .text (some s)

/-- A natural number. -/
def nat (n : Nat) : Json := .number (.int n)

/-- A whole number. -/
def int (n : Int) : Json := .number (.int n)

/-- A fraction. Only finite numbers can be written; any other float is null. -/
def float (x : Float) : Json := if x.isFinite then .number (.float x) else .null

/-- An object with the given members. -/
def record (members : List (String × Json)) : Json :=
  .object (members.map fun m => (some m.1, m.2))

/-- The value, or null where there is none. -/
def ofOption {α : Type} (encode : α → Json) : Option α → Json
  | none => .null
  | some a => encode a

mutual

/-- How many arrays and objects are open at the deepest place of a value. -/
def nesting : Json → Nat
  | .array items => nestingList items + 1
  | .object members => nestingMembers members + 1
  | _ => 0

/-- The deepest nesting among values. -/
def nestingList : List Json → Nat
  | [] => 0
  | j :: rest => max (nesting j) (nestingList rest)

/-- The deepest nesting among members. -/
def nestingMembers : List (Option String × Json) → Nat
  | [] => 0
  | (_, j) :: rest => max (nesting j) (nestingMembers rest)

end

mutual

/-- Whether every text and number in a value can be used. -/
def isSound : Json → Bool
  | .number .outOfRange => false
  | .text none => false
  | .array items => isSoundList items
  | .object members => isSoundMembers members
  | _ => true

/-- Whether every value can be used. -/
def isSoundList : List Json → Bool
  | [] => true
  | j :: rest => isSound j && isSoundList rest

/-- Whether every member can be used, names included. -/
def isSoundMembers : List (Option String × Json) → Bool
  | [] => true
  | (name, j) :: rest => name.isSome && isSound j && isSoundMembers rest

end

end Json

end CircuitBreaker

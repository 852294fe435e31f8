import CircuitBreaker.Json

/-!
# `CircuitBreaker.Json.Record` — reading structures from values

A structure is written as an object, or as an array of its fields in order. Members that are no
fields are passed over, and a field must not appear twice.

## Contents
- `fields?`: the values of the fields of a structure.
- `need`, `orElse`, `maybe`: fields that must be there, that have a default, that may be absent.
- `toNat?`, `toInt?`, `toFloat?`, `toBool?`, `toStr?`, `toList?`, `toName?`: plain values.
- `tagged?`: a structure that names its kind.
-/

namespace CircuitBreaker.Json

/-! ## Plain values -/

/-- A natural number of at most `limit`. -/
def toNat? (limit : Nat) : Json → Option Nat
  | .number (.int n) => if 0 ≤ n ∧ n ≤ limit then some n.toNat else none
  | _ => none

/-- A whole number between two limits. -/
def toInt? (least greatest : Int) : Json → Option Int
  | .number (.int n) => if least ≤ n ∧ n ≤ greatest then some n else none
  | _ => none

/-- The float nearest to a whole number of at most 64 bits. -/
def floatOfInt (n : Int) : Float :=
  if 0 ≤ n then (UInt64.ofNat n.toNat).toFloat else (Int64.ofInt n).toFloat

/-- A float; whole numbers count as floats too. -/
def toFloat? : Json → Option Float
  | .number (.int n) => some (floatOfInt n)
  | .number (.float x) => some x
  | _ => none

/-- A truth value. -/
def toBool? : Json → Option Bool
  | .bool b => some b
  | _ => none

/-- A text. -/
def toStr? : Json → Option String
  | .text s => s
  | _ => none

/-- A list of values. -/
def toList? {α : Type} (decode : Json → Option α) : Json → Option (List α)
  | .array items => items.mapM decode
  | _ => none

/-- A value, or nothing for null. -/
def toOption? {α : Type} (decode : Json → Option α) : Json → Option (Option α)
  | .null => some none
  | j => (decode j).map some

/-- One of some names, alone or as the only member of an object around null. -/
def toName? {α : Type} (all : List α) (text : α → String) : Json → Option α
  | .text (some s) => all.find? fun a => text a == s
  | .object [(some s, .null)] => all.find? fun a => text a == s
  | _ => none

/-! ## Structures -/

/-- The value of the member called `name`, if there is one. -/
def member? (name : String) (members : List (Option String × Json)) : Option Json :=
  (members.find? fun m => m.1 == some name).map fun m => m.2

/-- Whether at most one member is called `name`. -/
def isSingle (name : String) (members : List (Option String × Json)) : Bool :=
  decide ((members.countP fun m => m.1 == some name) ≤ 1)

/-- The values of the fields called `names`. In an array the last fields may be missing only if
    `short` says so. -/
def fields? (short : Bool) (names : List String) : Json → Option (List (Option Json))
  | .object members =>
      if (members.all fun m => m.1.isSome) && (names.all fun name => isSingle name members) then
        some (names.map fun name => member? name members)
      else
        none
  | .array items =>
      if items.length ≤ names.length && (short || items.length == names.length) then
        some ((List.range names.length).map fun i => items[i]?)
      else
        none
  | _ => none

/-- A field that must be there. -/
def need {α : Type} (decode : Json → Option α) (field : Option Json) : Option α :=
  field.bind decode

/-- A field with a default. -/
def orElse {α : Type} (default : α) (decode : Json → Option α) : Option Json → Option α
  | none => some default
  | some j => decode j

/-- A field that may be absent or null. -/
def maybe {α : Type} (decode : Json → Option α) : Option Json → Option (Option α) :=
  orElse none (toOption? decode)

/-- How deep the value of a kind may nest. -/
def kindNesting : Nat := 123

/-- The kind that a value names in its member `type`, and the value without that member. In an array
    the kind comes first. All of the value has to be usable. -/
def tagged? (j : Json) : Option (String × Json) :=
  if j.isSound && decide (j.nesting ≤ kindNesting) then
    match j with
    | .object members =>
        if isSingle "type" members then
          match member? "type" members with
          | some (.text (some kind)) =>
              some (kind, .object (members.filter fun m => m.1 != some "type"))
          | _ => none
        else
          none
    | .array (.text (some kind) :: rest) => some (kind, .array rest)
    | _ => none
  else
    none

/-! ## Limits -/

/-- The largest unsigned 32-bit number. -/
def limit32 : Nat := UInt32.size - 1

/-- The largest unsigned 64-bit number. -/
def limit64 : Nat := UInt64.size - 1

end CircuitBreaker.Json

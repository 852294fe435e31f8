import CircuitBreaker.Regex
import CircuitBreaker.Unicode.Script

/-!
# `CircuitBreaker.Regex.Name` — sets of characters by name

Properties, categories and scripts are called by names in which case, blanks, hyphens and
underscores do not count; so do ASCII classes by fixed names.

## Contents
- `normalName`: what counts of a name.
- `categoryGroup?`, `scriptTable?`, `propertyOf?`: what a name means.
- `namedSet?`: the set of a name, or of a name and a value.
- `asciiClass?`: the ASCII classes.
-/

namespace CircuitBreaker.CharSet

open Unicode (Ranges Category)

/-- What counts of a name: lower case letters and other signs of ASCII, less a leading `is`. -/
def normalName (name : List Char) : List Char :=
  let lower := name.map Char.toLower
  let leadsIs := lower.take 2 == ['i', 's']
  let rest := if leadsIs then lower.drop 2 else lower
  let kept := rest.filter fun c => c != ' ' && c != '_' && c != '-' && decide (c.toNat < 0x80)
  if leadsIs && kept == ['c'] then ['i', 's', 'c'] else kept

/-- Whether two names are the same as far as names count. -/
def isCalled (name : List Char) (other : String) : Bool := name == normalName other.toList

/-- The categories that a name stands for. -/
def categoryGroup? (name : List Char) : Option (List Category) :=
  let groups : List (List String × List Category) := [
    (["L", "Letter"], [.lu, .ll, .lt, .lm, .lo]),
    (["LC", "Cased_Letter"], [.lu, .ll, .lt]),
    (["M", "Mark", "Combining_Mark"], [.mn, .mc, .me]),
    (["N", "Number"], [.nd, .nl, .no]),
    (["P", "Punctuation", "punct"], [.pc, .pd, .ps, .pe, .pi, .pf, .po]),
    (["S", "Symbol"], [.sm, .sc, .sk, .so]),
    (["Z", "Separator"], [.zs, .zl, .zp]),
    (["C", "Other"], [.cc, .cf, .cs, .co, .cn]),
    (["digit"], [.nd]),
    (["cntrl"], [.cc])]
  match groups.find? fun g => g.1.any (isCalled name) with
  | some g => some g.2
  | none =>
      (Category.all.find? fun c => isCalled name c.abbreviation || isCalled name c.longName).map
        fun c => [c]

/-- The set of some categories. -/
def ofCategories : List Category → CharSet
  | [] => empty
  | c :: rest => rest.foldl (fun s d => union s (property (.category d))) (property (.category c))

/-- The set of a category, or of one of the sets that are called like categories. -/
def categorySet? (name : List Char) : Option CharSet :=
  if isCalled name "Any" then some (compl empty)
  else if isCalled name "Assigned" then some (compl (property (.category .cn)))
  else if isCalled name "ASCII" then some (table [(0, 0x7F)])
  else (categoryGroup? name).map ofCategories

/-- The ranges of the script called so. -/
def scriptTable? (name : List Char) : Option Ranges :=
  (Unicode.scriptTexts.find? fun s => s.1.any (isCalled name)).map fun s => Ranges.ofText s.2

/-- The set of a property called so. -/
def propertyOf? (name : List Char) : Option CharSet :=
  let properties : List (List String × CharSet) := [
    (["Alphabetic", "Alpha"], property .alphabetic),
    (["Uppercase", "Upper"], property .uppercase),
    (["Lowercase", "Lower"], property .lowercase),
    (["White_Space", "WSpace", "space"], property .space),
    (["ASCII_Hex_Digit", "AHex"], table [(0x30, 0x39), (0x41, 0x46), (0x61, 0x66)])]
  (properties.find? fun p => p.1.any (isCalled name)).map fun p => p.2

/-- The set that a name stands for: a property, a category or a script. -/
def namedSet? (name : List Char) : Option CharSet :=
  let n := normalName name
  match propertyOf? n with
  | some s => some s
  | none =>
      match categorySet? n with
      | some s => some s
      | none => (scriptTable? n).map table

/-- The set of characters whose category or script is `value`. -/
def valueSet? (name value : List Char) : Option CharSet :=
  let n := normalName name
  let v := normalName value
  if isCalled n "gc" || isCalled n "General_Category" then categorySet? v
  else if isCalled n "sc" || isCalled n "Script" || isCalled n "scx"
      || isCalled n "Script_Extensions" then
    (scriptTable? v).map table
  else none

/-- The ASCII class called so. -/
def asciiClass? (name : List Char) : Option CharSet :=
  let upper := (0x41, 0x5A)
  let lower := (0x61, 0x7A)
  let digit := (0x30, 0x39)
  let classes : List (String × Ranges) := [
    ("alnum", [digit, upper, lower]),
    ("alpha", [upper, lower]),
    ("ascii", [(0, 0x7F)]),
    ("blank", [(0x9, 0x9), (0x20, 0x20)]),
    ("cntrl", [(0, 0x1F), (0x7F, 0x7F)]),
    ("digit", [digit]),
    ("graph", [(0x21, 0x7E)]),
    ("lower", [lower]),
    ("print", [(0x20, 0x7E)]),
    ("punct", [(0x21, 0x2F), (0x3A, 0x40), (0x5B, 0x60), (0x7B, 0x7E)]),
    ("space", [(0x9, 0xD), (0x20, 0x20)]),
    ("upper", [upper]),
    ("word", [digit, upper, (0x5F, 0x5F), lower]),
    ("xdigit", [digit, (0x41, 0x46), (0x61, 0x66)])]
  (classes.find? fun c => c.1.toList == name).map fun c => table c.2

end CircuitBreaker.CharSet

import Simulcast.Binary64.Decimal
import Simulcast.Json.Basic

/-!
# YAML values

A mapping keeps its entries in the order in which they came and has no key twice. Two keys are the
same when their values are, whatever the order of the entries of mappings inside them.
-/

namespace Simulcast.Yaml

inductive Value where
  | null
  | bool (b : Bool)
  | integer (n : Int)
  | float (x : Binary64)
  | text (s : String)
  | sequence (items : List Value)
  | mapping (entries : List (Value × Value))
  /-- A value with a tag of its own, which is kept without its mark. -/
  | tagged (tag : String) (value : Value)

abbrev Entries : Type := List (Value × Value)

namespace Value

mutual

def same : Value → Value → Bool
  | .null, .null => true
  | .bool a, .bool b => a == b
  | .integer a, .integer b => a == b
  | .float a, .float b => a.same b
  | .text a, .text b => a == b
  | .sequence a, .sequence b => sameItems a b
  | .mapping a, .mapping b => a.length == b.length && within a b
  | .tagged s a, .tagged t b => s == t && same a b
  | _, _ => false

def sameItems : List Value → List Value → Bool
  | [], [] => true
  | a :: as, b :: bs => same a b && sameItems as bs
  | _, _ => false

/-- Every entry of the first list is one of the second. -/
def within : List (Value × Value) → List (Value × Value) → Bool
  | [], _ => true
  | (key, value) :: rest, entries =>
    entries.any (fun e => same key e.1 && same value e.2) && within rest entries

end

def isNull : Value → Bool
  | .null => true
  | _ => false

def untagged : Value → Value
  | .tagged _ value => value.untagged
  | value => value

def numberStyle : Binary64.DecimalStyle where
  least := -4
  most := 16
  infinite := ".inf"
  negativeInfinite := "-.inf"
  notANumber := ".nan"

def numberText? : Value → Option String
  | .integer n => some (toString n)
  | .float x => some (x.text numberStyle)
  | _ => none

end Value

/-! ### Entries of mappings -/

namespace Entries

def has (entries : Entries) (key : Value) : Bool := entries.any fun e => e.1.same key

def get? (entries : Entries) (key : Value) : Option Value :=
  (List.find? (fun e => e.1.same key) entries).map (·.2)

/-- Changes the value under a key, or gives a new key its value at the end. -/
def upsert (key : Value) (change : Value → Value) (new : Value) : Entries → Entries
  | [] => [(key, new)]
  | (k, v) :: rest =>
    if k.same key then (k, change v) :: rest else (k, v) :: upsert key change new rest

/-- Puts a value under a key, in the place of the one that was there. -/
def insert (entries : Entries) (key value : Value) : Entries :=
  upsert key (fun _ => value) value entries

end Entries

/-! ### From JSON

A number is a whole one if it is written without a point and fits; any other is a floating-point
number. A text without characters and a number that is too large have no value of their own and
become empty text and zero. -/

namespace Value

def ofNumeral (n : Numeral) : Value :=
  let size := Numeral.digitsValue n.whole
  if n.isWhole ∧ ¬ n.negative ∧ size < Numeral.wordBound then .integer size
  else if n.isWhole ∧ n.negative ∧ 0 < size ∧ 2 * size ≤ Numeral.wordBound then
    .integer (-(size : Int))
  else .float (n.float?.getD (Binary64.zero false))

mutual

def ofJson : Json → Value
  | .null => .null
  | .bool b => .bool b
  | .number n => ofNumeral n
  | .string s => .text (s.getD "")
  | .array items => .sequence (ofItems items)
  | .object members => .mapping (ofMembers members)

def ofItems : List Json → List Value
  | [] => []
  | item :: items => ofJson item :: ofItems items

def ofMembers : List (Option String × Json) → List (Value × Value)
  | [] => []
  | (name, value) :: members => (.text (name.getD ""), ofJson value) :: ofMembers members

end

end Value

end Simulcast.Yaml

import Simulcast.Text.Basic
import Simulcast.Yaml.Value

/-!
# What scalars mean

A plain scalar is read as null, as a truth value, as a whole number, as a floating-point number or
as itself, in this order. A tag of the core schema decides for one of them; any other scalar in
quotes is text.
-/

namespace Simulcast.Yaml

def nullWords : List String := ["null", "Null", "NULL", "~"]

def isNullWord (s : String) : Bool := nullWords.contains s

def boolWord? (s : String) : Option Bool :=
  if ["true", "True", "TRUE"].contains s then some true
  else if ["false", "False", "FALSE"].contains s then some false
  else none

/-! ### Whole numbers -/

def digit? (base : Nat) (c : Char) : Option Nat := (Text.hexValue? c).filter (· < base)

def digits? (base : Nat) : List Char → Option Nat
  | [] => none
  | cs => cs.foldlM (fun n c => (digit? base c).map (base * n + ·)) 0

def isSign (c : Char) : Bool := c == '+' || c == '-'

def dropSign : List Char → List Char
  | [] => []
  | c :: cs => if isSign c then cs else c :: cs

/-- Decimal digits with a zero in front of them are not a number. -/
def isPadded (cs : List Char) : Bool :=
  match dropSign cs with
  | '0' :: c :: rest => (c :: rest).all Char.isDigit
  | _ => false

def dropPlus : List Char → List Char
  | '+' :: cs => cs
  | cs => cs

def size? (padded : Bool) : List Char → Option Nat
  | '0' :: 'x' :: cs => digits? 16 cs
  | '0' :: 'o' :: cs => digits? 8 cs
  | '0' :: 'b' :: cs => digits? 2 cs
  | cs => if padded then none else digits? 10 cs

inductive Whole where
  | number (n : Int)
  /-- A whole number that cannot be held, which makes a document invalid. -/
  | outOfRange
  /-- No whole number, or one far beyond the range, which may still be a floating-point number. -/
  | other
  deriving DecidableEq

/-- Sorts a size by where its range ends and where its digits stop being looked at. -/
def bounded (limit horizon : Nat) (n : Nat) (value : Int) : Whole :=
  if n < limit then .number value else if n < horizon then .outOfRange else .other

def whole (cs : List Char) : Whole :=
  match cs with
  | '-' :: rest =>
    match size? (isPadded cs) rest with
    | some n => bounded (twoTo 63 + 1) (twoTo 127 + 1) n (-(n : Int))
    | none => .other
  | _ =>
    match size? (isPadded cs) (dropPlus cs) with
    | some n => bounded (twoTo 64) (twoTo 128) n n
    | none => .other

/-! ### Floating-point numbers -/

/-- The power of ten behind the digits: nothing, or a mark, a sign and digits. -/
def exponent? : List Char → Option Int
  | [] => some 0
  | mark :: cs =>
    if mark = 'e' ∨ mark = 'E' then
      match cs with
      | '-' :: digits => (digits? 10 digits).map fun n => -(n : Int)
      | '+' :: digits => (digits? 10 digits).map fun n => (n : Int)
      | digits => (digits? 10 digits).map fun n => (n : Int)
    else none

def fraction : List Char → List Char × List Char
  | '.' :: cs => (cs.takeWhile Char.isDigit, cs.dropWhile Char.isDigit)
  | cs => ([], cs)

/-- A decimal with a digit at least on one side of its point. -/
def decimal? (negative : Bool) (cs : List Char) : Option Binary64 :=
  let before := cs.takeWhile Char.isDigit
  let (after, rest) := fraction (cs.dropWhile Char.isDigit)
  match digits? 10 (before ++ after), exponent? rest with
  | some digits, some exponent => some (.ofDecimal negative digits (exponent - after.length))
  | _, _ => none

def finiteDecimal? (cs : List Char) : Option Binary64 :=
  let x := match cs with
    | '-' :: rest => decimal? true rest
    | _ => decimal? false cs
  x.filter fun x => !x.isInfinite

def float? (s : String) : Option Binary64 :=
  let cs := s.toList
  let unsigned := dropPlus cs
  if unsigned.length < cs.length ∧ (unsigned.head?.map isSign).getD false then none
  else if [".inf", ".Inf", ".INF"].contains (String.ofList unsigned) then some (.infinity false)
  else if ["-.inf", "-.Inf", "-.INF"].contains s then some (.infinity true)
  else if [".nan", ".NaN", ".NAN"].contains s then some .nan
  else finiteDecimal? unsigned

/-! ### Scalars -/

/-- The value of a plain scalar without a tag, if it has one. -/
def plain? (s : String) : Option Value :=
  if s = "" ∨ isNullWord s then some .null
  else
    match boolWord? s with
    | some b => some (.bool b)
    | none =>
      match whole s.toList with
      | .number n => some (.integer n)
      | .outOfRange => none
      | .other =>
        match if isPadded s.toList then none else float? s with
        | some x => some (.float x)
        | none => some (.text s)

def untaggedScalar? (isPlain : Bool) (s : String) : Option Value :=
  if isPlain then plain? s else some (.text s)

def coreTag (name : String) : String := "tag:yaml.org,2002:" ++ name

/-- The value of a scalar whose tag is not of its own: a core tag reads it as what the tag says, any
other as text. -/
def coreScalar? (tag s : String) : Option Value :=
  if tag = coreTag "bool" then (boolWord? s).map .bool
  else if tag = coreTag "int" then
    match whole s.toList with
    | .number n => some (.integer n)
    | _ => none
  else if tag = coreTag "float" then (float? s).map .float
  else if tag = coreTag "null" then if isNullWord s then some .null else none
  else some (.text s)

end Simulcast.Yaml

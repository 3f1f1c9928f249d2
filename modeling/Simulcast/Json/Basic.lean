import Simulcast.Binary64.Basic

/-!
# JSON values

A value keeps what its text says. A number keeps its digits, and an object keeps its members in the
order of the text, repeated ones included. A text written with an unpaired surrogate stands for no
characters; it may occur, but nothing can be read from it.
-/

namespace Simulcast

/-- A number as it is written; an absent fraction or exponent has no digits. -/
structure Numeral where
  negative : Bool
  whole : List Char
  fraction : List Char
  exponentNegative : Bool
  exponent : List Char
  deriving DecidableEq, Repr

inductive Json where
  | null
  | bool (b : Bool)
  | number (n : Numeral)
  | string (s : Option String)
  | array (items : List Json)
  | object (members : List (Option String × Json))
  deriving Inhabited

namespace Json

def text (s : String) : Json := .string (some s)

def texts (ss : List String) : Json := .array (ss.map text)

def integer (i : Int) : Json :=
  .number
    { negative := i < 0, whole := Nat.toDigits 10 i.natAbs, fraction := []
      exponentNegative := false, exponent := [] }

def record (members : List (String × Json)) : Json :=
  .object (members.map fun m => (some m.1, m.2))

def field? (name : String) : Json → Option Json
  | .object members => (members.reverse.find? fun m => m.1 == some name).map (·.2)
  | _ => none

def text? : Json → Option String
  | .string s => s
  | _ => none

def bool? : Json → Option Bool
  | .bool b => some b
  | _ => none

end Json

namespace Numeral

def digitValue (c : Char) : Nat := c.toNat - 48

def digitsValue (cs : List Char) : Nat := cs.foldl (fun n c => 10 * n + digitValue c) 0

def wordBound : Nat := twoTo 64

def isWhole (n : Numeral) : Bool := n.fraction.isEmpty && n.exponent.isEmpty

/-- A whole number that fits sixty-four bits without a sign. -/
def word? (n : Numeral) : Option Nat :=
  if n.isWhole && !n.negative && digitsValue n.whole < wordBound then some (digitsValue n.whole)
  else none

def whole? (n : Numeral) : Option Int :=
  if n.isWhole then
    some (if n.negative then -(digitsValue n.whole : Int) else digitsValue n.whole)
  else none

/-- Takes digits as long as the significand fits sixty-four bits; also says how many it took. -/
def gather (significand : Nat) : List Char → Nat × Nat
  | [] => (significand, 0)
  | c :: cs =>
    let next := 10 * significand + digitValue c
    if next < wordBound then
      let (s, taken) := gather next cs
      (s, taken + 1)
    else (significand, 0)

def tenToThe (n : Nat) : Binary64 := Binary64.ofNat (tenTo n)

def largestStep : Nat := 308

/-- Divides by `10 ^ down` in steps that a floating-point number can hold. -/
def divideDown (x : Binary64) (down : Nat) : Nat → Binary64
  | 0 => x
  | steps + 1 =>
    if down ≤ largestStep then x.div (tenToThe down)
    else if x.isZero then x
    else divideDown (x.div (tenToThe largestStep)) (down - largestStep) steps

/-- A significand times a power of ten, both rounded before they are joined; nothing when the
result is too large. -/
def joined (significand : Nat) (exponent : Int) : Option Binary64 :=
  let x := Binary64.ofNat significand
  if exponent < 0 then some (divideDown x exponent.natAbs 5)
  else if exponent.natAbs ≤ largestStep then
    let y := x.mul (tenToThe exponent.natAbs)
    if y.isInfinite then none else some y
  else if x.isZero then some x
  else none

def exponentBound : Nat := twoTo 31

/-- The value of the digits without the sign, with significand digits beyond sixty-four bits
dropped; nothing when it is too large. -/
def size? (n : Numeral) : Option Binary64 :=
  let (significand, taken) := gather 0 n.whole
  let dropped := n.whole.length - taken
  let (significand, places) := gather significand n.fraction
  let start : Int := (dropped : Int) - places
  let shift := digitsValue n.exponent
  if exponentBound ≤ shift then
    if significand ≠ 0 ∧ ¬ n.exponentNegative then none else some (Binary64.zero false)
  else
    joined significand (if n.exponentNegative then start - shift else start + shift)

def float? (n : Numeral) : Option Binary64 :=
  n.size?.map fun x => if n.negative then x.neg else x

end Numeral

def Json.whole? : Json → Option Int
  | .number n => n.whole?
  | _ => none

end Simulcast

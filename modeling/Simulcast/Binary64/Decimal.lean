import Simulcast.Binary64.Basic

/-!
# Floating-point numbers in decimal

Reading rounds the decimal correctly. Writing takes the fewest digits that read back as the same
number, the nearest such digits, and places the point: positional notation from five places below
one up to sixteen whole digits, otherwise one digit before the point and an exponent.
-/

namespace Simulcast.Binary64

/-- `digits * 10 ^ exponent`, rounded. Sizes far outside the range are settled without computing
the power. -/
def ofDecimal (negative : Bool) (digits : Nat) (exponent : Int) : Binary64 :=
  let size : Int := (Nat.toDigits 10 digits).length + exponent
  if digits = 0 ∨ size < -400 then zero negative
  else if 400 < size then infinity negative
  else if 0 ≤ exponent then ofRatio negative (digits * tenTo exponent.toNat) 1
  else ofRatio negative digits (tenTo (-exponent).toNat)

/-- What rounds to a finite positive number: the quotients between two bounds over a common
denominator, the bounds included when the significand is even. -/
structure Interval where
  low : Nat
  value : Nat
  high : Nat
  den : Nat
  closed : Bool

def interval (x : Binary64) : Interval :=
  let m := x.significand
  -- Below a power of two the neighbours lie half as far apart.
  let below := if m = twoTo 52 ∧ -1074 < x.exponent then 1 else 2
  let up := twoTo (x.exponent - 2).toNat
  { low := (4 * m - below) * up, value := 4 * m * up, high := (4 * m + 2) * up
    den := twoTo (2 - x.exponent).toNat, closed := m % 2 = 0 }

/-- Whether `n * 10 ^ place` rounds to the number of the interval. -/
def Interval.holds (i : Interval) (n : Nat) (place : Int) : Bool :=
  let a := n * tenTo place.toNat * i.den
  let k := tenTo (-place).toNat
  if i.closed then i.low * k ≤ a && a ≤ i.high * k else i.low * k < a && a < i.high * k

/-- The neighbours of the value on the grid of multiples of `10 ^ place`, the nearer first and of
two equally near the even one. -/
def Interval.neighbours (i : Interval) (place : Int) : List Nat :=
  let num := i.value * tenTo (-place).toNat
  let den := i.den * tenTo place.toNat
  let q := num / den
  if roundDiv num den = q then [q, q + 1] else [q + 1, q]

def Interval.leadingPlace (i : Interval) : Int :=
  if i.den ≤ i.value then ((Nat.toDigits 10 (i.value / i.den)).length : Int) - 1
  else -((Nat.toDigits 10 ((i.den - 1) / i.value)).length : Int)

/-- Tries `count` digits, then one more, while `more` is left. -/
def Interval.shortestFrom (i : Interval) (count : Nat) : Nat → Nat × Int
  | 0 => (i.value / i.den, 0)
  | more + 1 =>
    let place := i.leadingPlace - (count : Int) + 1
    match (i.neighbours place).find? (i.holds · place) with
    | some n => (n, place)
    | none => i.shortestFrom (count + 1) more

/-- The fewest digits that read back as a finite positive number, and the place of the last. -/
def shortest (x : Binary64) : Nat × Int := x.interval.shortestFrom 1 17

/-- Where positional notation ends: `least` and `most` bound the number of whole digits, counted
negatively below one, and the remaining fields are the texts of the other numbers. -/
structure DecimalStyle where
  least : Int
  most : Int
  infinite : String
  negativeInfinite : String
  notANumber : String

def zeros (n : Nat) : List Char := List.replicate n '0'

def placePoint (digits : List Char) (point : Int) : List Char :=
  if point ≤ 0 then '0' :: '.' :: zeros (-point).toNat ++ digits
  else if (digits.length : Int) ≤ point then
    digits ++ zeros (point - digits.length).toNat ++ ['.', '0']
  else digits.take point.toNat ++ '.' :: digits.drop point.toNat

def scientific (digits : List Char) (exponent : Int) : List Char :=
  match digits with
  | [] => []
  | [d] => d :: 'e' :: (toString exponent).toList
  | d :: ds => d :: '.' :: ds ++ 'e' :: (toString exponent).toList

def dropZeros (digits : List Char) : List Char := (digits.reverse.dropWhile (· == '0')).reverse

def positiveText (style : DecimalStyle) (x : Binary64) : List Char :=
  let (n, place) := x.shortest
  let all := Nat.toDigits 10 n
  let digits := dropZeros all
  let point : Int := all.length + place
  if style.least ≤ point ∧ point ≤ style.most then placePoint digits point
  else scientific digits (point - 1)

def text (style : DecimalStyle) (x : Binary64) : String :=
  if x.isNaN then style.notANumber
  else if x.isInfinite then if x.isNegative then style.negativeInfinite else style.infinite
  else
    let body := if x.isZero then ['0', '.', '0'] else positiveText style x
    String.ofList (if x.isNegative then '-' :: body else body)

end Simulcast.Binary64

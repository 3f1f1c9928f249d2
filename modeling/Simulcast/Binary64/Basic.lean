/-!
# Floating-point numbers of sixty-four bits

A number is its bit pattern. A finite one is a whole number times a power of two, and a quotient of
natural numbers is rounded to the nearest pattern, an exact half to the even one. All of it is
arithmetic on natural numbers.
-/

namespace Simulcast

def twoTo (n : Nat) : Nat := Nat.pow 2 n

def tenTo (n : Nat) : Nat := Nat.pow 10 n

theorem twoTo_pos (n : Nat) : 0 < twoTo n := Nat.pow_pos (by decide)

theorem twoTo_succ (n : Nat) : twoTo (n + 1) = 2 * twoTo n := Nat.mul_comm (twoTo n) 2

theorem twoTo_le {m n : Nat} (h : m ≤ n) : twoTo m ≤ twoTo n :=
  Nat.pow_le_pow_right (by decide) h

structure Binary64 where
  bits : UInt64
  deriving DecidableEq, Repr

namespace Binary64

def ofFields (negative : Bool) (magnitude : Nat) : Binary64 :=
  ⟨UInt64.ofNat (magnitude + if negative then twoTo 63 else 0)⟩

def isNegative (x : Binary64) : Bool := twoTo 63 ≤ x.bits.toNat

def magnitude (x : Binary64) : Nat := x.bits.toNat % twoTo 63

def infiniteMagnitude : Nat := 2047 * twoTo 52

def infinity (negative : Bool) : Binary64 := ofFields negative infiniteMagnitude

def zero (negative : Bool) : Binary64 := ofFields negative 0

def nan : Binary64 := ofFields false (infiniteMagnitude + twoTo 51)

def isNaN (x : Binary64) : Bool := infiniteMagnitude < x.magnitude

def isInfinite (x : Binary64) : Bool := x.magnitude == infiniteMagnitude

def isZero (x : Binary64) : Bool := x.magnitude == 0

/-- Equal as numbers: the two zeros are one number, and nothing-a-number equals itself. -/
def same (x y : Binary64) : Bool :=
  (x.isNaN && y.isNaN) || x == y || (x.isZero && y.isZero)

/-- A finite number is `significand * 2 ^ exponent`, sign apart. -/
def significand (x : Binary64) : Nat :=
  if x.magnitude / twoTo 52 = 0 then x.magnitude else twoTo 52 + x.magnitude % twoTo 52

def exponent (x : Binary64) : Int :=
  max ((x.magnitude / twoTo 52 : Nat) : Int) 1 - 1075

/-- `num / den` to the nearest whole number, an exact half to the even one. -/
def roundDiv (num den : Nat) : Nat :=
  let q := num / den
  let twice := 2 * (num % den)
  if twice < den then q
  else if den < twice then q + 1
  else if q % 2 = 0 then q else q + 1

/-- `2 ^ k` as a factor of the numerator or of the denominator. -/
def scale (num den : Nat) (k : Int) : Nat × Nat :=
  if 0 ≤ k then (num, den * twoTo k.toNat) else (num * twoTo (-k).toNat, den)

/-- The exponent at which `num / den` has a significand of fifty-three bits, or the least one. -/
def exponentFor (num den : Nat) : Int :=
  let guess : Int := (num.log2 : Int) - den.log2 - 52
  let (n, d) := scale num den guess
  max (if n < d * twoTo 52 then guess - 1 else guess) (-1074)

/-- The nearest number to `num / den`; what is too large becomes infinite. -/
def ofRatio (negative : Bool) (num den : Nat) : Binary64 :=
  if num = 0 then zero negative
  else
    let e := exponentFor num den
    let (n, d) := scale num den e
    ofFields negative (min ((e + 1074).toNat * twoTo 52 + roundDiv n d) infiniteMagnitude)

def ofNat (n : Nat) : Binary64 := ofRatio false n 1

def ratio (x : Binary64) : Nat × Nat :=
  if 0 ≤ x.exponent then (x.significand * twoTo x.exponent.toNat, 1)
  else (x.significand, twoTo (-x.exponent).toNat)

def mul (x y : Binary64) : Binary64 :=
  let (n, d) := x.ratio
  let (n', d') := y.ratio
  ofRatio (x.isNegative != y.isNegative) (n * n') (d * d')

def div (x y : Binary64) : Binary64 :=
  let (n, d) := x.ratio
  let (n', d') := y.ratio
  ofRatio (x.isNegative != y.isNegative) (n * d') (d * n')

def neg (x : Binary64) : Binary64 := ofFields (!x.isNegative) x.magnitude

end Binary64

end Simulcast

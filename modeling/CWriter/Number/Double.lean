/-!
Binary floating-point numbers of 64 bits. A finite number is a significand of at most 53 bits
times a power of two; each has one representation, and zero has two signs.
-/
namespace CWriter

/-- In a finite number the significand uses all of its bits, or the exponent is the least. -/
inductive Double where
  | nan
  | infinite (negative : Bool)
  | finite (negative : Bool) (significand : Nat) (exponent : Int)
  deriving DecidableEq

namespace Double

/-- How many bits a significand has. -/
def precision : Nat := 53

def leastExponent : Int := -1074

def greatestExponent : Int := 971

def zero (negative : Bool) : Double := finite negative 0 leastExponent

/-- The integer nearest to a quotient; of two as near, the even one. -/
def roundedQuotient (num den : Nat) : Nat :=
  let q := num / den
  let r := num % den
  if 2 * r > den || (2 * r == den && q % 2 == 1) then q + 1 else q

/-- A quotient divided by a power of two, as a quotient again. -/
def scaled (num den : Nat) (exponent : Int) : Nat × Nat :=
  (num * Nat.pow 2 (-exponent).toNat, den * Nat.pow 2 exponent.toNat)

/-- The exponent with which a quotient fills a significand, unless it is below the least. -/
def exponentOf (num den : Nat) : Int :=
  let guess : Int := num.log2 - den.log2 - precision
  let (n, d) := scaled num den guess
  max leastExponent (if n / d < Nat.pow 2 precision then guess else guess + 1)

/-- The number nearest to a quotient. One beyond the greatest becomes infinite. -/
def ofQuotient (negative : Bool) (num den : Nat) : Double :=
  if num = 0 then zero negative
  else
    let exponent := exponentOf num den
    let (n, d) := scaled num den exponent
    let significand := roundedQuotient n d
    let (significand, exponent) :=
      if significand = Nat.pow 2 precision then (Nat.pow 2 (precision - 1), exponent + 1)
      else (significand, exponent)
    if greatestExponent < exponent then infinite negative
    else finite negative significand exponent

/-- Decimal exponents from which on every number is infinite, and below which, the digits
apart, every number is zero. -/
def decimalReach : Nat := 330

/-- The number nearest to `digits * 10 ^ exponent`. -/
def ofDecimal (negative : Bool) (digits : Nat) (exponent : Int) : Double :=
  if digits = 0 || exponent < -(digits.log2 + 1 + decimalReach : Int) then zero negative
  else if (decimalReach : Int) < exponent then infinite negative
  else
    ofQuotient negative (digits * Nat.pow 10 exponent.toNat) (Nat.pow 10 (-exponent).toNat)

def isFinite : Double → Bool
  | finite .. => true
  | _ => false

def isZero : Double → Bool
  | finite _ significand _ => significand == 0
  | _ => false

/-- The integer that a number is, if it is one. -/
def integer? : Double → Option Int
  | finite negative significand exponent =>
    let whole : Nat := significand * Nat.pow 2 exponent.toNat
    let unit : Nat := Nat.pow 2 (-exponent).toNat
    if whole % unit = 0 then
      some (if negative then -((whole / unit : Nat) : Int) else ((whole / unit : Nat) : Int))
    else none
  | _ => none

end Double

end CWriter

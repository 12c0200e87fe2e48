import CWriter.Number.Double

/-!
The text of a floating-point number: the fewest significant digits that no other number is
nearer to, and of those the nearest to the number itself.
-/
namespace CWriter.Double

/-- A decimal number `0.d₁d₂… * 10 ^ point`, given by its digits. -/
structure Digits where
  digits : List Char
  point : Int

/-- The numbers that round to `significand * 2 ^ exponent` lie between two bounds, which belong
to them if the significand is even. Number and bounds are counted in quarters of its last bit;
the lower neighbour of a power of two is half as far away as the upper one. -/
structure Interval where
  low : Nat
  middle : Nat
  high : Nat
  closed : Bool

def interval (significand : Nat) (exponent : Int) : Interval where
  low :=
    if significand = Nat.pow 2 (precision - 1) && leastExponent < exponent then 4 * significand - 1
    else 4 * significand - 2
  middle := 4 * significand
  high := 4 * significand + 2
  closed := significand % 2 == 0

/-- The quotient by which a count of quarters is multiplied to count units of `10 ^ place`. -/
def gridScale (exponent place : Int) : Nat × Nat :=
  (Nat.pow 2 (exponent - 2).toNat * Nat.pow 10 (-place).toNat,
    Nat.pow 2 (2 - exponent).toNat * Nat.pow 10 place.toNat)

/-- Whether a decimal number on a grid with the given scale lies in an interval. -/
def Interval.holds (i : Interval) (scale : Nat × Nat) (n : Nat) : Bool :=
  let (num, den) := scale
  if i.closed then i.low * num ≤ n * den && n * den ≤ i.high * num
  else i.low * num < n * den && n * den < i.high * num

/-- The number on a grid that lies in an interval and is nearest to its middle; of two as near,
the even one. -/
def Interval.nearest? (i : Interval) (scale : Nat × Nat) : Option Nat :=
  let (num, den) := scale
  let below := i.middle * num / den
  let first := roundedQuotient (i.middle * num) den
  let second := if first = below then below + 1 else below
  if i.holds scale first then some first
  else if i.holds scale second then some second
  else none

/-- More than the decimal digits behind the point that any number starts after. -/
def placesReach : Nat := 400

/-- The power of ten just above `significand * 2 ^ exponent`. -/
def magnitude (significand : Nat) (exponent : Int) : Int :=
  let (num, den) := gridScale exponent (-placesReach)
  (Nat.toDigits 10 (4 * significand * num / den)).length - placesReach

/-- Tries grids of more and more digits. -/
def searchDigits (i : Interval) (exponent magnitude : Int) : Nat → Nat → Option (Nat × Int)
  | 0, _ => none
  | tries + 1, count =>
    let place := magnitude - count
    match i.nearest? (gridScale exponent place) with
    | some n => some (n, place)
    | none => searchDigits i exponent magnitude tries (count + 1)

/-- Seventeen digits tell all numbers apart. -/
def mostDigits : Nat := 17

def dropTrailingZeros (ds : List Char) : List Char := (ds.reverse.dropWhile (· == '0')).reverse

/-- The digits of a number other than zero. -/
def shortest (significand : Nat) (exponent : Int) : Digits :=
  let i := interval significand exponent
  match searchDigits i exponent (magnitude significand exponent) mostDigits 1 with
  | some (n, place) =>
    let ds := Nat.toDigits 10 n
    ⟨dropTrailingZeros ds, ds.length + place⟩
  | none => ⟨[], 0⟩

/-- Numbers of at least `10 ^ leastPositional` and less than `10 ^ mostPositional` are written
without an exponent. -/
def leastPositional : Int := -4

def mostPositional : Int := 16

def zeroDigits (n : Nat) : List Char := List.replicate n '0'

/-- At least one digit stands on either side of the point. -/
def positional (d : Digits) : List Char :=
  if d.point ≤ 0 then ['0', '.'] ++ zeroDigits (-d.point).toNat ++ d.digits
  else
    let whole := d.point.toNat
    if d.digits.length ≤ whole then
      d.digits ++ zeroDigits (whole - d.digits.length) ++ ['.', '0']
    else d.digits.take whole ++ '.' :: d.digits.drop whole

/-- One digit stands in front of the point, and no point without further digits. The exponent
has at least two digits. -/
def scientific (d : Digits) : List Char :=
  let exponent := d.point - 1
  let ds := Nat.toDigits 10 exponent.natAbs
  d.digits.take 1 ++ (if d.digits.length ≤ 1 then [] else '.' :: d.digits.drop 1) ++
    ['e', if exponent < 0 then '-' else '+'] ++ zeroDigits (2 - ds.length) ++ ds

def magnitudeText (significand : Nat) (exponent : Int) : List Char :=
  if significand = 0 then ['0', '.', '0']
  else
    let d := shortest significand exponent
    if leastPositional < d.point && d.point ≤ mostPositional then positional d else scientific d

def text : Double → String
  | nan => "nan"
  | infinite negative => if negative then "-inf" else "inf"
  | finite negative significand exponent =>
    String.ofList ((if negative then ['-'] else []) ++ magnitudeText significand exponent)

end CWriter.Double

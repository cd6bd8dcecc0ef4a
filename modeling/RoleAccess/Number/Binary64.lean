/-!
# Double-precision numbers

A finite number is a sign and a whole number of units `2 ^ (unit - 1074)`. In
canonical form the significand is below `2 ^ 53`, and at least `2 ^ 52` unless
the unit is the smallest one. Rounding takes a ratio of natural numbers to the
nearest canonical number, a tie to the even significand, and everything above
the largest finite number to infinity. All arithmetic is exact arithmetic on
natural numbers followed by one rounding.
-/

namespace RoleAccess

/-- A double-precision number. -/
inductive Binary64 where
  | nan
  | infinite (negative : Bool)
  /-- The number `± significand * 2 ^ unit / 2 ^ 1074`. -/
  | finite (negative : Bool) (significand unit : Nat)
  deriving DecidableEq, Repr

namespace Binary64

/-- The quotient of two natural numbers to the nearest one, a tie to the even
one. -/
def roundQuotient (numerator denominator : Nat) : Nat :=
  let quotient := numerator / denominator
  let twice := 2 * (numerator % denominator)
  if twice < denominator then quotient
  else if denominator < twice then quotient + 1
  else quotient + quotient % 2

/-- Finite numbers have units below this one. -/
def unitBound : Nat := 2046

/-- The number of the smallest units in one. -/
def unitsPerOne : Nat := Nat.pow 2 1074

/-- A ratio rounded to the nearest number. -/
def ofRatio (negative : Bool) (numerator denominator : Nat) : Binary64 :=
  let scaled := numerator * unitsPerOne
  let unit := (scaled / denominator).log2 - 52
  let significand := roundQuotient scaled (denominator * Nat.pow 2 unit)
  let (significand, unit) :=
    if significand = Nat.pow 2 53 then (Nat.pow 2 52, unit + 1) else (significand, unit)
  if unitBound ≤ unit then .infinite negative else .finite negative significand unit

/-- Positive zero. -/
def zero : Binary64 := .finite false 0 0

/-- The nearest number to a natural number. -/
def ofNat (n : Nat) : Binary64 := ofRatio false n 1

/-- The nearest number to `digits * 10 ^ exponent`. An exponent far outside the
range of the finite numbers is decided without writing the power of ten out. -/
def ofDecimal (negative : Bool) (digits : Nat) (exponent : Int) : Binary64 :=
  let point : Int := exponent + ((Nat.toDigits 10 digits).length : Int)
  if digits = 0 || point < -330 then .finite negative 0 0
  else if 310 < point then .infinite negative
  else if 0 ≤ exponent then ofRatio negative (digits * Nat.pow 10 exponent.toNat) 1
  else ofRatio negative digits (Nat.pow 10 (-exponent).toNat)

/-- The number with the other sign. -/
def neg : Binary64 → Binary64
  | .nan => .nan
  | .infinite negative => .infinite (!negative)
  | .finite negative significand unit => .finite (!negative) significand unit

/-- The magnitude of a finite number, in smallest units. -/
def magnitude (significand unit : Nat) : Nat := significand * Nat.pow 2 unit

/-- The sum of two magnitudes, rounded; an infinite or undefined one stays. -/
def addMagnitudes : Binary64 → Binary64 → Binary64
  | .finite _ m u, .finite _ n v => ofRatio false (magnitude m u + magnitude n v) unitsPerOne
  | .finite .., y => y
  | x, _ => x

/-- The product of two magnitudes, rounded; an infinite or undefined one stays. -/
def mulMagnitudes : Binary64 → Binary64 → Binary64
  | .finite _ m u, .finite _ n v =>
      ofRatio false (magnitude m u * magnitude n v) (unitsPerOne * unitsPerOne)
  | .finite .., y => y
  | x, _ => x

/-- Numbers equal to zero, of either sign. -/
def isZero : Binary64 → Bool
  | .finite _ significand _ => significand = 0
  | _ => false

/-- Numbers above zero. -/
def isPositive : Binary64 → Bool
  | .infinite negative => !negative
  | .finite negative significand _ => !negative && significand ≠ 0
  | .nan => false

/-- Whether a natural number is not below a number above zero. -/
def isReachedBy (x : Binary64) (n : Nat) : Bool :=
  match x with
  | .finite _ significand unit => x.isPositive && magnitude significand unit ≤ n * unitsPerOne
  | _ => false

/-- The integer that a number is equal to, if there is one. -/
def toInt? : Binary64 → Option Int
  | .finite negative significand unit =>
      let scaled := magnitude significand unit
      if scaled % unitsPerOne = 0 then
        let whole : Nat := scaled / unitsPerOne
        some (if negative then -(whole : Int) else whole)
      else none
  | _ => none

end Binary64

end RoleAccess

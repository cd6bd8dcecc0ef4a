import RoleAccess.Number.Decimal

/-!
# Numbers with decimal places

A natural number can be shown with a fixed count of places after its point, with
one digit before the point and an exponent, or in whichever of the two forms a
count of significant digits asks for. Digits that are left out round the ones
that stay, a half to the even digit. A point without places is only written if
asked for.
-/

namespace RoleAccess.Number

/-- Digits with places after a point. -/
def pointed (keepsPoint : Bool) (digits places : List Char) : List Char :=
  if places.isEmpty && !keepsPoint then digits else digits ++ '.' :: places

/-- A number with a count of places. -/
def fixed (keepsPoint : Bool) (places n : Nat) : List Char :=
  pointed keepsPoint (decimalDigits n) (List.replicate places '0')

/-- The first `count` digits of a number, rounded, and the power of ten of the
first one. -/
def leading (count n : Nat) : List Char × Nat :=
  let digits := decimalDigits n
  let exponent := digits.length - 1
  if digits.length ≤ count then
    (digits ++ List.replicate (count - digits.length) '0', exponent)
  else
    let rounded := decimalDigits
      (Binary64.roundQuotient n (Nat.pow 10 (digits.length - count)))
    (rounded.take count, if count < rounded.length then exponent + 1 else exponent)

/-- Digits with the first one before the point, and the exponent after a mark. -/
def withExponent (keepsPoint : Bool) (digits : List Char) (exponent : Nat) : List Char :=
  pointed keepsPoint (digits.take 1) (digits.drop 1) ++ 'e' :: Decimal.exponentText exponent

/-- A number with one digit before the point and a count of places after it. -/
def scientific (keepsPoint : Bool) (places n : Nat) : List Char :=
  let (digits, exponent) := leading (places + 1) n
  withExponent keepsPoint digits exponent

/-- A number with a count of significant digits, at least one. The point and the
zeros at the end of the places are only written if asked for. -/
def general (keepsPlaces : Bool) (count n : Nat) : List Char :=
  let (digits, exponent) := leading (max count 1) n
  let shown := if keepsPlaces then digits else
    digits.take 1 ++ Decimal.significantDigits (digits.drop 1)
  if exponent < digits.length then
    let whole := digits.take (exponent + 1)
    pointed keepsPlaces whole (shown.drop (exponent + 1))
  else withExponent keepsPlaces shown exponent

end RoleAccess.Number

import RoleAccess.Number.Binary64
import RoleAccess.Number.Digits

/-!
# Decimal text of double-precision numbers

A finite number is written with the fewest digits that read back as the same
number; among those of the same length, with the nearest to its value. The
digits are found on the decimal grids of one to seventeen digits: on each grid
only the two neighbours of the value can be nearest, and the first grid on which
one of them reads back wins.

The point stands between digits, or next to zeros written out, when it is at
most sixteen places from the first digit to the right and at most three zeros to
the left; otherwise the number has one digit before the point and an exponent of
at least two digits with its sign.
-/

namespace RoleAccess

/-- A decimal number `digits * 10 ^ exponent`. -/
structure Decimal where
  digits : Nat
  exponent : Int
  deriving DecidableEq, Repr

namespace Decimal

/-- The place of the point after the first digit's left end: the least `p` with
the ratio below `10 ^ p`. -/
def pointOf (numerator denominator : Nat) : Int :=
  if denominator ≤ numerator then
    ((Number.decimalDigits (numerator / denominator)).length : Int)
  else
    let places := (Number.decimalDigits (denominator / numerator)).length
    if numerator * Nat.pow 10 (places - 1) = denominator then 2 - (places : Int)
    else 1 - (places : Int)

/-- The two neighbours of a ratio among the multiples of `10 ^ exponent`, the
nearer one first; the even one first if they are equally near. -/
def neighbours (numerator denominator : Nat) (exponent : Int) : List Decimal :=
  let top := if exponent < 0 then numerator * Nat.pow 10 (-exponent).toNat else numerator
  let bottom := if exponent < 0 then denominator else denominator * Nat.pow 10 exponent.toNat
  let below := top / bottom
  let twice := 2 * (top % bottom)
  if twice < bottom || (twice = bottom && below % 2 = 0) then
    [⟨below, exponent⟩, ⟨below + 1, exponent⟩]
  else [⟨below + 1, exponent⟩, ⟨below, exponent⟩]

/-- The nearest number to a decimal one. -/
def toBinary64 (decimal : Decimal) : Binary64 :=
  .ofDecimal false decimal.digits decimal.exponent

/-- The shortest decimal that reads back as a finite number, tried on the grids
of `17 - left` digits and more. -/
def shortestFrom (significand unit : Nat) : (left : Nat) → Decimal
  | 0 => ⟨0, 0⟩
  | left + 1 =>
      let numerator := Binary64.magnitude significand unit
      let exponent := pointOf numerator Binary64.unitsPerOne - (17 - left : Nat)
      let found := (neighbours numerator Binary64.unitsPerOne exponent).find? fun decimal =>
        decimal.toBinary64 = .finite false significand unit
      match found with
      | some decimal => decimal
      | none => shortestFrom significand unit left

/-- The shortest decimal that reads back as a finite number. -/
def shortest (significand unit : Nat) : Decimal :=
  shortestFrom significand unit 17

/-- Whether a number is written with its point in place: exponents below
sixteen, and no more than three zeros after the point. -/
def isPositional (point : Int) : Bool := -4 < point && point ≤ 16

/-- Digits without the zeros at their end. -/
def significantDigits (digits : List Char) : List Char :=
  (digits.reverse.dropWhile (· = '0')).reverse

/-- Digits with the point in place. -/
def positional (digits : List Char) (point : Int) : List Char :=
  if point ≤ 0 then
    ['0', '.'] ++ List.replicate (-point).toNat '0' ++ digits
  else if (digits.length : Int) ≤ point then
    digits ++ List.replicate (point.toNat - digits.length) '0' ++ ['.', '0']
  else digits.take point.toNat ++ ['.'] ++ digits.drop point.toNat

/-- An exponent of at least two digits, with its sign. -/
def exponentText (exponent : Int) : List Char :=
  let digits := Number.decimalDigits exponent.natAbs
  (if exponent < 0 then '-' else '+') ::
    (if digits.length < 2 then '0' :: digits else digits)

/-- Digits with one of them before the point, and an exponent. -/
def scientific (digits : List Char) (point : Int) : List Char :=
  match digits with
  | [] => []
  | first :: rest =>
      first :: (if rest.isEmpty then [] else '.' :: rest) ++ ['e'] ++ exponentText (point - 1)

/-- The text of a decimal number that is not negative. -/
def render (decimal : Decimal) : List Char :=
  if decimal.digits = 0 then ['0', '.', '0']
  else
    let all := Number.decimalDigits decimal.digits
    let digits := significantDigits all
    let point := (all.length : Int) + decimal.exponent
    if isPositional point then positional digits point else scientific digits point

end Decimal

namespace Binary64

/-- The text of a number. -/
def render : Binary64 → String
  | .nan => "nan"
  | .infinite negative => if negative then "-inf" else "inf"
  | .finite negative significand unit =>
      let digits :=
        if significand = 0 then ['0', '.', '0'] else (Decimal.shortest significand unit).render
      String.ofList (if negative then '-' :: digits else digits)

/-- Cuts a list at the first member that satisfies a test, which is left out. -/
def cutAt (test : Char → Bool) (text : List Char) : List Char × Option (List Char) :=
  match text.span (!test ·) with
  | (front, []) => (front, none)
  | (front, _ :: back) => (front, some back)

/-- The number written by digits with an optional point and an optional exponent
after `e`; a text of another form reads as the digits in it. -/
def ofDecimalText (negative : Bool) (text : List Char) : Binary64 :=
  let (body, power) := cutAt (fun c => c = 'e' || c = 'E') text
  let (whole, fraction) := cutAt (· = '.') body
  let places := fraction.getD []
  let exponent : Int :=
    match power.getD [] with
    | '-' :: digits => -((Number.ofDigits 10 digits : Nat) : Int)
    | '+' :: digits => (Number.ofDigits 10 digits : Nat)
    | digits => (Number.ofDigits 10 digits : Nat)
  ofDecimal negative (Number.ofDigits 10 (whole ++ places)) (exponent - (places.length : Int))

/-- The number that a text stands for. -/
def ofText (text : String) : Binary64 :=
  let (negative, body) :=
    match text.toList with
    | '-' :: body => (true, body)
    | '+' :: body => (false, body)
    | body => (false, body)
  if body = ['n', 'a', 'n'] then .nan
  else if body = ['i', 'n', 'f'] then .infinite negative
  else ofDecimalText negative body

end Binary64

end RoleAccess

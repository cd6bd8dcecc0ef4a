/-!
# Digits

Reading digits in a base up to sixteen, most significant first, and writing
decimal ones. Whole numbers of more than 4300 decimal digits are neither read
from decimal text nor written to it; bases that are powers of two know no limit.
-/

namespace RoleAccess.Number

/-- The value of a digit; letters count from ten, in either case. -/
def digitValue (c : Char) : Nat :=
  if '0' ≤ c && c ≤ '9' then c.toNat - '0'.toNat
  else if 'a' ≤ c && c ≤ 'f' then c.toNat - 'a'.toNat + 10
  else if 'A' ≤ c && c ≤ 'F' then c.toNat - 'A'.toNat + 10
  else 0

/-- The number that digits write in a base. -/
def ofDigits (base : Nat) (digits : List Char) : Nat :=
  digits.foldl (fun value c => value * base + digitValue c) 0

/-- The decimal digits of a number. -/
def decimalDigits (n : Nat) : List Char := Nat.toDigits 10 n

/-- Digits with something before them until they have a length. -/
def padLeft (filler : Char) (length : Nat) (digits : List Char) : List Char :=
  List.replicate (length - digits.length) filler ++ digits

/-- The greatest number of decimal digits that are read or written. -/
def digitLimit : Nat := 4300

/-- The least number with too many decimal digits. -/
def digitBound : Nat := Nat.pow 10 digitLimit

/-- Whether a number has a decimal text. -/
def isWritable (n : Nat) : Bool := n < digitBound

/-- The wording for a number with too many digits; when one is read, their count
is known. -/
def limitMessage (count : Option Nat) : String :=
  "Exceeds the limit (" ++ toString digitLimit ++ " digits) for integer string conversion" ++
    (match count with
      | none => ""
      | some count => ": value has " ++ toString count ++ " digits") ++
    "; use sys.set_int_max_str_digits() to increase the limit"

/-- Hexadecimal digits, in either case. -/
def isHexDigit (c : Char) : Bool :=
  c.isDigit || ('a' ≤ c && c ≤ 'f') || ('A' ≤ c && c ≤ 'F')

end RoleAccess.Number

import RoleAccess.Text.Printable

/-!
# Quoted forms

A quoted text stands between apostrophes, or between double quotes when it
holds an apostrophe and no double quote. The quote in use and the backslash are
written after a backslash; the tab and the two line breaks have letters of
their own; any other character that is not printable is written by its code
point, in two, four or eight hexadecimal digits. A form in ASCII also writes
every character outside ASCII so.

A quoted byte string has the letter `b` in front, and writes every byte outside
printable ASCII in two hexadecimal digits.
-/

namespace RoleAccess.Text

/-- The lower-case hexadecimal digit of a number below sixteen. -/
def hexDigit (n : Nat) : Char :=
  if n < 10 then Char.ofNat ('0'.toNat + n) else Char.ofNat ('a'.toNat + (n - 10))

/-- The last `width` hexadecimal digits of a number. -/
def hexDigits (width n : Nat) : List Char :=
  match width with
  | 0 => []
  | width + 1 => hexDigits width (n / 16) ++ [hexDigit (n % 16)]

/-- A code point written with as few of two, four or eight digits as hold it. -/
def codeEscape (code : Nat) : List Char :=
  if code < 0x100 then '\\' :: 'x' :: hexDigits 2 code
  else if code < 0x10000 then '\\' :: 'u' :: hexDigits 4 code
  else '\\' :: 'U' :: hexDigits 8 code

/-- The quote for a text: apostrophes unless the text holds one and no double
quote. -/
def quoteFor (text : List Char) : Char :=
  if text.contains '\'' && !text.contains '"' then '"' else '\''

/-- One character inside `quote`s; `keeps` tells which characters may stand for
themselves. -/
def quoteChar (keeps : Char → Bool) (quote c : Char) : List Char :=
  if c = quote || c = '\\' then ['\\', c]
  else if c = '\n' then ['\\', 'n']
  else if c = '\r' then ['\\', 'r']
  else if c = '\t' then ['\\', 't']
  else if keeps c then [c]
  else codeEscape c.toNat

/-- The quoted form of a text; `keeps` tells which characters may stand for
themselves. -/
def quotedBy (keeps : Char → Bool) (text : String) : String :=
  let quote := quoteFor text.toList
  String.ofList (quote :: text.toList.flatMap (quoteChar keeps quote) ++ [quote])

/-- The quoted form of a text. -/
def quoted (text : String) : String := quotedBy isPrintable text

/-- The quoted form of a text in ASCII. -/
def quotedAscii (text : String) : String :=
  quotedBy (fun c => c.toNat < 0x80 && isPrintable c) text

/-- One byte inside `quote`s. -/
def quoteByte (quote : Char) (byte : UInt8) : List Char :=
  if byte < 0x80 && 0x20 ≤ byte && byte ≠ 0x7F || byte = 0x09 || byte = 0x0A || byte = 0x0D then
    quoteChar isPrintable quote (Char.ofNat byte.toNat)
  else codeEscape byte.toNat

/-- The quoted form of a byte string. -/
def quotedBytes (bytes : List UInt8) : String :=
  let quote := quoteFor (bytes.map fun byte => Char.ofNat byte.toNat)
  String.ofList ('b' :: quote :: bytes.flatMap (quoteByte quote) ++ [quote])

end RoleAccess.Text

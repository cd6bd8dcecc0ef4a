import RoleAccess.Number.Places
import RoleAccess.Text.Quoted

/-!
# Directives of templates

A directive such as `%(message)s` stands for a field of a record. After the
percent sign it has a field in parentheses, then perhaps flags, a width and a
precision after a point, perhaps a letter `h`, `l` or `L` without meaning, and
last a letter for the form:

* `s` for the plain text of the value, `r` for its display, and `a` for its
  display in ASCII; a precision cuts them;
* `d`, `i`, `u` for decimal digits, `o` for octal, `x` and `X` for hexadecimal
  ones; a precision is their least number;
* `f`, `e`, `g` and their capitals for a number with places, with an exponent, or
  with significant digits; a precision is their count, and six if there is none;
* `c` for one character;
* `%` for a percent sign, whatever the value.

The flag `-` puts the text to the left of its width, `0` fills the width of a
number with zeros, `+` and the blank put a sign before a number, and `#` shows
the base, or the point and the zeros after it.

A value can be used once. A directive without a field uses the value that is left
over, which is the whole record at the start of a template; a star in the place of
a width or a precision uses it up as well, and has to find a number.
-/

namespace RoleAccess.Log

/-- The value of a field. -/
inductive FieldValue where
  | text (content : String)
  | number (value : Nat)
  /-- A value that has one text, which is also its display. -/
  | sign (display : String)
  /-- A value of which no more is known than how its plain text, its display and
  its display in ASCII start. -/
  | opening (plain display ascii : String)
  deriving DecidableEq, Repr

/-- A directive of a template. -/
structure Directive where
  field : Option String := none
  flags : List Char := []
  width : Nat := 0
  precision : Option Nat := none
  /-- The number of stars. -/
  stars : Nat := 0
  form : Char
  deriving DecidableEq, Repr

namespace Directive

/-- The flags of directives. -/
def flagCharacters : List Char := ['#', '0', '+', ' ', '-']

/-- Takes a number off the front; no digits count as zero. -/
def takeNumber (text : List Char) : Nat × List Char :=
  (Number.ofDigits 10 (text.takeWhile Char.isDigit), text.dropWhile Char.isDigit)

/-- Takes a count off the front: the number of stars in its place, the number, and
the rest. -/
def takeCount : List Char → Nat × Nat × List Char
  | '*' :: rest => (1, 0, rest)
  | text => (0, takeNumber text)

/-- Takes a precision off the front, if there is one, in the same way. -/
def takePrecision : List Char → Nat × Option Nat × List Char
  | '.' :: rest =>
      let (stars, precision, rest) := takeCount rest
      (stars, some precision, rest)
  | text => (0, none, text)

/-- Takes a field in parentheses off the front; without a result if it does not
end. -/
def takeField? : List Char → Option (Option String × List Char)
  | '(' :: rest =>
      let field := rest.takeWhile (· ≠ ')')
      match rest.drop field.length with
      | [] => none
      | _ :: rest => some (some (String.ofList field), rest)
  | text => some (none, text)

/-- Leaves out a letter without meaning at the front. -/
def dropSize : List Char → List Char
  | 'h' :: rest | 'l' :: rest | 'L' :: rest => rest
  | text => text

/-- The bound of widths and precisions. -/
def countBound : Nat := 0x80000000

/-- The directive after a percent sign, and its length. -/
def ofChars? (text : List Char) : Option (Directive × Nat) := do
  let (field, rest) ← takeField? text
  let flags := rest.takeWhile flagCharacters.contains
  let (widthStars, width, rest) := takeCount (rest.drop flags.length)
  let (precisionStars, precision, rest) := takePrecision rest
  let form :: rest := dropSize rest | none
  guard (width < countBound && precision.getD 0 < countBound)
  return (⟨field, flags, width, precision, widthStars + precisionStars, form⟩,
    text.length - rest.length)

/-- Whether a directive has a flag. -/
def has (directive : Directive) (flag : Char) : Bool := directive.flags.contains flag

/-- A text in at least the width of a directive. -/
def fit (directive : Directive) (text : List Char) : List Char :=
  if directive.has '-' then text ++ List.replicate (directive.width - text.length) ' '
  else Number.padLeft ' ' directive.width text

/-- A text cut to the precision of a directive, in at least its width. -/
def fitText (directive : Directive) (text : String) : List Char :=
  directive.fit
    (match directive.precision with
      | some count => text.toList.take count
      | none => text.toList)

/-- The sign that a directive puts before a number. -/
def signOf (directive : Directive) : List Char :=
  if directive.has '+' then ['+'] else if directive.has ' ' then [' '] else []

/-- A number in at least the width of a directive, after a sign and a mark. -/
def fitNumber (directive : Directive) (mark number : List Char) : List Char :=
  let front := directive.signOf ++ mark
  if directive.has '0' && !directive.has '-' then
    front ++ Number.padLeft '0' (directive.width - front.length) number
  else directive.fit (front ++ number)

/-- A whole number with the digits of a base; the mark of the base is shown if the
directive asks for it. -/
def fitDigits (directive : Directive) (mark : List Char) (digits : List Char) : List Char :=
  directive.fitNumber (if directive.has '#' then mark else [])
    (Number.padLeft '0' (directive.precision.getD 0) digits)

/-- A number with places; `write` gets to know whether the point is kept, and the
precision. -/
def fitPlaces (directive : Directive) (write : Bool → Nat → List Char) : List Char :=
  directive.fitNumber [] (write (directive.has '#') (directive.precision.getD 6))

/-- Whether a letter is one for texts. -/
def isTextual (form : Char) : Bool := form = 's' || form = 'r' || form = 'a'

/-- A number by a directive, if the directive has a form for numbers. -/
def fitNatural? (directive : Directive) (n : Nat) : Option (List Char) :=
  match directive.form with
  | 'd' | 'i' | 'u' => some (directive.fitDigits [] (Number.decimalDigits n))
  | 'o' => some (directive.fitDigits ['0', 'o'] (Nat.toDigits 8 n))
  | 'x' => some (directive.fitDigits ['0', 'x'] (Nat.toDigits 16 n))
  | 'X' => some (directive.fitDigits ['0', 'X'] ((Nat.toDigits 16 n).map Char.toUpper))
  | 'f' | 'F' => some (directive.fitPlaces fun keeps places => Number.fixed keeps places n)
  | 'e' => some (directive.fitPlaces fun keeps places => Number.scientific keeps places n)
  | 'g' => some (directive.fitPlaces fun keeps count => Number.general keeps count n)
  | 'E' => some (directive.fitPlaces fun keeps places =>
      (Number.scientific keeps places n).map Char.toUpper)
  | 'G' => some (directive.fitPlaces fun keeps count =>
      (Number.general keeps count n).map Char.toUpper)
  | 'c' => some (directive.fit [Char.ofNat n])
  | form => if isTextual form then some (directive.fitText (toString n)) else none

/-- A text by a directive, if the directive has a form for the text. -/
def fitString? (directive : Directive) (text : String) : Option (List Char) :=
  match directive.form with
  | 's' => some (directive.fitText text)
  | 'r' => some (directive.fitText (Text.quoted text))
  | 'a' => some (directive.fitText (Text.quotedAscii text))
  | 'c' =>
      match text.toList with
      | [c] => some (directive.fit [c])
      | _ => none
  | _ => none

/-- The start of a text, cut to the precision of a directive: it has to be cut, and
no later than the start ends. -/
def fitOpening? (directive : Directive) (start : String) : Option (List Char) :=
  match directive.precision with
  | none => none
  | some count => if count ≤ start.length then some (directive.fitText start) else none

/-- A value by a directive, if the directive has a form for it. -/
def fitValue? (directive : Directive) : FieldValue → Option (List Char)
  | .text content => directive.fitString? content
  | .number value => directive.fitNatural? value
  | .sign display =>
      if isTextual directive.form then some (directive.fitText display) else none
  | .opening plain display ascii =>
      match directive.form with
      | 's' => directive.fitOpening? plain
      | 'r' => directive.fitOpening? display
      | 'a' => directive.fitOpening? ascii
      | _ => none

/-- Uses the value that is left up for a number of stars. -/
def spend? : (stars : Nat) → Option FieldValue → Option (Option FieldValue)
  | 0, left => some left
  | stars + 1, some (.number _) => spend? stars none
  | _ + 1, _ => none

/-- What a directive stands for, and the value that is left after it. -/
def render? (directive : Directive) (left : Option FieldValue) :
    Option (List Char × Option FieldValue) := do
  let left ← spend? directive.stars left
  if directive.form = '%' then return (['%'], left)
  else return (← directive.fitValue? (← left), none)

end Directive

end RoleAccess.Log

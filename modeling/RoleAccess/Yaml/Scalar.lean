import RoleAccess.Number.Decimal
import RoleAccess.Value.Text

/-!
# Values of plain scalars

The form of a plain scalar decides its type. The forms are tried in order: truth
values, numbers with a point, whole numbers, null, dates, stamps; a scalar of no
such form is a text. Digits may have underscores between them. Whole numbers are
binary, octal, hexadecimal, decimal, or written in base sixty with colons; an
exponent needs a point before it and a sign.
-/

namespace RoleAccess.Yaml.Scalar

/-- Why a scalar that is written as one has no value. -/
inductive Unreadable where
  /-- An escape has a number that is no code point. -/
  | noCharacter
  /-- An escape has a number of 32 bits with the first bit set. -/
  | escapeTooLarge
  /-- There are no digits between the underscores. -/
  | noDigits (base : Nat)
  /-- There are more decimal digits than are read. -/
  | tooManyDigits (count : Nat)
  /-- A number in base sixty has a part of too great a weight. -/
  | tooHeavy
  | yearZero
  | badMonth
  | badDay
  | badHour
  | badMinute
  | badSecond
  /-- A zone is a day or more ahead or behind. -/
  | badOffset (minutes : Int)
  deriving DecidableEq, Repr

/-- The wording of the cause. -/
def Unreadable.message : Unreadable → String
  | noCharacter => "chr() arg not in range(0x110000)"
  | escapeTooLarge => "the number of an escape is too large"
  | noDigits base => "invalid literal for int() with base " ++ toString base ++ ": ''"
  | tooManyDigits count => Number.limitMessage (some count)
  | tooHeavy => "int too large to convert to float"
  | yearZero => "year 0 is out of range"
  | badMonth => "month must be in 1..12"
  | badDay => "day is out of range for month"
  | badHour => "hour must be in 0..23"
  | badMinute => "minute must be in 0..59"
  | badSecond => "second must be in 0..59"
  | badOffset minutes =>
      "offset must be a timedelta strictly between -timedelta(hours=24) and " ++
        "timedelta(hours=24), not " ++ Stamp.spanDisplay minutes ++ "."

/-- The name of the kind of error that the cause leads to. -/
def Unreadable.kind : Unreadable → String
  | escapeTooLarge | tooHeavy => "OverflowError"
  | _ => "ValueError"

/-- Whether a character is a decimal digit or an underscore. -/
def isDigitOrMark (c : Char) : Bool := c.isDigit || c = '_'

/-- Whether a text starts with a digit and goes on with digits and underscores. -/
def isDigits : List Char → Bool
  | [] => false
  | first :: rest => first.isDigit && rest.all isDigitOrMark

/-- The text without underscores. -/
def withoutMarks (text : List Char) : List Char := text.filter (· ≠ '_')

/-- Takes a sign off the front; the flag tells a minus. -/
def takeSign : List Char → Bool × List Char
  | '-' :: rest => (true, rest)
  | '+' :: rest => (false, rest)
  | text => (false, text)

/-- An exponent: nothing, or the letter with a sign and digits. -/
def isExponent : List Char → Bool
  | [] => true
  | letter :: sign :: digits =>
      (letter = 'e' || letter = 'E') && (sign = '-' || sign = '+') &&
        !digits.isEmpty && digits.all Char.isDigit
  | _ => false

/-- Digits and underscores, then perhaps an exponent. -/
def isFraction (text : List Char) : Bool := isExponent (text.dropWhile isDigitOrMark)

/-- A later part of a number in base sixty: one digit, or two below sixty. -/
def isSixtieth : List Char → Bool
  | [d] => d.isDigit
  | [t, d] => '0' ≤ t && t ≤ '5' && d.isDigit
  | _ => false

/-- The parts of a number in base sixty; there are at least two. -/
def sixtieths? (text : List Char) : Option (List (List Char)) :=
  match text.splitOn ':' with
  | first :: second :: rest =>
      if isDigits first && (second :: rest).all isSixtieth then some (first :: second :: rest)
      else none
  | _ => none

/-- The number with its sign. -/
def signed (negative : Bool) (x : Binary64) : Binary64 := if negative then x.neg else x

/-- Whether the first of some parts in base sixty has a weight that is no finite
number. -/
def isTooHeavy (parts : List (List Char)) : Bool :=
  Binary64.ofNat (Nat.pow 60 (parts.length - 1)) = .infinite false

/-- Adds up the parts of a number in base sixty from the last to the first. -/
def addSixtieths : (base : Nat) → Binary64 → List Binary64 → Binary64
  | _, sum, [] => sum
  | base, sum, part :: parts =>
      addSixtieths (base * 60) (sum.addMagnitudes (part.mulMagnitudes (.ofNat base))) parts

/-- A number with a point. -/
def float? (text : List Char) : Option (Except Unreadable Binary64) :=
  let (negative, body) := takeSign text
  let (whole, point) := Binary64.cutAt (· = '.') body
  match point with
  | none => none
  | some fraction =>
      if whole.isEmpty then
        if [['i', 'n', 'f'], ['I', 'n', 'f'], ['I', 'N', 'F']].contains fraction then
          some (.ok (.infinite negative))
        else if body.length < text.length then none
        else if [['n', 'a', 'n'], ['N', 'a', 'N'], ['N', 'A', 'N']].contains fraction then
          some (.ok .nan)
        else if (fraction.head?.any Char.isDigit) && isFraction fraction then
          some (.ok (.ofDecimalText false (withoutMarks text)))
        else none
      else if isDigits whole then
        if isFraction fraction then some (.ok (.ofDecimalText negative (withoutMarks body)))
        else none
      else
        match sixtieths? whole with
        | some parts =>
            if !fraction.all isDigitOrMark then none
            else if isTooHeavy parts then some (.error .tooHeavy)
            else
              let last := (parts.getLast?.getD []) ++ '.' :: fraction
              let numbers := (parts.dropLast ++ [last]).map fun part =>
                Binary64.ofDecimalText false (withoutMarks part)
              some (.ok (signed negative (addSixtieths 1 .zero numbers.reverse)))
        | none => none

/-- The number that digits write in a base, when there are any. -/
def digitsIn (base : Nat) (text : List Char) : Except Unreadable Nat :=
  match withoutMarks text with
  | [] => .error (.noDigits base)
  | digits => .ok (Number.ofDigits base digits)

/-- The number that decimal digits write, when they are not too many. -/
def decimal (text : List Char) : Except Unreadable Nat :=
  let digits := withoutMarks text
  if Number.digitLimit < digits.length then .error (.tooManyDigits digits.length)
  else .ok (Number.ofDigits 10 digits)

/-- The magnitude of a whole number: of the form of none, readable, or not. -/
def magnitude? : List Char → Option (Except Unreadable Nat)
  | '0' :: rest =>
      match rest with
      | [] => some (.ok 0)
      | 'b' :: digits =>
          if !digits.isEmpty && digits.all (fun c => c = '0' || c = '1' || c = '_') then
            some (digitsIn 2 digits)
          else none
      | 'x' :: digits =>
          if !digits.isEmpty && digits.all (fun c => Number.isHexDigit c || c = '_') then
            some (digitsIn 16 digits)
          else none
      | digits =>
          if digits.all (fun c => ('0' ≤ c && c ≤ '7') || c = '_') then
            some (.ok (Number.ofDigits 8 (withoutMarks digits)))
          else none
  | text =>
      if isDigits text then some (decimal text)
      else
        (sixtieths? text).map fun parts =>
          parts.foldlM (fun value part => (decimal part).map (value * 60 + ·)) 0

/-- A whole number. -/
def int? (text : List Char) : Option (Except Unreadable Int) :=
  let (negative, body) := takeSign text
  (magnitude? body).map fun magnitude =>
    magnitude.map fun n => if negative then -(n : Int) else n

/-- The number of days of a month. -/
def daysIn (year month : Nat) : Nat :=
  if month = 2 then
    if year % 4 = 0 && (year % 100 ≠ 0 || year % 400 = 0) then 29 else 28
  else if month = 4 || month = 6 || month = 9 || month = 11 then 30
  else 31

/-- Why there is no such day. -/
def dayFault? (year month day : Nat) : Option Unreadable :=
  if year = 0 then some .yearZero
  else if month = 0 || 12 < month then some .badMonth
  else if day = 0 || daysIn year month < day then some .badDay
  else none

/-- The number that digits of a count between two bounds write. -/
def count? (least most : Nat) (digits : List Char) : Option Nat :=
  if least ≤ digits.length && digits.length ≤ most && digits.all Char.isDigit then
    some (Number.ofDigits 10 digits)
  else none

/-- A date: four, two and two digits with hyphens between them. -/
def date? (text : List Char) : Option (Except Unreadable Value) :=
  match text.splitOn '-' with
  | [year, month, day] => do
      let y ← count? 4 4 year
      let m ← count? 2 2 month
      let d ← count? 2 2 day
      return match dayFault? y m d with
        | some cause => .error cause
        | none => .ok (.date y m d)
  | _ => none

/-- The text after what parts a date and a time of day: one letter, or blanks. -/
def afterDate? : List Char → Option (List Char)
  | 'T' :: rest | 't' :: rest => some rest
  | ' ' :: rest | '\t' :: rest => some (rest.dropWhile fun c => c = ' ' || c = '\t')
  | _ => none

/-- The minutes in hours and perhaps minutes. -/
def span? (text : List Char) : Option Nat :=
  match text.splitOn ':' with
  | [hours] => (count? 1 2 hours).map (· * 60)
  | [hours, minutes] => do return (← count? 1 2 hours) * 60 + (← count? 2 2 minutes)
  | _ => none

/-- How far a zone is ahead in minutes: the letter for not at all, or a sign and a
span. -/
def offset? : List Char → Option Int
  | ['Z'] => some 0
  | '+' :: rest => (span? rest).map fun minutes => minutes
  | '-' :: rest => (span? rest).map fun minutes => -minutes
  | _ => none

/-- The microseconds in the digits after a point; later digits do not count. -/
def microseconds (digits : List Char) : Nat :=
  Number.ofDigits 10 ((digits ++ List.replicate 6 '0').take 6)

/-- What stands after the seconds: perhaps a point with digits, perhaps a zone. -/
def fineParts? (text : List Char) : Option (Nat × Option Int) :=
  let (fraction, rest) :=
    match text with
    | '.' :: rest => (rest.takeWhile Char.isDigit, rest.dropWhile Char.isDigit)
    | rest => ([], rest)
  if rest.isEmpty then some (microseconds fraction, none)
  else
    (offset? (rest.dropWhile fun c => c = ' ' || c = '\t')).map fun offset =>
      (microseconds fraction, some offset)

/-- Why there is no such stamp. -/
def stampFault? (stamp : Stamp) : Option Unreadable :=
  let minutes := stamp.offset.getD 0
  if 1440 ≤ minutes.natAbs then some (.badOffset minutes)
  else
    match dayFault? stamp.year stamp.month stamp.day with
    | some cause => some cause
    | none =>
        if 23 < stamp.hour then some .badHour
        else if 59 < stamp.minute then some .badMinute
        else if 59 < stamp.second then some .badSecond
        else none

/-- A date with a time of day: months, days and hours may have one digit. -/
def stamp? (text : List Char) : Option (Except Unreadable Value) := do
  let date := text.takeWhile fun c => c.isDigit || c = '-'
  let rest ← afterDate? (text.drop date.length)
  let time := rest.takeWhile fun c => c.isDigit || c = ':'
  let (microsecond, offset) ← fineParts? (rest.drop time.length)
  match date.splitOn '-', time.splitOn ':' with
  | [year, month, day], [hour, minute, second] =>
      let stamp : Stamp :=
        { year := ← count? 4 4 year, month := ← count? 1 2 month, day := ← count? 1 2 day
          hour := ← count? 1 2 hour, minute := ← count? 2 2 minute, second := ← count? 2 2 second
          microsecond, offset }
      return match stampFault? stamp with
        | some cause => .error cause
        | none => .ok (.stamp stamp)
  | _, _ => none

/-- The words for true. -/
def trueWords : List String :=
  ["yes", "Yes", "YES", "true", "True", "TRUE", "on", "On", "ON"]

/-- The words for false. -/
def falseWords : List String :=
  ["no", "No", "NO", "false", "False", "FALSE", "off", "Off", "OFF"]

/-- The words for null, the empty one among them. -/
def nullWords : List String := ["", "~", "null", "Null", "NULL"]

/-- The value of a plain scalar. -/
def valueOf (text : List Char) : Except Unreadable Value :=
  let word := String.ofList text
  if trueWords.contains word then .ok (.bool true)
  else if falseWords.contains word then .ok (.bool false)
  else
    match float? text with
    | some x => x.map Value.float
    | none =>
        match int? text with
        | some n => n.map Value.int
        | none =>
            if nullWords.contains word then .ok .null
            else ((date? text).orElse fun _ => stamp? text).getD (.ok (.text word))

end RoleAccess.Yaml.Scalar

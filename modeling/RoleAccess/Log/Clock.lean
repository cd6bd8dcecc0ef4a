import RoleAccess.Log.Moment
import RoleAccess.Number.Digits
import RoleAccess.Text.Capital

/-!
# Templates for the time

In a template for the time, a percent sign and a letter stand for a part of the
time: `%Y` for the year, `%m` for the month and so on. Between them there may be

* flags: `0`, `_` and `-` fill a number with zeros, with blanks or not at all,
  `^` makes capitals of letters, and `#` the less usual case;
* a width, at least which is filled;
* one of the letters `E` and `O`, which ask for a form that the letter may not
  have.

What is none of this stays as it is, in the given width. A text that is far longer
than its template is left out.
-/

namespace RoleAccess.Log.Clock

/-- A place in a template that stands for a part of the time. -/
structure Slot where
  flags : List Char := []
  width : Nat := 0
  variant : Option Char := none
  letter : Option Char := none
  /-- The place as it is written. -/
  source : List Char := []
  deriving DecidableEq, Repr

namespace Slot

/-- Takes the letter for an uncommon form off the front. -/
def takeVariant : List Char → Option Char × List Char
  | 'E' :: rest => (some 'E', rest)
  | 'O' :: rest => (some 'O', rest)
  | text => (none, text)

/-- The place that starts with a percent sign before the given text. -/
def ofChars (text : List Char) : Slot :=
  let flags := text.takeWhile ['_', '-', '0', '^', '#'].contains
  let digits := (text.drop flags.length).takeWhile Char.isDigit
  let rest := text.drop (flags.length + digits.length)
  let (variant, rest) := takeVariant rest
  { flags, width := Number.ofDigits 10 digits, variant, letter := rest.head?
    source := '%' :: text.take (text.length - (rest.drop 1).length) }

/-- Whether a place has a flag. -/
def has (slot : Slot) (flag : Char) : Bool := slot.flags.contains flag

/-- The flag that tells how the place is filled: the last of them. -/
def filler? (slot : Slot) : Option Char :=
  slot.flags.reverse.find? ['_', '-', '0'].contains

/-- A text in the width of a place. -/
def fit (slot : Slot) (text : List Char) : List Char :=
  Number.padLeft (if slot.filler? = some '0' then '0' else ' ') slot.width text

/-- A number with a least count of digits, filled by the given character if the
place does not tell. -/
def fitNumber (slot : Slot) (usual : Char) (least : Nat) (digits : List Char) : List Char :=
  match slot.filler? with
  | some '-' => slot.fit digits
  | some '_' => Number.padLeft ' ' (max least slot.width) digits
  | some _ => Number.padLeft '0' (max least slot.width) digits
  | none => Number.padLeft usual (max least slot.width) digits

/-- Text in capitals of the same length. -/
def capitals (text : List Char) : List Char := text.map Text.upper

/-- A text that is in capitals if the place asks for them. -/
def plainText (slot : Slot) (text : String) : List Char :=
  slot.fit (if slot.has '^' then capitals text.toList else text.toList)

/-- A name, whose less usual case is capitals. -/
def nameText (slot : Slot) (text : String) : List Char :=
  slot.fit (if slot.has '^' || slot.has '#' then capitals text.toList else text.toList)

/-- A text in capitals, whose less usual case is the small one. -/
def capitalText (slot : Slot) (text : String) : List Char :=
  if slot.has '#' then slot.fit (text.toList.map Char.toLower) else slot.plainText text

/-- A number that is filled with zeros. -/
def zeros (slot : Slot) (least n : Nat) : List Char :=
  slot.fitNumber '0' least (Number.decimalDigits n)

/-- A number that is filled with blanks. -/
def blanks (slot : Slot) (least n : Nat) : List Char :=
  slot.fitNumber ' ' least (Number.decimalDigits n)

/-- How far the zone is ahead: a sign, and hours and minutes in four digits. -/
def offsetText (slot : Slot) (minutes : Int) : List Char :=
  slot.fit [if minutes < 0 then '-' else '+'] ++
    slot.zeros 4 (minutes.natAbs / 60 * 100 + minutes.natAbs % 60)

/-- Whether a letter has an uncommon form, or does not care for it. -/
def hasVariant : (variant letter : Char) → Bool
  | 'E', letter => "cCxXyYntPpRrsTuZz%".toList.contains letter
  | _, letter => "bBhCdeHIkljMmSUVWwuygGntPpRrsTZz%".toList.contains letter

end Slot

/-- A number in two digits. -/
def two (n : Nat) : String := String.ofList (Number.padLeft '0' 2 (Number.decimalDigits n))

/-- The first three letters of a name. -/
def short (name : String) : String := String.ofList (name.toList.take 3)

/-- The time of day. -/
def timeOfDay (now : Moment) : String :=
  two now.hour ++ ":" ++ two now.minute ++ ":" ++ two now.second

/-- The day in numbers, month first. -/
def numbers (now : Moment) : String :=
  two now.month ++ "/" ++ two now.day ++ "/" ++ two (now.year % 100)

/-- The day and the time of day in words and numbers. -/
def full (now : Moment) : String :=
  short now.weekdayName ++ " " ++ short now.monthName ++ " " ++
    String.ofList (Number.padLeft ' ' 2 (Number.decimalDigits now.day)) ++ " " ++
    timeOfDay now ++ " " ++ toString now.year

/-- What stands in a place with the given letter. -/
def partText? (now : Moment) (slot : Slot) : Char → Option (List Char)
  | '%' => some (slot.fit ['%'])
  | 'n' => some (slot.fit ['\n'])
  | 't' => some (slot.fit ['\t'])
  | 'a' => some (slot.nameText (short now.weekdayName))
  | 'A' => some (slot.nameText now.weekdayName)
  | 'b' | 'h' => some (slot.nameText (short now.monthName))
  | 'B' => some (slot.nameText now.monthName)
  | 'c' => some (slot.plainText (full now))
  | 'C' => some (slot.zeros 1 (now.year / 100))
  | 'd' => some (slot.zeros 2 now.day)
  | 'D' | 'x' => some (slot.plainText (numbers now))
  | 'e' => some (slot.blanks 2 now.day)
  | 'F' => some (slot.plainText (toString now.year ++ "-" ++ two now.month ++ "-" ++ two now.day))
  | 'g' => some (slot.zeros 2 (now.weekYear % 100))
  | 'G' => some (slot.zeros 4 now.weekYear)
  | 'H' => some (slot.zeros 2 now.hour)
  | 'I' => some (slot.zeros 2 now.dialHour)
  | 'j' => some (slot.zeros 3 (now.yearDay + 1))
  | 'k' => some (slot.blanks 2 now.hour)
  | 'l' => some (slot.blanks 2 now.dialHour)
  | 'm' => some (slot.zeros 2 now.month)
  | 'M' => some (slot.zeros 2 now.minute)
  | 'p' => some (slot.capitalText now.half)
  | 'P' => some (slot.fit (now.half.toList.map Char.toLower))
  | 'r' => some (slot.plainText (two now.dialHour ++ ":" ++ two now.minute ++ ":" ++
      two now.second ++ " " ++ now.half))
  | 'R' => some (slot.plainText (two now.hour ++ ":" ++ two now.minute))
  | 's' => some (slot.fitNumber ' ' 1 (toString now.seconds).toList)
  | 'S' => some (slot.zeros 2 now.second)
  | 'T' | 'X' => some (slot.plainText (timeOfDay now))
  | 'u' => some (slot.zeros 1 (now.daysSince 1 + 1))
  | 'U' => some (slot.zeros 2 (now.week 0))
  | 'V' => some (slot.zeros 2 now.yearWeek)
  | 'w' => some (slot.zeros 1 now.weekday)
  | 'W' => some (slot.zeros 2 (now.week 1))
  | 'y' => some (slot.zeros 2 (now.year % 100))
  | 'Y' => some (slot.zeros 1 now.year)
  | 'z' => some (slot.offsetText now.offset)
  | 'Z' => some (slot.capitalText now.zone)
  | _ => none

/-- The text of a place that stands for nothing: the place as it is written. The
letters for months have their case all the same. -/
def asWritten (slot : Slot) : List Char :=
  let text := String.ofList slot.source
  if slot.letter.any ['b', 'B', 'h'].contains then slot.nameText text else slot.plainText text

/-- What stands in a place: a part of the time, or the place as it is written. -/
def slotText (now : Moment) (slot : Slot) : List Char :=
  match slot.letter with
  | none => asWritten slot
  | some letter =>
      if slot.variant.all (Slot.hasVariant · letter) then
        (partText? now slot letter).getD (asWritten slot)
      else asWritten slot

/-- Replaces the places of a template, none of which is wider than `room`; `skip`
counts the characters of one that has been replaced already. -/
def renderFrom (now : Moment) (room : Nat) : (skip : Nat) → List Char → List Char
  | _, [] => []
  | skip + 1, _ :: rest => renderFrom now room skip rest
  | 0, c :: rest =>
      if c = '%' then
        let slot := Slot.ofChars rest
        slotText now { slot with width := min slot.width room } ++
          renderFrom now room (slot.source.length - 1) rest
      else c :: renderFrom now room 0 rest

/-- The length that the text of a template has to stay below: the first of 1024,
2048 and so on that is 256 times the length of the template or more. -/
def room (length : Nat) : Nat :=
  1024 * Nat.pow 2 ((List.range length).takeWhile fun k => 1024 * Nat.pow 2 k < 256 * length).length

/-- The text that a template has at a moment. -/
def render (now : Moment) (template : String) : String :=
  let room := room template.length
  let text := renderFrom now room 0 template.toList
  if text.length < room then String.ofList text else ""

end RoleAccess.Log.Clock

import RoleAccess.Number.Decimal
import RoleAccess.Text.Quoted
import RoleAccess.Value.Basic

/-!
# Text of dynamic values

A value has two texts. Its plain text is what an environment binds and what a
message shows of a name; its display is what a message shows of a value that has
the wrong type. They differ for texts, which a display puts in quotes, and for
the few values that a display names together with their type. The items of a
collection are always displayed.

A value that holds a whole number of too many digits has no text, which those
who ask for one have to check (`isWritable`).
-/

namespace RoleAccess

/-- The display of a name that may be absent. -/
def displayName : Option String → String
  | none => "None"
  | some name => Text.quoted name

/-- The display of a segment kind. -/
def SegmentKind.display : SegmentKind → String
  | .literal => "<SegmentKind.LITERAL: 'literal'>"
  | .bound => "<SegmentKind.VARIABLE: 'variable'>"
  | .member => "<SegmentKind.SET: 'set'>"
  | .universal => "<SegmentKind.UNIVERSAL: 'universal'>"
  | .other name => Text.quoted name

/-- The display of a segment pattern. -/
def SegmentPattern.display (pattern : SegmentPattern) : String :=
  "PermissionKind(kind=" ++ pattern.kind.display ++ ", name=" ++ displayName pattern.name ++ ")"

/-- The display of an effect. -/
def Effect.display : Effect → String
  | .allow => "<Effect.ALLOW: 'allow'>"
  | .deny => "<Effect.DENY: 'deny'>"

namespace Value

/-- A number in at least `width` decimal digits. -/
def padded (width n : Nat) : String :=
  String.ofList (Number.padLeft '0' width (Number.decimalDigits n))

end Value

namespace Stamp

/-- How far a zone is ahead: a sign, and hours and minutes in two digits each. -/
def offsetText (minutes : Int) : String :=
  (if minutes < 0 then "-" else "+") ++ Value.padded 2 (minutes.natAbs / 60) ++ ":" ++
    Value.padded 2 (minutes.natAbs % 60)

/-- The text of a stamp; microseconds are left out where there are none. -/
def plain (stamp : Stamp) : String :=
  Value.padded 4 stamp.year ++ "-" ++ Value.padded 2 stamp.month ++ "-" ++
    Value.padded 2 stamp.day ++ " " ++ Value.padded 2 stamp.hour ++ ":" ++
    Value.padded 2 stamp.minute ++ ":" ++ Value.padded 2 stamp.second ++
    (if stamp.microsecond = 0 then "" else "." ++ Value.padded 6 stamp.microsecond) ++
    (stamp.offset.map offsetText).getD ""

/-- The display of a span of minutes: whole days and the seconds after them. -/
def spanDisplay (minutes : Int) : String :=
  let days := minutes / 1440
  let seconds := minutes % 1440 * 60
  let parts := (if days = 0 then [] else ["days=" ++ toString days]) ++
    if seconds = 0 then [] else ["seconds=" ++ toString seconds]
  "datetime.timedelta(" ++ (if parts.isEmpty then "0" else ", ".intercalate parts) ++ ")"

/-- The display of a zone; the one that is not ahead has a name. -/
def offsetDisplay (minutes : Int) : String :=
  if minutes = 0 then "datetime.timezone.utc"
  else "datetime.timezone(" ++ spanDisplay minutes ++ ")"

/-- The display of a stamp; seconds and microseconds are left out from the end where
there are none. -/
def display (stamp : Stamp) : String :=
  let fine :=
    if stamp.microsecond ≠ 0 then [stamp.second, stamp.microsecond]
    else if stamp.second ≠ 0 then [stamp.second]
    else []
  let numbers := [stamp.year, stamp.month, stamp.day, stamp.hour, stamp.minute] ++ fine
  let zone := (stamp.offset.map fun minutes => "tzinfo=" ++ offsetDisplay minutes).toList
  "datetime.datetime(" ++ ", ".intercalate (numbers.map toString ++ zone) ++ ")"

end Stamp

namespace Value

/-- Joins displays with commas between an opening and a closing text. -/
def enclosed (opening closing : String) (parts : List String) : String :=
  opening ++ ", ".intercalate parts ++ closing

/-- The display of a tuple, which keeps a comma after a lone item. -/
def tupleDisplay : List String → String
  | [item] => "(" ++ item ++ ",)"
  | items => enclosed "(" ")" items

/-- The display of a set; the empty one has no members to show. -/
def setDisplay (members : List String) : String :=
  if members.isEmpty then "set()" else enclosed "\x7b" "\x7d" members

/-- The display of a frozen set. -/
def frozensetDisplay (members : List String) : String :=
  if members.isEmpty then "frozenset()" else "frozenset(" ++ enclosed "\x7b" "\x7d" members ++ ")"

mutual

/-- The display of a value. -/
def display : Value → String
  | null => "None"
  | bool value => if value then "True" else "False"
  | int value => toString value
  | float value => value.render
  | text value => Text.quoted value
  | bytes value => Text.quotedBytes value
  | date year month day =>
      "datetime.date(" ++ toString year ++ ", " ++ toString month ++ ", " ++ toString day ++ ")"
  | stamp value => value.display
  | effect value => value.display
  | segment value => value.display
  | list items => enclosed "[" "]" (displays items)
  | tuple items => tupleDisplay (displays items)
  | set members => setDisplay (displays members)
  | frozenset members => frozensetDisplay (displays members)
  | map entries => enclosed "\x7b" "\x7d" (entryDisplays entries)

/-- The displays of the items of a collection. -/
def displays : List Value → List String
  | [] => []
  | item :: rest => display item :: displays rest

/-- The displays of the entries of a mapping. -/
def entryDisplays : List (Value × Value) → List String
  | [] => []
  | (key, value) :: rest => (display key ++ ": " ++ display value) :: entryDisplays rest

end

/-- The plain text of a value. -/
def plain : Value → String
  | text value => value
  | date year month day => padded 4 year ++ "-" ++ padded 2 month ++ "-" ++ padded 2 day
  | stamp value => value.plain
  | effect .allow => "Effect.ALLOW"
  | effect .deny => "Effect.DENY"
  | segment value => value.render
  | value => value.display

/-- What some values say together: one its plain text, several the display of their
tuple, and none nothing. -/
def statement : List Value → String
  | [] => ""
  | [value] => value.plain
  | values => (tuple values).display

@[simp] theorem plain_text (value : String) : (text value).plain = value := rfl

mutual

/-- Whether a value has a text: no whole number in it has too many digits. -/
def isWritable : Value → Bool
  | int value => Number.isWritable value.natAbs
  | list items | tuple items | set items | frozenset items => areWritable items
  | map entries => entriesAreWritable entries
  | _ => true

/-- Whether all items of a collection have texts. -/
def areWritable : List Value → Bool
  | [] => true
  | item :: rest => isWritable item && areWritable rest

/-- Whether all keys and values of a mapping have texts. -/
def entriesAreWritable : List (Value × Value) → Bool
  | [] => true
  | (key, value) :: rest => isWritable key && isWritable value && entriesAreWritable rest

end

theorem areWritable_iff (items : List Value) :
    areWritable items = true ↔ ∀ item ∈ items, item.isWritable = true := by
  induction items with
  | nil => simp [areWritable]
  | cons item rest ih => simp [areWritable, ih]

theorem areWritable_eq_false_iff (items : List Value) :
    areWritable items = false ↔ ∃ item ∈ items, ¬item.isWritable = true := by
  simp [← Bool.not_eq_true, areWritable_iff]

@[simp] theorem isWritable_text (value : String) : (text value).isWritable = true := by
  simp [isWritable]

end Value

end RoleAccess

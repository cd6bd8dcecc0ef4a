import RoleAccess.Number.Binary64
import RoleAccess.Rule.Basic
import RoleAccess.Value.Stamp

/-!
# Dynamic values

Settings and environment documents are read from text, and rules can be put
together by callers, so their parts arrive as values whose type is only known
when they are used. This module holds the type, the names of the types, the
values that count as absent (`isTruthy`), and the equality that decides when two
keys of a mapping are one key: numbers are equal when their values are, whatever
their type, and truth values count as the numbers zero and one. A float that is
not a number is equal to nothing, so a mapping may have several such keys.
-/

namespace RoleAccess

/-- A value of a type known only when it is used. -/
inductive Value where
  | null
  | bool (value : Bool)
  | int (value : Int)
  | float (value : Binary64)
  | text (value : String)
  | bytes (value : List UInt8)
  | date (year month day : Nat)
  | stamp (value : Stamp)
  | effect (value : Effect)
  | segment (value : SegmentPattern)
  | list (items : List Value)
  | tuple (items : List Value)
  | set (members : List Value)
  | frozenset (members : List Value)
  | map (entries : List (Value × Value))
  deriving Inhabited

namespace Value

/-- The name of a value's type. -/
def typeName : Value → String
  | null => "NoneType"
  | bool _ => "bool"
  | int _ => "int"
  | float _ => "float"
  | text _ => "str"
  | bytes _ => "bytes"
  | date .. => "date"
  | stamp _ => "datetime"
  | effect _ => "Effect"
  | segment _ => "PermissionKind"
  | list _ => "list"
  | tuple _ => "tuple"
  | set _ => "set"
  | frozenset _ => "frozenset"
  | map _ => "dict"

/-- Zeros, empty collections and the null value count as false, and everything
else as true. -/
def isTruthy : Value → Bool
  | null => false
  | bool value => value
  | int value => value ≠ 0
  | float value => !value.isZero
  | text value => value ≠ ""
  | bytes value => !value.isEmpty
  | date .. | stamp _ | effect _ | segment _ => true
  | list items | tuple items => !items.isEmpty
  | set members | frozenset members => !members.isEmpty
  | map entries => !entries.isEmpty

/-- Whether a value is a mapping. -/
def isMap : Value → Bool
  | map _ => true
  | _ => false

/-- The entries of a mapping; any other value has none. -/
def entries : Value → List (Value × Value)
  | map entries => entries
  | _ => []

/-- The value of a number, with whole numbers as integers. -/
def number? : Value → Option (Int ⊕ Binary64)
  | bool value => some (.inl (if value then 1 else 0))
  | int value => some (.inl value)
  | float .nan => none
  | float value =>
      match value.toInt? with
      | some n => some (.inl n)
      | none => some (.inr value)
  | _ => none

/-- The text of a text or of an effect, which is its keyword. -/
def characters? : Value → Option String
  | text value => some value
  | effect value => some value.keyword
  | _ => none

mutual

/-- Equality of values as keys of a mapping. -/
def same : Value → Value → Bool
  | tuple xs, tuple ys => sameItems xs ys
  | list xs, list ys => sameItems xs ys
  | set xs, set ys | set xs, frozenset ys | frozenset xs, set ys | frozenset xs, frozenset ys =>
      xs.length = ys.length && allAmong xs ys
  | map xs, map ys => xs.length = ys.length && allEntriesAmong xs ys
  | null, null => true
  | bytes x, bytes y => x = y
  | date a b c, date d e f => a = d && b = e && c = f
  | stamp x, stamp y => x.same y
  | segment x, segment y => x = y
  | x, y =>
      (x.number?.isSome && x.number? = y.number?) ||
        (x.characters?.isSome && x.characters? = y.characters?)

/-- Equality of two sequences, item by item. -/
def sameItems : List Value → List Value → Bool
  | [], [] => true
  | x :: xs, y :: ys => same x y && sameItems xs ys
  | _, _ => false

/-- Whether every item of one list is among those of another. -/
def allAmong : List Value → List Value → Bool
  | [], _ => true
  | x :: xs, ys => ys.any (same x) && allAmong xs ys

/-- Whether every entry of one mapping is among those of another. -/
def allEntriesAmong : List (Value × Value) → List (Value × Value) → Bool
  | [], _ => true
  | (k, v) :: rest, ys =>
      ys.any (fun entry => same k entry.1 && same v entry.2) && allEntriesAmong rest ys

end

mutual

/-- Values that can be keys of a mapping or members of a set. -/
def isKey : Value → Bool
  | list _ | set _ | map _ => false
  | tuple items => areKeys items
  | _ => true

/-- Whether all items of a sequence can be keys. -/
def areKeys : List Value → Bool
  | [] => true
  | item :: rest => isKey item && areKeys rest

end

/-- Writes an entry: a key that is already there keeps its place and its first
form, and takes the new value. -/
def putEntry (alike : Value → Value → Bool) (key value : Value) :
    List (Value × Value) → List (Value × Value)
  | [] => [(key, value)]
  | entry :: rest =>
      if alike entry.1 key then (entry.1, value) :: rest
      else entry :: putEntry alike key value rest

/-- The mapping that results from writing entries from the first to the last,
where keys that are alike are one key. -/
def ofEntriesBy (alike : Value → Value → Bool) (entries : List (Value × Value)) : Value :=
  map (entries.foldl (fun written entry => putEntry alike entry.1 entry.2 written) [])

/-- The mapping that results from writing entries from the first to the last. -/
def ofEntries : List (Value × Value) → Value := ofEntriesBy same

/-- The members of a list without repetitions, each in its first place. -/
def distinctMembers (members : List Value) : List Value :=
  members.foldl
    (fun kept member => if kept.any (same member) then kept else kept ++ [member]) []

/-- The value under a text key. -/
def lookup (name : String) : List (Value × Value) → Option Value
  | [] => none
  | (text key, value) :: rest => if key = name then some value else lookup name rest
  | _ :: rest => lookup name rest

end Value

end RoleAccess

import RoleAccess.Log.Moment

/-!
# Stamps

A stamp is a day with a time of day to the microsecond. It may tell how far its
zone is ahead; stamps that do are equal if they are one instant, and a stamp that
does not is equal to none that does.
-/

namespace RoleAccess

/-- A day and a time of day, perhaps in a zone. -/
structure Stamp where
  year : Nat
  month : Nat
  day : Nat
  hour : Nat
  minute : Nat
  second : Nat
  microsecond : Nat := 0
  /-- How many minutes the zone is ahead. -/
  offset : Option Int := none
  deriving DecidableEq, Repr

namespace Stamp

/-- The number of minutes of a stamp, told in the zone that is not ahead. -/
def minutes (stamp : Stamp) : Int :=
  ((Log.Moment.dayNumber stamp.year stamp.month stamp.day * 24 + stamp.hour) * 60 +
    stamp.minute : Nat) - stamp.offset.getD 0

/-- Equality of stamps. -/
def same (stamp other : Stamp) : Bool :=
  stamp.offset.isSome = other.offset.isSome && stamp.minutes = other.minutes &&
    stamp.second = other.second && stamp.microsecond = other.microsecond

end Stamp

end RoleAccess

import RoleAccess.Table

/-!
# The lineage of loggers

A logger stands below the nearest known logger whose name is a front of its own,
and below the root logger if there is none. A front of a name ends before one of
its points; a point right before another one does not end a front, and the empty
text is no front. Loggers become known one by one (`Lineage.add`), and one that
comes in between takes the loggers below it over from the one above.

The root logger has no name of its own here, but it counts as named `root` when a
new logger takes others over: they stay where they are if their upper logger has
a name that starts with the new one.
-/

namespace RoleAccess.Log

/-- The known loggers, each with the name of the one above it; the root logger has
the empty name. -/
structure Lineage where
  uppers : Table String String := Table.empty

namespace Lineage

/-- The fronts of a name that is given from its end, the longest first. -/
def frontsFrom : List Char → List (List Char)
  | [] => []
  | '.' :: c :: rest => (c :: rest).reverse :: frontsFrom rest
  | _ :: rest => frontsFrom rest

/-- The fronts of a name, the longest first. -/
def fronts (name : String) : List String :=
  (frontsFrom name.toList.reverse).map String.ofList

/-- Whether a logger is known. -/
def isKnown (lineage : Lineage) (name : String) : Bool := (lineage.uppers.get? name).isSome

/-- The logger above one; it is worked out for one that is not known. -/
def upper (lineage : Lineage) (name : String) : String :=
  (lineage.uppers.get? name).getD (((fronts name).find? lineage.isKnown).getD "")

/-- The name that a logger goes by when others are taken over. -/
def spokenName (name : String) : String := if name = "" then "root" else name

/-- Whether a new logger takes a known one over from the one above it. -/
def takesOver (name : String) (known upper : String) : Bool :=
  (fronts known).contains name && !name.toList.isPrefixOf (spokenName upper).toList

/-- Puts the known loggers that a new one takes over below it. -/
def entrust (name : String) (uppers : Table String String) : Table String String :=
  uppers.entries.foldl (fun changed entry =>
    if takesOver name entry.1 entry.2 then changed.put entry.1 name else changed) uppers

/-- Makes a logger known. The root logger always is. -/
def add (lineage : Lineage) (name : String) : Lineage :=
  if name = "" || lineage.isKnown name then lineage
  else ⟨(entrust name lineage.uppers).put name (lineage.upper name)⟩

/-- The lineage of loggers that have become known one after the other. -/
def ofList (names : List String) : Lineage := names.foldl add {}

/-- The names of a logger and of all above it, nearest first; `fuel` bounds their
number. -/
def chainFrom (lineage : Lineage) : (fuel : Nat) → String → List String
  | 0, _ => []
  | fuel + 1, name =>
      if name = "" then [""] else name :: chainFrom lineage fuel (lineage.upper name)

/-- The names of a logger and of all above it, nearest first. Upper names are
shorter, so their number is at most the length of the name and one. -/
def chain (lineage : Lineage) (name : String) : List String :=
  lineage.chainFrom (name.length + 1) name

end Lineage

end RoleAccess.Log

import RoleAccess.Policy.Error
import RoleAccess.Rule.Admission
import RoleAccess.Table

/-!
# Environments

An environment binds variables to texts and names sets of texts; patterns look
both up while they match. It is built from two mappings of dynamic values, whose
names and values become their plain texts: a later entry whose name has the same
plain text replaces an earlier one. A variable has to be a single value, and a
set has to be a collection; what its members are is not examined, but names,
values and members have to have a text.
-/

namespace RoleAccess

/-- Bindings of variables and named sets. -/
structure Environment where
  bindings : Table String String := Table.empty
  /-- The members of each set, without repetitions. -/
  sets : Table String (List String) := Table.empty

namespace Environment

/-- The environment that binds nothing. -/
def empty : Environment := {}

instance : Inhabited Environment := ⟨empty⟩

/-- Null and the collections cannot be the value of a variable. -/
def isSingle : Value → Bool
  | .null | .map _ | .list _ | .tuple _ | .set _ | .frozenset _ => false
  | _ => true

/-- The members that a value gives to a set: those of any collection but a
mapping. -/
def membersOf? : Value → Option (List Value)
  | .list items | .tuple items => some items
  | .set members | .frozenset members => some members
  | _ => none

/-- Binds one variable. -/
def bindVariable (bindings : Table String String) (entry : Value × Value) :
    Except EnvironmentFault (Table String String) :=
  if !entry.1.isWritable then .error .unwritable
  else if !isSingle entry.2 then .error (.badVariable entry.1 entry.2)
  else if !entry.2.isWritable then .error .unwritable
  else .ok (bindings.put entry.1.plain entry.2.plain)

/-- Names one set. -/
def bindSet (sets : Table String (List String)) (entry : Value × Value) :
    Except EnvironmentFault (Table String (List String)) :=
  if !entry.1.isWritable then .error .unwritable
  else
    match membersOf? entry.2 with
    | none => .error (.badSet entry.1 entry.2)
    | some members =>
        if !Value.areWritable members then .error .unwritable
        else .ok (sets.put entry.1.plain (members.map Value.plain).eraseDups)

/-- The environment given by a mapping of variables and a mapping of sets. -/
def build (bindings sets : List (Value × Value)) : Except EnvironmentFault Environment := do
  let bindings ← bindings.foldlM bindVariable Table.empty
  let sets ← sets.foldlM bindSet Table.empty
  return ⟨bindings, sets⟩

/-- The names of the sections of an environment document. -/
def isSectionName : Value → Bool
  | .text name => name = "variables" || name = "sets"
  | _ => false

/-- A section of a document: what counts as false counts as empty, and anything
else has to be a mapping. -/
def sectionOf (name : String) (document : List (Value × Value)) :
    Except EnvironmentFault (List (Value × Value)) :=
  let value := (Value.lookup name document).getD .null
  if value.isTruthy && !value.isMap then .error (.badSection name value) else .ok value.entries

/-- The environment that a document describes; no document describes the empty
one. -/
def ofDocument : Value → Except EnvironmentFault Environment
  | .null => .ok empty
  | .map document => do
      let unknown := (document.map Prod.fst).filter (!isSectionName ·)
      if !Value.areWritable unknown then throw .unwritable
      if !unknown.isEmpty then throw (.unknownSections unknown)
      let bindings ← sectionOf "variables" document
      let sets ← sectionOf "sets" document
      build bindings sets
  | document => .error (.badDocument document)

/-- The value bound to a variable. -/
def lookup (environment : Environment) (name : String) : Option String :=
  environment.bindings.get? name

/-- Whether a value is a member of a named set; a set that is not there has no
members. -/
def contains (environment : Environment) (name value : String) : Bool :=
  match environment.sets.get? name with
  | some members => members.contains value
  | none => false

end Environment

end RoleAccess

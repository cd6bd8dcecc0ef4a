import RoleAccess.Yaml.Node
import RoleAccess.Yaml.Scalar

/-!
# Documents

The value of a YAML text is the value of its one document, and null if it has
none. The keys of a mapping are told apart by value, and a repeated key keeps
its first place and takes its last value. Only scalars can be keys.

Values are made level by level, from the outside in: of two scalars without a
value the less deep one is reported, though it may come later in the text.
-/

namespace RoleAccess.Yaml

/-- Why a text has no value. -/
inductive ReadError where
  /-- The text is not a document of the subset. -/
  | fault (fault : Fault)
  /-- A scalar is written as one and has no value. -/
  | unreadable (cause : Scalar.Unreadable)
  deriving DecidableEq, Repr

/-- The error of a fault: an escape of a number that is no code point is a scalar
without a value. -/
def ReadError.ofFault (fault : Fault) : ReadError :=
  match fault.problem with
  | .noCharacter code =>
      .unreadable (if code < 0x80000000 then .noCharacter else .escapeTooLarge)
  | _ => .fault fault

/-- The fault of a plain scalar that stands for nothing. -/
def noValue (text : String) : ReadError := .fault ⟨.unreadableScalar text, none⟩

/-- The fault of a collection that is a key. -/
def collectionKey : ReadError := .fault ⟨.collectionKey, none⟩

/-- The value of a scalar: a quoted one is a text. -/
def scalarValue (text : List Char) (plain : Bool) : Except ReadError Value :=
  if !plain then .ok (.text (String.ofList text))
  else if text = ['='] then .error (noValue "=")
  else if text = ['<', '<'] then .error (noValue "<<")
  else (Scalar.valueOf text).mapError ReadError.unreadable

/-- Whether two keys of a mapping are one. All floats of a document that are not
numbers are one value. -/
def sameKey : Value → Value → Bool
  | .float .nan, .float .nan => true
  | x, y => x.same y

/-- Joins two lists of levels level by level. -/
def joinLevels {α : Type} : List (List α) → List (List α) → List (List α)
  | [], levels => levels
  | levels, [] => levels
  | first :: rest, other :: others => (first ++ other) :: joinLevels rest others

namespace Node

/-- Whether a node is a plain equals sign, which has no value; as a key it stands
for itself. -/
def isEqualsSign : Node → Bool
  | scalar ['='] true => true
  | _ => false

/-- Whether a node is a sequence or a mapping. -/
def isCollection : Node → Bool
  | scalar .. => false
  | _ => true

mutual

/-- What is wrong inside a node, by depth; at each depth in the order of the
text. -/
def faultLevels : Node → List (List ReadError)
  | scalar text plain =>
      match scalarValue text plain with
      | .ok _ => []
      | .error error => [[error]]
  | sequence items => [] :: itemFaults items
  | mapping entries => [] :: entryFaults entries

/-- What is wrong inside the items of a sequence, by depth. -/
def itemFaults : List Node → List (List ReadError)
  | [] => []
  | item :: rest => joinLevels (faultLevels item) (itemFaults rest)

/-- What is wrong inside the entries of a mapping, by depth. A key is not looked
into if it is a collection. -/
def entryFaults : List (Node × Node) → List (List ReadError)
  | [] => []
  | (name, content) :: rest =>
      let nameFaults :=
        if name.isEqualsSign then []
        else if name.isCollection then [[collectionKey]]
        else faultLevels name
      joinLevels nameFaults (joinLevels (faultLevels content) (entryFaults rest))

end

/-- The fault that is reported: the first of those that are least deep. -/
def fault? (node : Node) : Option ReadError := node.faultLevels.flatten.head?

mutual

/-- The value of a node without faults; a scalar that has no value counts as
null. -/
def value : Node → Value
  | scalar text plain => (scalarValue text plain).toOption.getD .null
  | sequence items => .list (values items)
  | mapping entries => Value.ofEntriesBy sameKey (entryValues entries)

/-- The values of the items of a sequence. -/
def values : List Node → List Value
  | [] => []
  | item :: rest => value item :: values rest

/-- The keys and values of the entries of a mapping. -/
def entryValues : List (Node × Node) → List (Value × Value)
  | [] => []
  | (name, content) :: rest =>
      (if name.isEqualsSign then .text "=" else value name, value content) :: entryValues rest

end

end Node

/-- The value of a text. -/
def read (text : String) : Except ReadError Value := do
  let tokens ← (Token.ofText text.toList).mapError ReadError.ofFault
  match ← (Node.ofTokens tokens).mapError ReadError.ofFault with
  | none => return .null
  | some node =>
      match node.fault? with
      | some error => throw error
      | none => return node.value

end RoleAccess.Yaml

import RoleAccess.Log.Journal
import RoleAccess.Policy.Error
import RoleAccess.Table

/-!
# Role hierarchies

Every role has at most one parent, from which it inherits. A `Hierarchy` is a
table of parents in which no role can be reached again from itself; the type
carries the result of the search for such a cycle.

The search starts from each child in turn and follows parents. Roles that an
earlier start has already led through are known to lead nowhere wrong, and end
the walk. A walk visits no child twice, so it has at most one step for each
child of the table and one more (`walk`); that many steps are all it is given.
-/

namespace RoleAccess

/-- Parents by child, in the order in which the children were first named. -/
abbrev ParentTable := Table String String

namespace ParentTable

/-- Where a walk from child to parent ends. -/
inductive WalkEnd where
  /-- At a role without parent or at a cleared one, after the roles `visited`. -/
  | ended (visited : List String)
  /-- At a role visited before; the cycle starts and ends with it. -/
  | looped (cycle : List String)
  deriving DecidableEq, Repr

/-- Walks from a role to its parents, after `visited`, until the walk ends;
`fuel` bounds the number of steps. -/
def walk (parents : ParentTable) (cleared : List String) :
    (fuel : Nat) → (visited : List String) → (role : String) → WalkEnd
  | 0, visited, _ => .ended visited
  | fuel + 1, visited, role =>
      if cleared.contains role then .ended visited
      else if visited.contains role then
        .looped (visited.dropWhile (· ≠ role) ++ [role])
      else
        match parents.get? role with
        | none => .ended (visited ++ [role])
        | some parent => walk parents cleared fuel (visited ++ [role]) parent

/-- The first cycle found from the given starts, when the roles in `cleared` are
known to reach none. -/
def findCycleFrom (parents : ParentTable) : (cleared starts : List String) → Option (List String)
  | _, [] => none
  | cleared, start :: starts =>
      match walk parents cleared (parents.size + 1) [] start with
      | .looped cycle => some cycle
      | .ended visited => findCycleFrom parents (cleared ++ visited) starts

/-- The first cycle found from the children in their order. -/
def findCycle (parents : ParentTable) : Option (List String) :=
  findCycleFrom parents [] parents.keys

/-- A role, its parent, the parent of that, and so on; `fuel` bounds the number
of parents. -/
def chain (parents : ParentTable) : (fuel : Nat) → (role : String) → List String
  | 0, role => [role]
  | fuel + 1, role =>
      match parents.get? role with
      | none => [role]
      | some parent => role :: chain parents fuel parent

/-- Enters one rule. Repeating a rule changes nothing; another parent for the
same child is an error. -/
def enter (parents : ParentTable) (rule : RoleRule) : Except PolicyError ParentTable :=
  match parents.get? rule.child with
  | none => .ok (parents.put rule.child rule.parent)
  | some existing =>
      if existing = rule.parent then .ok parents
      else .error (.duplicateParent rule.child existing rule.parent)

/-- The parents that a list of rules gives. -/
def ofRules (rules : List RoleRule) : Except PolicyError ParentTable :=
  rules.foldlM enter Table.empty

end ParentTable

/-- Parents by child, without a cycle. -/
structure Hierarchy where
  parents : ParentTable
  acyclic : parents.findCycle = none

namespace Hierarchy

/-- The hierarchy with the given parents. -/
def ofParents (parents : ParentTable) : Except PolicyError Hierarchy :=
  match h : parents.findCycle with
  | none => .ok ⟨parents, h⟩
  | some roles => .error (.cycle roles)

/-- The hierarchy that a list of rules gives. -/
def ofRules (rules : List RoleRule) : Except PolicyError Hierarchy := do
  ofParents (← ParentTable.ofRules rules)

/-- The parent of a role. -/
def parentOf (hierarchy : Hierarchy) (role : String) : Option String :=
  hierarchy.parents.get? role

/-- A role followed by all the roles that it inherits from, nearest first. -/
def ancestors (hierarchy : Hierarchy) (role : String) : List String :=
  hierarchy.parents.chain hierarchy.parents.size role

/-- The roles that some rule names, each once. -/
def roles (hierarchy : Hierarchy) : List String :=
  (hierarchy.parents.keys ++ hierarchy.parents.values).eraseDups

/-- Whether some rule names a role. -/
def contains (hierarchy : Hierarchy) (role : String) : Bool :=
  hierarchy.parents.keys.contains role || hierarchy.parents.values.contains role

/-- The number of roles that have a parent. -/
def size (hierarchy : Hierarchy) : Nat := hierarchy.parents.size

/-! ## Reports -/

/-- The logger of this module. -/
def logger : String := "rolegate.roles"

/-- What entering one rule reports: a repeated rule, or a conflict. -/
def enterRecords (parents : ParentTable) (rule : RoleRule) : List Log.Record :=
  match parents.get? rule.child with
  | none => []
  | some existing =>
      if existing = rule.parent then
        [⟨.debug, logger, "Ignoring repeated role rule: " ++ rule.render⟩]
      else
        [⟨.error, logger, "Role '" ++ rule.child ++ "' has conflicting parents '" ++ existing ++
          "' and '" ++ rule.parent ++ "'"⟩]

/-- Entering one rule, with its report. -/
def enterReported (parents : ParentTable) (rule : RoleRule) :
    Log.Journal PolicyError ParentTable :=
  ⟨enterRecords parents rule, parents.enter rule⟩

/-- The hierarchy with the given parents; a cycle is reported. -/
def ofParentsReported (parents : ParentTable) : Log.Journal PolicyError Hierarchy :=
  let records :=
    match parents.findCycle with
    | none => []
    | some roles =>
        [⟨.error, logger, "Role inheritance cycle detected: " ++ " > ".intercalate roles⟩]
  ⟨records, ofParents parents⟩

/-- The hierarchy that a list of rules gives, with the report of its
construction. -/
def ofRulesReported (rules : List RoleRule) : Log.Journal PolicyError Hierarchy := do
  let parents ← rules.foldlM enterReported Table.empty
  let hierarchy ← ofParentsReported parents
  Log.Journal.note .debug logger
    ("Built role graph with " ++ toString hierarchy.size ++ " inheritance edges")
  return hierarchy

end Hierarchy

end RoleAccess

import RoleAccess.Environment
import RoleAccess.Log.Journal

/-!
# Permission forests

The permission rules of a policy are stored as one tree for each role. Every
rule adds a chain of its own under the root of its role, one node for each
segment of its pattern; the last node carries the decision of the rule and the
nodes before it carry none. Chains are never merged, so the forest holds the
rules of each role in their order.
-/

namespace RoleAccess

/-- What a node decides for a resource that ends at it. -/
inductive Decision where
  | allow
  | deny
  | unset
  deriving DecidableEq, Repr

/-- The decision of a rule with the given effect. -/
def Decision.ofEffect : Effect → Decision
  | .allow => .allow
  | .deny => .deny

/-- A node matches one segment; its children match the next one. -/
structure Node where
  pattern : SegmentPattern
  decision : Decision := .unset
  children : List Node := []

namespace Node

/-- The chain of nodes for a pattern of one segment or more: the last node
carries the decision. -/
def chain (decision : Decision) : SegmentPattern → List SegmentPattern → Node
  | pattern, [] => { pattern, decision }
  | pattern, next :: rest => { pattern, children := [chain decision next rest] }

end Node

/-- The root of a role's tree carries no segment. -/
structure Root where
  decision : Decision := .deny
  children : List Node := []

namespace Root

/-- Adds the chain of a rule after the children that are there. -/
def addRule (root : Root) (rule : PermissionRule) : Except PolicyError Root :=
  match rule.resource with
  | [] => .error (.rule (.emptyResource rule.role))
  | pattern :: rest =>
      .ok { root with
        children := root.children ++ [Node.chain (.ofEffect rule.effect) pattern rest] }

end Root

/-- A tree for each role that has permission rules, in the order of their first
rules. -/
structure Forest where
  roots : Table String Root := Table.empty

namespace Forest

/-- Adds one rule to the tree of its role. -/
def addRule (forest : Forest) (rule : PermissionRule) : Except PolicyError Forest := do
  let root ← ((forest.roots.get? rule.role).getD {}).addRule rule
  return ⟨forest.roots.put rule.role root⟩

/-- The forest that a list of rules gives. -/
def ofRules (rules : List PermissionRule) : Except PolicyError Forest :=
  rules.foldlM addRule {}

/-- The root of a role. -/
def rootOf (forest : Forest) (role : String) : Option Root := forest.roots.get? role

/-- The roles that have permission rules, in the order of their first rules. -/
def roles (forest : Forest) : List String := forest.roots.keys

/-- The number of roles that have permission rules. -/
def size (forest : Forest) : Nat := forest.roots.size

/-- The logger of this module. -/
def logger : String := "rolegate.tree"

/-- The forest that a list of rules gives, with the report of its construction. -/
def ofRulesReported (rules : List PermissionRule) : Log.Journal PolicyError Forest := do
  let forest ← Log.Journal.silent (ofRules rules)
  Log.Journal.note .debug logger
    ("Built permission tree with " ++ toString rules.length ++ " rules for " ++
      toString forest.size ++ " roles")
  return forest

end Forest

end RoleAccess

import RoleAccess.Permission.Search
import RoleAccess.Role.Hierarchy
import RoleAccess.Rule.Path

/-!
# Access checkers

A `Checker` answers whether a role may access a resource: whether the role, or a
role that it inherits from, is granted the resource by its permission rules in
the present environment. The hierarchy and the forest are fixed when the checker
is built; only the environment is replaced between queries, and always as a
whole.
-/

namespace RoleAccess

/-- A built policy with its present environment. -/
structure Checker where
  hierarchy : Hierarchy
  forest : Forest
  environment : Environment := {}

namespace Checker

/-- The checker for role rules and permission rules. The hierarchy is built
first, so its errors come before those of the forest. -/
def ofRules (roleRules : List RoleRule) (permissionRules : List PermissionRule) :
    Except PolicyError Checker := do
  let hierarchy ← Hierarchy.ofRules roleRules
  let forest ← Forest.ofRules permissionRules
  return { hierarchy, forest }

/-- The same checker in another environment. -/
def withEnvironment (checker : Checker) (environment : Environment) : Checker :=
  { checker with environment }

/-- Whether a role may access the resource with the given segments. -/
def check (checker : Checker) (role : String) (resource : List String) :
    Except UnknownKind Bool :=
  checker.forest.grants (checker.hierarchy.ancestors role) resource checker.environment

/-- Whether a role may access the resource that a path names. -/
def checkPath (checker : Checker) (role path : String) : Except UnknownKind Bool :=
  checker.check role (Path.segments path)

/-! ## Reports -/

/-- The logger of this module. -/
def logger : String := "rolegate.checker"

/-- The checker for role rules and permission rules, with the report of its
construction. -/
def ofRulesReported (roleRules : List RoleRule) (permissionRules : List PermissionRule) :
    Log.Journal PolicyError Checker := do
  let hierarchy ← Hierarchy.ofRulesReported roleRules
  let forest ← Forest.ofRulesReported permissionRules
  Log.Journal.note .info logger
    ("Policy loaded: " ++ toString hierarchy.size ++ " inheritance rules, " ++
      toString forest.size ++ " roles with permissions")
  return { hierarchy, forest }

/-- The answer to a query, with its report. -/
def checkReported (checker : Checker) (role : String) (resource : List String) :
    Log.Journal UnknownKind Bool := do
  let allowed ← Log.Journal.silent (checker.check role resource)
  Log.Journal.note .debug logger
    ((if allowed then "Allowed " else "Denied ") ++ role ++ " -> /" ++
      "/".intercalate resource ++ " (chain: " ++
      " > ".intercalate (checker.hierarchy.ancestors role) ++ ")")
  return allowed

end Checker

end RoleAccess

import RoleAccess.Checker
import RoleAccess.Policy.Line
import RoleAccess.Text.Lines

/-!
# Policy texts

A policy text is read line by line. The role rules and the permission rules keep
their orders, and the first line that is wrong is the error, with its number
counted from one; blank lines and comments count.
-/

namespace RoleAccess

/-- The rules of a policy text. -/
structure RuleSet where
  roleRules : List RoleRule := []
  permissionRules : List PermissionRule := []
  deriving DecidableEq, Repr

namespace RuleSet

/-- Puts a rule in front of those of its kind. -/
def cons : Rule → RuleSet → RuleSet
  | .role rule, rules => { rules with roleRules := rule :: rules.roleRules }
  | .permission rule, rules => { rules with permissionRules := rule :: rules.permissionRules }

/-- The line of every rule, role rules first. -/
def render (rules : RuleSet) : List String :=
  rules.roleRules.map RoleRule.render ++ rules.permissionRules.map PermissionRule.render

end RuleSet

namespace Policy

/-- Reads lines, the first of which has the given number. -/
def parseLines : (number : Nat) → (lines : List String) → Except ParseError RuleSet
  | _, [] => .ok {}
  | number, line :: lines => do
      match ← parseLine line (some number) with
      | none => parseLines (number + 1) lines
      | some rule => return .cons rule (← parseLines (number + 1) lines)

/-- Reads the rules of a text. -/
def parseRules (text : String) : Except ParseError RuleSet :=
  parseLines 1 (Text.linesOf text)

/-- Builds the checker of a policy text. -/
def parse (text : String) : Except PolicyError Checker :=
  match parseRules text with
  | .error error => .error (.parse error)
  | .ok rules => Checker.ofRules rules.roleRules rules.permissionRules

/-! ## Reports -/

/-- The logger of this module. -/
def logger : String := "rolegate.parser"

/-- Reads the rules of a text, with the report of how many there are. -/
def parseRulesReported (text : String) : Log.Journal PolicyError RuleSet := do
  let rules ← Log.Journal.silent ((parseRules text).mapError PolicyError.parse)
  Log.Journal.note .debug logger
    ("Parsed " ++ toString rules.roleRules.length ++ " role rules and " ++
      toString rules.permissionRules.length ++ " permission rules")
  return rules

/-- Builds the checker of a policy text, with the report of its construction. -/
def parseReported (text : String) : Log.Journal PolicyError Checker := do
  let rules ← parseRulesReported text
  Checker.ofRulesReported rules.roleRules rules.permissionRules

end Policy

end RoleAccess

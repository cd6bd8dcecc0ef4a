/-!
# Rules of a policy

A policy is made of two kinds of rules. A `RoleRule` puts one role under
another, which it then inherits from. A `PermissionRule` allows or denies a
role a resource pattern: one `SegmentPattern` for each segment of the resource.

The written form of a rule is its line in a policy text.
-/

namespace RoleAccess

/-- What a permission rule does to the resources it matches. -/
inductive Effect where
  | allow
  | deny
  deriving DecidableEq, Repr

/-- The keyword of an effect. -/
def Effect.keyword : Effect → String
  | .allow => "allow"
  | .deny => "deny"

/-- The effect that a keyword stands for. -/
def Effect.ofKeyword? (word : String) : Option Effect :=
  if word = "allow" then some .allow else if word = "deny" then some .deny else none

theorem Effect.ofKeyword?_keyword (effect : Effect) :
    Effect.ofKeyword? effect.keyword = some effect := by
  cases effect <;> decide

/-- The way a pattern matches one segment of a resource. A kind under another
name can be stored in a rule, but matching against it is an error. -/
inductive SegmentKind where
  /-- Matches the segment equal to the name. -/
  | literal
  /-- Matches the value bound to the name. -/
  | bound
  /-- Matches the members of the set of that name. -/
  | member
  /-- Matches every segment. -/
  | universal
  /-- A kind with no rule for matching. -/
  | other (name : String)
  deriving DecidableEq, Repr

/-- Pattern for one segment of a resource. -/
structure SegmentPattern where
  /-- The way the pattern matches. -/
  kind : SegmentKind
  /-- The name that the kind refers to; a universal pattern needs none. -/
  name : Option String := none
  deriving DecidableEq, Repr

namespace SegmentPattern

/-- The pattern that matches one segment only. -/
def literal (name : String) : SegmentPattern := ⟨.literal, some name⟩

/-- The pattern that matches the value of a variable. -/
def bound (name : String) : SegmentPattern := ⟨.bound, some name⟩

/-- The pattern that matches the members of a named set. -/
def member (name : String) : SegmentPattern := ⟨.member, some name⟩

/-- The pattern that matches every segment. -/
def universal : SegmentPattern := ⟨.universal, none⟩

/-- The name between brackets; an absent name is written as `None`. -/
def bracketName (pattern : SegmentPattern) : String := pattern.name.getD "None"

/-- The written form of a pattern: a variable in square brackets, a set in
braces, a star for the universal pattern, and the bare name otherwise. -/
def render (pattern : SegmentPattern) : String :=
  match pattern.kind with
  | .bound => "[" ++ pattern.bracketName ++ "]"
  | .member => "\x7b" ++ pattern.bracketName ++ "\x7d"
  | .universal => "*"
  | .literal | .other _ => pattern.name.getD ""

end SegmentPattern

/-- Puts `child` under `parent`, which it inherits from. -/
structure RoleRule where
  parent : String
  child : String
  deriving DecidableEq, Repr

/-- The line of a role rule. -/
def RoleRule.render (rule : RoleRule) : String := rule.parent ++ " > " ++ rule.child

/-- Allows or denies a role the resources that match a pattern. -/
structure PermissionRule where
  effect : Effect
  role : String
  resource : List SegmentPattern
  deriving DecidableEq, Repr

/-- The written form of a resource pattern: every segment after a slash. -/
def PermissionRule.pattern (rule : PermissionRule) : String :=
  "/" ++ "/".intercalate (rule.resource.map SegmentPattern.render)

/-- The line of a permission rule. -/
def PermissionRule.render (rule : PermissionRule) : String :=
  rule.effect.keyword ++ " " ++ rule.role ++ " " ++ rule.pattern

end RoleAccess

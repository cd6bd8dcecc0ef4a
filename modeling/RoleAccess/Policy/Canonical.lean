import RoleAccess.Policy.Text

/-!
# Canonical rules

The rules whose line says exactly what they are. The roles of a canonical rule
are words; the parent of a role rule does not begin a comment, and the role of a
permission rule is not the word between the roles of a role rule. Each segment of
a canonical pattern is written in a way that is read as itself.
-/

namespace RoleAccess

/-- A text that is one word. -/
def IsWord (text : String) : Prop := text ≠ "" ∧ ∀ c ∈ text.toList, Text.isBlank c = false

instance : DecidablePred IsWord := fun text =>
  decidable_of_iff (text ≠ "" ∧ text.toList.all (fun c => !Text.isBlank c) = true)
    (by simp [IsWord])

/-- A word that is one segment of a path. -/
def IsSegmentWord (text : String) : Prop := IsWord text ∧ '/' ∉ text.toList

instance : DecidablePred IsSegmentWord := fun text =>
  inferInstanceAs (Decidable (IsWord text ∧ '/' ∉ text.toList))

/-- A text stands between an opening and a closing character. -/
def IsBracketed (opening closing : Char) (text : String) : Prop :=
  ∃ inside : List Char, text.toList = opening :: inside ++ [closing]

/-- A pattern is written in a way that is read as itself. -/
inductive SegmentPattern.IsCanonical : SegmentPattern → Prop where
  | universal : IsCanonical ⟨.universal, none⟩
  | bound {name : String} (h : IsSegmentWord name) : IsCanonical ⟨.bound, some name⟩
  | member {name : String} (h : IsSegmentWord name) : IsCanonical ⟨.member, some name⟩
  | literal {name : String} (h : IsSegmentWord name) (star : name ≠ "*")
      (square : ¬IsBracketed '[' ']' name) (brace : ¬IsBracketed '{' '}' name) :
      IsCanonical ⟨.literal, some name⟩

/-- The line of a role rule is read as the rule. -/
structure RoleRule.IsCanonical (rule : RoleRule) : Prop where
  parent : IsWord rule.parent
  child : IsWord rule.child
  noComment : Policy.startsComment rule.parent = false

/-- The line of a permission rule is read as the rule. -/
structure PermissionRule.IsCanonical (rule : PermissionRule) : Prop where
  role : IsWord rule.role
  noInheritance : rule.role ≠ Policy.inheritsWord
  nonempty : rule.resource ≠ []
  segments : ∀ pattern ∈ rule.resource, pattern.IsCanonical

/-- Every rule of a set is canonical. -/
structure RuleSet.IsCanonical (rules : RuleSet) : Prop where
  roleRules : ∀ rule ∈ rules.roleRules, rule.IsCanonical
  permissionRules : ∀ rule ∈ rules.permissionRules, rule.IsCanonical

end RoleAccess

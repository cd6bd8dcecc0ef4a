import RoleAccess.Proofs.Checker.Outcome

/-!
# What the answers of a checker mean

The ancestors of a role, the paths under their roots and the search among them
come to one thing: a role may access a resource exactly if some rule that allows,
and belongs to the role or to one that it inherits from, covers the resource.

Main statement: a checker built from rules with known kinds decides this in every
environment, denies the empty resource, and answers as any other checker over the
same role rules whose permission rules that concern the query are the same
(`Checker.check_decides_grants`).
-/

namespace RoleAccess

/-- A rule that may matter for a query: it allows, it belongs to the role or to one
that the role inherits from, and its pattern is as long as the resource. -/
def PermissionRule.Concerns (roleRules : List RoleRule) (role : String) (resource : List String)
    (rule : PermissionRule) : Prop :=
  rule.effect = .allow ∧ (rule.role = role ∨ Inherits roleRules role rule.role) ∧
    rule.resource.length = resource.length

namespace Checker

variable {roleRules : List RoleRule} {permissionRules others : List PermissionRule}
  {checker other : Checker} {environment : Environment} {role : String} {resource : List String}

/-- Grants come from the rules that concern the query. -/
theorem grants_mono_concerns
    (h : ∀ rule : PermissionRule, rule.Concerns roleRules role resource →
      rule ∈ permissionRules → rule ∈ others)
    (grants : Grants roleRules permissionRules environment role resource) :
    Grants roleRules others environment role resource := by
  obtain ⟨rule, hrule, hallow, hrole, hcovers⟩ := grants
  exact ⟨rule, h rule ⟨hallow, hrole, hcovers.length_eq⟩ hrule, hallow, hrole, hcovers⟩

/-- A checker answers for the rules of the ancestors of a role. -/
theorem decides_check (built : ofRules roleRules permissionRules = .ok checker)
    (known : ∀ rule ∈ permissionRules, ∀ pattern ∈ rule.resource, pattern.kind.IsKnown)
    (environment : Environment) (role : String) (resource : List String) :
    Decides ((checker.withEnvironment environment).check role resource)
      (Grants roleRules permissionRules environment role resource) := by
  obtain ⟨hhierarchy, hforest, -⟩ := ofRules_eq_ok_iff.1 built
  have holds := Forest.holds_of_ofRules_eq_ok hforest
  show Decides (checker.forest.grants (checker.hierarchy.ancestors role) resource environment) _
  rw [Forest.grants_eq_evaluate]
  refine (Forest.decides_evaluate (holds.hasKnownKinds known) _ _).congr ?_
  simp only [holds.exists_grantingPath_iff, Hierarchy.mem_ancestors_iff_inherits hhierarchy]
  constructor
  · rintro ⟨ancestor, hancestor, rule, hrule, hallow, rfl, hcovers⟩
    exact ⟨rule, hrule, hallow, hancestor, hcovers⟩
  · rintro ⟨rule, hrule, hallow, hancestor, hcovers⟩
    exact ⟨rule.role, hancestor, rule, hrule, hallow, rfl, hcovers⟩

theorem not_grants_nil (built : ofRules roleRules permissionRules = .ok checker) :
    ¬Grants roleRules permissionRules environment role [] := by
  rintro ⟨rule, hrule, -, -, hcovers⟩
  have holds := Forest.holds_of_ofRules_eq_ok (ofRules_eq_ok_iff.1 built).2.1
  exact holds.nonempty rule hrule (List.eq_nil_of_length_eq_zero hcovers.length_eq)

/-- A checker built from rules with known kinds says, in every environment, yes
exactly to what the rules grant. It denies the empty resource, and rules that do
not concern a query have no part in its answer: every checker over the same role
rules and the same rules that concern the query gives the same one. -/
theorem check_decides_grants (built : ofRules roleRules permissionRules = .ok checker)
    (known : ∀ rule ∈ permissionRules, ∀ pattern ∈ rule.resource, pattern.kind.IsKnown)
    (environment : Environment) (role : String) (resource : List String) :
    Decides ((checker.withEnvironment environment).check role resource)
        (Grants roleRules permissionRules environment role resource) ∧
      (checker.withEnvironment environment).check role [] = .ok false ∧
      ∀ others other, ofRules roleRules others = .ok other →
        (∀ rule ∈ others, ∀ pattern ∈ rule.resource, pattern.kind.IsKnown) →
        (∀ rule : PermissionRule, rule.Concerns roleRules role resource →
          (rule ∈ others ↔ rule ∈ permissionRules)) →
        (other.withEnvironment environment).check role resource =
          (checker.withEnvironment environment).check role resource := by
  refine ⟨decides_check built known environment role resource, ?_, ?_⟩
  · exact (decides_check built known environment role []).eq_ok_false (not_grants_nil built)
  · intro others other hother hknown hconcerns
    have hsame : Grants roleRules others environment role resource ↔
        Grants roleRules permissionRules environment role resource :=
      ⟨grants_mono_concerns fun rule h => (hconcerns rule h).1,
        grants_mono_concerns fun rule h => (hconcerns rule h).2⟩
    have hanswer := (decides_check hother hknown environment role resource).congr hsame
    exact hanswer.unique (decides_check built known environment role resource)

/-- A role is granted what a rule of its parent allows, although a rule of its own
denies it. -/
theorem check_inherited_grant :
    ∃ checker, ofRules [⟨"User", "Admin"⟩]
        [⟨.deny, "Admin", [.literal "docs", .universal]⟩,
          ⟨.allow, "User", [.literal "docs", .bound "owner"]⟩] = .ok checker ∧
      (checker.withEnvironment { bindings := Table.empty.put "owner" "ann" }).check "Admin"
        ["docs", "ann"] = .ok true := by
  obtain ⟨checker, built⟩ : ∃ checker, ofRules [⟨"User", "Admin"⟩]
      [⟨.deny, "Admin", [.literal "docs", .universal]⟩,
        ⟨.allow, "User", [.literal "docs", .bound "owner"]⟩] = .ok checker := ⟨_, rfl⟩
  refine ⟨checker, built, ?_⟩
  rw [(check_decides_grants built (by decide) _ "Admin" ["docs", "ann"]).1.eq_ok_true_iff]
  exact ⟨⟨.allow, "User", [.literal "docs", .bound "owner"]⟩, by simp, rfl,
    Or.inr (.parent (by simp)), .literal, .bound rfl, trivial⟩

end Checker

end RoleAccess

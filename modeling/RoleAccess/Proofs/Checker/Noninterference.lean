import Mathlib.Data.Set.Basic
import RoleAccess.Proofs.Checker.Meaning
import RoleAccess.Proofs.Permission.Cover

/-!
# What a decision can depend on

A decision about a role and a resource rests on three things: the chain of the
ancestors of the role, the patterns as long as the resource that rules allow to roles
of the chain (`allowances`), and the values and members of the names in these patterns.
Two policies may differ in everything else, in the order and the number of their rules,
in what they deny, in the rules of other roles and in all other bindings.

Main statement: built policies with known kinds that agree on these three things give
the same answer (`Checker.check_eq_of_allowances_eq`). The forests of the two may have
nothing in common, so the searches are not compared step by step; both answers are
compared with what the rules grant.
-/

namespace RoleAccess

/-- The patterns of a length that rules allow to the roles of a chain, each with its
role. -/
def allowances (rules : List PermissionRule) (chain : List String) (length : Nat) :
    Set (String × List SegmentPattern) :=
  { allowance | ⟨.allow, allowance.1, allowance.2⟩ ∈ rules ∧ allowance.1 ∈ chain ∧
    allowance.2.length = length }

namespace Checker

variable {roleRules otherRoleRules : List RoleRule} {rules otherRules : List PermissionRule}
  {checker other : Checker} {environment otherEnvironment : Environment} {role : String}
  {resource : List String}

/-- What rules grant to a role comes from the allowances of its ancestors. -/
theorem grants_iff_exists_allowance (built : ofRules roleRules rules = .ok checker) :
    Grants roleRules rules environment role resource ↔
      ∃ allowance ∈ allowances rules (checker.hierarchy.ancestors role) resource.length,
        Covers environment allowance.2 resource := by
  have hancestors := Hierarchy.mem_ancestors_iff_inherits (ofRules_eq_ok_iff.1 built).1 role
  constructor
  · rintro ⟨⟨effect, grantee, patterns⟩, hrule, rfl, hgrantee, hcovers⟩
    have hchain := (hancestors grantee).2 hgrantee
    exact ⟨(grantee, patterns), ⟨hrule, hchain, hcovers.length_eq⟩, hcovers⟩
  · rintro ⟨⟨grantee, patterns⟩, ⟨hrule, hchain, -⟩, hcovers⟩
    exact ⟨⟨.allow, grantee, patterns⟩, hrule, rfl, (hancestors grantee).1 hchain, hcovers⟩

/-- Two policies with known kinds give the same answer to a query if the same patterns as
long as the resource are allowed to the role and its ancestors, and the environments agree
on the names in these patterns. Nothing else of the chains has to be the same. -/
theorem check_eq_of_allowances_eq (built : ofRules roleRules rules = .ok checker)
    (otherBuilt : ofRules otherRoleRules otherRules = .ok other)
    (known : ∀ rule ∈ rules, ∀ pattern ∈ rule.resource, pattern.kind.IsKnown)
    (otherKnown : ∀ rule ∈ otherRules, ∀ pattern ∈ rule.resource, pattern.kind.IsKnown)
    (allowed : allowances rules (checker.hierarchy.ancestors role) resource.length =
      allowances otherRules (other.hierarchy.ancestors role) resource.length)
    (agree : ∀ allowance ∈ allowances rules (checker.hierarchy.ancestors role) resource.length,
      ∀ pattern ∈ allowance.2, pattern.AgreesIn environment otherEnvironment) :
    (checker.withEnvironment environment).check role resource =
      (other.withEnvironment otherEnvironment).check role resource := by
  have hsame : Grants roleRules rules environment role resource ↔
      Grants otherRoleRules otherRules otherEnvironment role resource := by
    rw [grants_iff_exists_allowance built, grants_iff_exists_allowance otherBuilt, ← allowed]
    refine exists_congr fun allowance => and_congr_right fun hallowance => ?_
    exact covers_iff_of_agreesIn (agree allowance hallowance)
  have hanswer := (decides_check built known environment role resource).congr hsame
  exact hanswer.unique (decides_check otherBuilt otherKnown otherEnvironment role resource)

/-- Another order, a repeated rule, a dropped denial, rules of another length and of
another role, more roles and one more variable leave the answer as it is. -/
theorem check_eq_of_rearranged_policy :
    ∃ checker other,
      ofRules [⟨"boss", "ann"⟩]
        [⟨.allow, "boss", [.literal "docs", .bound "owner"]⟩,
          ⟨.deny, "ann", [.literal "docs", .universal]⟩] = .ok checker ∧
      ofRules [⟨"top", "eve"⟩, ⟨"boss", "ann"⟩]
        [⟨.allow, "eve", [.universal, .universal]⟩,
          ⟨.allow, "boss", [.literal "docs", .bound "owner"]⟩, ⟨.allow, "ann", [.universal]⟩,
          ⟨.allow, "boss", [.literal "docs", .bound "owner"]⟩] = .ok other ∧
      (checker.withEnvironment { bindings := Table.empty.put "owner" "eve" }).check "ann"
          ["docs", "eve"] =
        (other.withEnvironment
          { bindings := (Table.empty.put "guest" "docs").put "owner" "eve" }).check "ann"
          ["docs", "eve"] := by
  obtain ⟨checker, built, hchain⟩ : ∃ checker, ofRules [⟨"boss", "ann"⟩]
      [⟨.allow, "boss", [.literal "docs", .bound "owner"]⟩,
        ⟨.deny, "ann", [.literal "docs", .universal]⟩] = .ok checker ∧
      checker.hierarchy.ancestors "ann" = ["ann", "boss"] := ⟨_, rfl, rfl⟩
  obtain ⟨other, otherBuilt, otherChain⟩ : ∃ other, ofRules [⟨"top", "eve"⟩, ⟨"boss", "ann"⟩]
      [⟨.allow, "eve", [.universal, .universal]⟩,
        ⟨.allow, "boss", [.literal "docs", .bound "owner"]⟩, ⟨.allow, "ann", [.universal]⟩,
        ⟨.allow, "boss", [.literal "docs", .bound "owner"]⟩] = .ok other ∧
      other.hierarchy.ancestors "ann" = ["ann", "boss"] := ⟨_, rfl, rfl⟩
  refine ⟨checker, other, built, otherBuilt, ?_⟩
  apply check_eq_of_allowances_eq built otherBuilt (by decide) (by decide)
  · rw [hchain, otherChain]
    ext ⟨grantee, patterns⟩
    constructor
    · rintro ⟨hrule, hgrantee, hlength⟩
      refine ⟨?_, hgrantee, hlength⟩
      simp only [List.mem_cons, PermissionRule.mk.injEq, reduceCtorEq, List.not_mem_nil, false_and,
        true_and, or_false] at hrule ⊢
      exact .inr (.inl hrule)
    · rintro ⟨hrule, hgrantee, hlength⟩
      refine ⟨?_, hgrantee, hlength⟩
      simp only [List.mem_cons, PermissionRule.mk.injEq, reduceCtorEq, List.not_mem_nil, false_and,
        true_and, or_false] at hrule ⊢
      -- The rules of another role and of another length are no allowances.
      rcases hrule with ⟨rfl, -⟩ | hboss | ⟨-, rfl⟩ | hboss
      · simp at hgrantee
      · exact hboss
      · simp at hlength
      · exact hboss
  · rintro ⟨grantee, patterns⟩ ⟨hrule, -, -⟩ pattern hpattern
    simp only [List.mem_cons, List.not_mem_nil, or_false, PermissionRule.mk.injEq] at hrule
    obtain ⟨-, -, rfl⟩ | ⟨hdeny, -⟩ := hrule
    · refine ⟨fun hkind name hname => ?_, fun hkind name hname value => ?_⟩
      · simp only [List.mem_cons, List.not_mem_nil, or_false] at hpattern
        obtain rfl | rfl := hpattern
        · cases hkind
        · cases hname
          rfl
      · simp only [List.mem_cons, List.not_mem_nil, or_false] at hpattern
        obtain rfl | rfl := hpattern <;> cases hkind
    · cases hdeny

end Checker

end RoleAccess

import RoleAccess.Proofs.Checker.Meaning
import RoleAccess.Proofs.Permission.Cover

/-!
# More rules grant more

A policy that has every role rule of another one and every rule that allows keeps what the
other one grants (`KeepsGrants`), as long as the environment keeps every value and every
member of a set (`Environment.IsExtendedBy`). Whatever else it has, more denials, other
orders and longer chains, takes nothing away. The chain of a role goes on where it ended,
since a role has one parent only (`Hierarchy.ancestors_isPrefix`).

Main statement: built policies with known kinds allow more with more rules and more
bindings, the chains of the smaller one are prefixes, and a role is allowed what the
roles above it are allowed (`Checker.check_mono`).
-/

namespace RoleAccess

/-- An environment keeps the values of another one and the members of its sets. -/
structure Environment.IsExtendedBy (first second : Environment) : Prop where
  lookup : ∀ name value, first.lookup name = some value → second.lookup name = some value
  contains : ∀ name value, first.contains name value = true → second.contains name value = true

/-- The second pair of rules has every role rule of the first, and every rule that
allows. -/
structure KeepsGrants (roleRules : List RoleRule) (rules : List PermissionRule)
    (otherRoleRules : List RoleRule) (otherRules : List PermissionRule) : Prop where
  roleRules : ∀ rule ∈ roleRules, rule ∈ otherRoleRules
  allowing : ∀ rule ∈ rules, rule.effect = .allow → rule ∈ otherRules

variable {roleRules otherRoleRules : List RoleRule} {rules otherRules : List PermissionRule}
  {environment otherEnvironment : Environment} {role descendant : String}
  {resource : List String}

theorem SegmentPattern.Matches.mono {pattern : SegmentPattern} {segment : String}
    (extended : environment.IsExtendedBy otherEnvironment)
    (h : pattern.Matches environment segment) : pattern.Matches otherEnvironment segment := by
  cases h with
  | literal => exact .literal
  | bound hlookup => exact .bound (extended.lookup _ _ hlookup)
  | member hcontains => exact .member (extended.contains _ _ hcontains)
  | universal => exact .universal

/-! ## Grants -/

theorem Grants.mono (keeps : KeepsGrants roleRules rules otherRoleRules otherRules)
    (extended : environment.IsExtendedBy otherEnvironment)
    (grants : Grants roleRules rules environment role resource) :
    Grants otherRoleRules otherRules otherEnvironment role resource := by
  obtain ⟨rule, hrule, hallow, hrole, hcovers⟩ := grants
  have hcovers' : Covers otherEnvironment rule.resource resource :=
    hcovers.imp fun _ _ _ => SegmentPattern.Matches.mono extended
  refine ⟨rule, keeps.allowing rule hrule hallow, hallow, ?_, hcovers'⟩
  exact hrole.imp_right (Inherits.mono keeps.roleRules)

/-- What is granted to a role is granted to those that inherit from it. -/
theorem Grants.descend (below : Inherits roleRules descendant role)
    (grants : Grants roleRules rules environment role resource) :
    Grants roleRules rules environment descendant resource := by
  obtain ⟨rule, hrule, hallow, hrole, hcovers⟩ := grants
  refine ⟨rule, hrule, hallow, Or.inr ?_, hcovers⟩
  rcases hrole with rfl | habove
  · exact below
  · exact below.trans habove

/-! ## Chains -/

theorem Hierarchy.ancestors_isPrefix {hierarchy other : Hierarchy}
    (built : Hierarchy.ofRules roleRules = .ok hierarchy)
    (otherBuilt : Hierarchy.ofRules otherRoleRules = .ok other)
    (keeps : ∀ rule ∈ roleRules, rule ∈ otherRoleRules) (role : String) :
    hierarchy.ancestors role <+: other.ancestors role := by
  obtain ⟨rest, heq, hancestry⟩ := hierarchy.exists_ancestors_eq role
  obtain ⟨otherRest, otherEq, otherAncestry⟩ := other.exists_ancestors_eq role
  have records := Hierarchy.records_of_ofRules_eq_ok built
  have otherRecords := Hierarchy.records_of_ofRules_eq_ok otherBuilt
  rw [heq, otherEq]
  refine hancestry.isPrefix (fun child parent hparent => ?_) otherAncestry
  -- The parent is that of a rule, and the other rules have this rule too.
  exact otherRecords.get?_eq_some_iff.2 (keeps _ (records.get?_eq_some_iff.1 hparent))

namespace Checker

variable {checker other : Checker}

/-- With more role rules, more rules that allow, more values and more members of sets, and
whatever denials, a policy allows at least as much, and the chain of every role goes on where
it ended. Within a policy, a role is allowed what is allowed to a role that it inherits
from. -/
theorem check_mono (built : ofRules roleRules rules = .ok checker)
    (otherBuilt : ofRules otherRoleRules otherRules = .ok other)
    (known : ∀ rule ∈ rules, ∀ pattern ∈ rule.resource, pattern.kind.IsKnown)
    (otherKnown : ∀ rule ∈ otherRules, ∀ pattern ∈ rule.resource, pattern.kind.IsKnown)
    (keeps : KeepsGrants roleRules rules otherRoleRules otherRules)
    (extended : environment.IsExtendedBy otherEnvironment) :
    (∀ role resource, (checker.withEnvironment environment).check role resource = .ok true →
      (other.withEnvironment otherEnvironment).check role resource = .ok true) ∧
    (∀ role, checker.hierarchy.ancestors role <+: other.hierarchy.ancestors role) ∧
    ∀ role descendant resource, Inherits roleRules descendant role →
      (checker.withEnvironment environment).check role resource = .ok true →
        (checker.withEnvironment environment).check descendant resource = .ok true := by
  have decides := decides_check built known environment
  have otherDecides := decides_check otherBuilt otherKnown otherEnvironment
  refine ⟨fun role resource allowed => ?_, fun role => ?_, fun role descendant resource below
    allowed => ?_⟩
  · rw [(decides role resource).eq_ok_true_iff] at allowed
    exact (otherDecides role resource).eq_ok_true_iff.2 (allowed.mono keeps extended)
  · exact Hierarchy.ancestors_isPrefix (ofRules_eq_ok_iff.1 built).1
      (ofRules_eq_ok_iff.1 otherBuilt).1 keeps.roleRules role
  · rw [(decides role resource).eq_ok_true_iff] at allowed
    exact (decides descendant resource).eq_ok_true_iff.2 (allowed.descend below)

/-- A grant survives a new top of its chain, a denial of the same pattern and a new variable;
it goes down to a role below. -/
theorem check_mono_of_extended_policy :
    ∃ checker other,
      ofRules [⟨"boss", "ann"⟩] [⟨.allow, "boss", [.literal "docs", .bound "owner"]⟩] =
        .ok checker ∧
      ofRules [⟨"top", "boss"⟩, ⟨"boss", "ann"⟩]
        [⟨.deny, "ann", [.literal "docs", .bound "owner"]⟩,
          ⟨.allow, "boss", [.literal "docs", .bound "owner"]⟩,
          ⟨.deny, "boss", [.universal, .universal]⟩] = .ok other ∧
      (other.withEnvironment
        { bindings := (Table.empty.put "guest" "docs").put "owner" "eve" }).check "ann"
          ["docs", "eve"] = .ok true ∧
      checker.hierarchy.ancestors "ann" <+: other.hierarchy.ancestors "ann" := by
  obtain ⟨checker, built, allowed⟩ : ∃ checker, ofRules [⟨"boss", "ann"⟩]
      [⟨.allow, "boss", [.literal "docs", .bound "owner"]⟩] = .ok checker ∧
      (checker.withEnvironment { bindings := Table.empty.put "owner" "eve" }).check "boss"
        ["docs", "eve"] = .ok true := ⟨_, rfl, rfl⟩
  obtain ⟨other, otherBuilt⟩ : ∃ other, ofRules [⟨"top", "boss"⟩, ⟨"boss", "ann"⟩]
      [⟨.deny, "ann", [.literal "docs", .bound "owner"]⟩,
        ⟨.allow, "boss", [.literal "docs", .bound "owner"]⟩,
        ⟨.deny, "boss", [.universal, .universal]⟩] = .ok other := ⟨_, rfl⟩
  have keeps : KeepsGrants [⟨"boss", "ann"⟩]
      [⟨.allow, "boss", [.literal "docs", .bound "owner"]⟩]
      [⟨"top", "boss"⟩, ⟨"boss", "ann"⟩]
      [⟨.deny, "ann", [.literal "docs", .bound "owner"]⟩,
        ⟨.allow, "boss", [.literal "docs", .bound "owner"]⟩,
        ⟨.deny, "boss", [.universal, .universal]⟩] := ⟨by decide, by decide⟩
  have extended : Environment.IsExtendedBy { bindings := Table.empty.put "owner" "eve" }
      { bindings := (Table.empty.put "guest" "docs").put "owner" "eve" } := by
    constructor
    · intro name value h
      by_cases hname : name = "owner"
      · simpa [Environment.lookup, Table.get?_put, hname] using h
      · simp [Environment.lookup, Table.get?_put, hname] at h
    · intro name value h
      simp [Environment.contains] at h
  obtain ⟨hmore, hchain, hbelow⟩ :=
    check_mono built otherBuilt (by decide) (by decide) keeps extended
  refine ⟨checker, other, built, otherBuilt, ?_, hchain "ann"⟩
  exact hmore "ann" ["docs", "eve"] (hbelow "boss" "ann" _ (.parent (by decide)) allowed)

end Checker

end RoleAccess

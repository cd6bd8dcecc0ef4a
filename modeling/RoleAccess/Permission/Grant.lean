import RoleAccess.Permission.Search
import RoleAccess.Role.Inheritance

/-!
# What a policy grants

The meaning of a policy, said without trees and without a search. A pattern
matches a segment by its kind (`SegmentPattern.Matches`), a pattern of a resource
covers a resource of the same length segment by segment (`Covers`), and a policy
grants a role a resource if a rule that allows, and belongs to the role or to
one that it inherits from, covers the resource (`Grants`).

For a known kind, `accepts` decides `Matches` (`accepts_eq_ok_true_iff`).
-/

namespace RoleAccess

/-- A kind that has a rule for matching. -/
def SegmentKind.IsKnown : SegmentKind → Prop
  | .other _ => False
  | _ => True

instance : DecidablePred SegmentKind.IsKnown
  | .other _ => isFalse fun h => h
  | .literal | .bound | .member | .universal => isTrue trivial

namespace SegmentPattern

/-- A pattern matches a segment in an environment. -/
inductive Matches (environment : Environment) : SegmentPattern → String → Prop where
  | literal {segment : String} : Matches environment ⟨.literal, some segment⟩ segment
  | bound {name segment : String} (h : environment.lookup name = some segment) :
      Matches environment ⟨.bound, some name⟩ segment
  | member {name segment : String} (h : environment.contains name segment = true) :
      Matches environment ⟨.member, some name⟩ segment
  | universal {name : Option String} {segment : String} :
      Matches environment ⟨.universal, name⟩ segment

/-- A pattern is found to match exactly if it does. -/
theorem accepts_eq_ok_true_iff (pattern : SegmentPattern) (environment : Environment)
    (segment : String) :
    pattern.accepts environment segment = .ok true ↔ pattern.Matches environment segment := by
  obtain ⟨kind, name⟩ := pattern
  cases kind with
  | literal =>
      constructor
      · intro h
        simp only [accepts, Except.ok.injEq, decide_eq_true_eq] at h
        subst h
        exact .literal
      · rintro ⟨⟩
        simp [accepts]
  | bound =>
      constructor
      · intro h
        simp only [accepts, Except.ok.injEq, decide_eq_true_eq] at h
        obtain ⟨name, rfl, h⟩ := Option.bind_eq_some_iff.1 h
        exact .bound h
      · rintro ⟨⟩
        simp [accepts, *]
  | member =>
      constructor
      · intro h
        cases name with
        | none => simp [accepts] at h
        | some name =>
            simp only [accepts, Except.ok.injEq, Option.any_some] at h
            exact .member h
      · rintro ⟨⟩
        simp [accepts, *]
  | universal => exact ⟨fun _ => .universal, fun _ => rfl⟩
  | other name =>
      constructor
      · intro h
        simp [accepts] at h
      · rintro ⟨⟩

/-- A known kind has an answer for every segment. -/
theorem exists_accepts_eq_ok {pattern : SegmentPattern} (h : pattern.kind.IsKnown)
    (environment : Environment) (segment : String) :
    ∃ matching, pattern.accepts environment segment = .ok matching := by
  obtain ⟨kind, name⟩ := pattern
  cases kind with
  | other name => exact h.elim
  | _ => exact ⟨_, rfl⟩

end SegmentPattern

/-- Patterns cover segments: there are as many, and each matches the one at its
place. -/
def Covers (environment : Environment) : List SegmentPattern → List String → Prop
  | [], [] => True
  | pattern :: patterns, segment :: segments =>
      pattern.Matches environment segment ∧ Covers environment patterns segments
  | _, _ => False

theorem Covers.length_eq {environment : Environment} {patterns : List SegmentPattern}
    {segments : List String} (h : Covers environment patterns segments) :
    patterns.length = segments.length := by
  induction patterns generalizing segments with
  | nil =>
      cases segments with
      | nil => rfl
      | cons segment segments => exact h.elim
  | cons pattern patterns ih =>
      cases segments with
      | nil => exact h.elim
      | cons segment segments => simp [ih h.2]

/-- Some rule allows the resource to the role or to one that it inherits from. -/
def Grants (roleRules : List RoleRule) (permissionRules : List PermissionRule)
    (environment : Environment) (role : String) (resource : List String) : Prop :=
  ∃ rule ∈ permissionRules, rule.effect = .allow ∧
    (rule.role = role ∨ Inherits roleRules role rule.role) ∧
    Covers environment rule.resource resource

end RoleAccess

import Mathlib.Data.Finset.Card
import RoleAccess.Checker
import RoleAccess.Proofs.Permission.Construction
import RoleAccess.Proofs.Role.Hierarchy

/-!
# What the construction of a checker comes to

Role rules are entered before permission rules, so a conflict of parents comes
before a cycle, and a cycle before a resource without segments. What is wrong
first decides the error, and rules with nothing wrong give a checker.

Main statement: the kind of the outcome is decided by conflicts, by inheritance
and by the resources; a conflict is reported with the data of the first rule that
has one; and a checker that is built knows exactly the roles and the parents of
its role rules (`Checker.ofRules_outcome`).
-/

namespace RoleAccess.Checker

variable {roleRules : List RoleRule} {permissionRules : List PermissionRule} {checker : Checker}

theorem ofRules_eq_ok_iff :
    ofRules roleRules permissionRules = .ok checker ↔
      Hierarchy.ofRules roleRules = .ok checker.hierarchy ∧
        Forest.ofRules permissionRules = .ok checker.forest ∧ checker.environment = {} := by
  obtain ⟨hierarchy, forest, environment⟩ := checker
  simp only [ofRules, Fold.bind_eq_ok_iff]
  constructor
  · rintro ⟨hierarchy', hhierarchy, forest', hforest, heq⟩
    cases heq
    exact ⟨hhierarchy, hforest, rfl⟩
  · rintro ⟨hhierarchy, hforest, rfl⟩
    exact ⟨hierarchy, hhierarchy, forest, hforest, rfl⟩

theorem ofRules_eq_error_iff {fault : PolicyError} :
    ofRules roleRules permissionRules = .error fault ↔
      Hierarchy.ofRules roleRules = .error fault ∨
        (∃ hierarchy, Hierarchy.ofRules roleRules = .ok hierarchy) ∧
          Forest.ofRules permissionRules = .error fault := by
  simp only [ofRules, Fold.bind_eq_error_iff]
  constructor
  · rintro (h | ⟨hierarchy, hhierarchy, h | ⟨forest, -, h⟩⟩)
    · exact Or.inl h
    · exact Or.inr ⟨⟨hierarchy, hhierarchy⟩, h⟩
    · cases h
  · rintro (h | ⟨⟨hierarchy, hhierarchy⟩, h⟩)
    · exact Or.inl h
    · exact Or.inr ⟨hierarchy, hhierarchy, Or.inl h⟩

/-- The hierarchy comes first, so its conflicts and cycles are those of the checker. -/
theorem ofRules_eq_duplicateParent_iff {child existing proposed : String} :
    ofRules roleRules permissionRules = .error (.duplicateParent child existing proposed) ↔
      FirstConflict roleRules child existing proposed := by
  rw [ofRules_eq_error_iff, Hierarchy.ofRules_eq_duplicateParent_iff]
  constructor
  · rintro (h | ⟨-, h⟩)
    · exact h
    · obtain ⟨before, rule, after, -, -, -, heq⟩ := Forest.ofRules_eq_error_iff.1 h
      cases heq
  · exact Or.inl

theorem ofRules_eq_cycle_iff {cycle : List String} :
    ofRules roleRules permissionRules = .error (.cycle cycle) ↔
      Hierarchy.ofRules roleRules = .error (.cycle cycle) := by
  rw [ofRules_eq_error_iff]
  constructor
  · rintro (h | ⟨-, h⟩)
    · exact h
    · obtain ⟨before, rule, after, -, -, -, heq⟩ := Forest.ofRules_eq_error_iff.1 h
      cases heq
  · exact Or.inl

/-- A fault of a rule is left for role rules that give a hierarchy. -/
theorem ofRules_eq_rule_iff {fault : RuleFault} :
    ofRules roleRules permissionRules = .error (.rule fault) ↔
      (∃ hierarchy, Hierarchy.ofRules roleRules = .ok hierarchy) ∧
        Forest.ofRules permissionRules = .error (.rule fault) := by
  rw [ofRules_eq_error_iff]
  constructor
  · rintro (h | h)
    · rcases Hierarchy.ofRules_eq_error_iff.1 h with ⟨_, _, _, -, heq⟩ | ⟨_, _, -, -, heq⟩
      · cases heq
      · cases heq
    · exact h
  · exact Or.inr

theorem exists_rule_fault_iff :
    (∃ fault, Forest.ofRules permissionRules = .error (.rule fault)) ↔
      ∃ rule ∈ permissionRules, rule.resource = [] := by
  constructor
  · rintro ⟨fault, h⟩
    obtain ⟨before, rule, after, rfl, -, hempty, -⟩ := Forest.ofRules_eq_error_iff.1 h
    exact ⟨rule, by simp, hempty⟩
  · rintro ⟨rule, hrule, hempty⟩
    cases h : Forest.ofRules permissionRules with
    | ok forest => exact absurd hempty ((Forest.holds_of_ofRules_eq_ok h).nonempty rule hrule)
    | error fault =>
        obtain ⟨-, first, -, -, -, -, rfl⟩ := Forest.ofRules_eq_error_iff.1 h
        exact ⟨.emptyResource first.role, rfl⟩

theorem exists_ofRules_eq_ok_iff :
    (∃ checker, ofRules roleRules permissionRules = .ok checker) ↔
      (∃ hierarchy, Hierarchy.ofRules roleRules = .ok hierarchy) ∧
        ∃ forest, Forest.ofRules permissionRules = .ok forest := by
  constructor
  · rintro ⟨checker, h⟩
    obtain ⟨hhierarchy, hforest, -⟩ := ofRules_eq_ok_iff.1 h
    exact ⟨⟨_, hhierarchy⟩, ⟨_, hforest⟩⟩
  · rintro ⟨⟨hierarchy, hhierarchy⟩, forest, hforest⟩
    exact ⟨⟨hierarchy, forest, {}⟩, ofRules_eq_ok_iff.2 ⟨hhierarchy, hforest, rfl⟩⟩

/-! ## The roles of a hierarchy -/

/-- As many roles have a parent as there are children in the rules. -/
theorem size_eq_card (h : Hierarchy.ofRules roleRules = .ok checker.hierarchy) :
    checker.hierarchy.size = (roleRules.map RoleRule.child).toFinset.card := by
  have records := Hierarchy.records_of_ofRules_eq_ok h
  have hkeys : checker.hierarchy.parents.keys.toFinset =
      (roleRules.map RoleRule.child).toFinset := by
    ext child
    rw [List.mem_toFinset, List.mem_toFinset, records.mem_keys_iff]
  rw [← hkeys, List.toFinset_card_of_nodup (Table.keys_nodup _), Table.length_keys]
  rfl

theorem contains_iff (h : Hierarchy.ofRules roleRules = .ok checker.hierarchy) (role : String) :
    checker.hierarchy.contains role = true ↔
      ∃ rule ∈ roleRules, role = rule.parent ∨ role = rule.child := by
  have records := Hierarchy.records_of_ofRules_eq_ok h
  rw [Hierarchy.contains, Bool.or_eq_true, List.contains_iff_mem, List.contains_iff_mem,
    records.mem_keys_iff, records.mem_values_iff, List.mem_map, List.mem_map]
  constructor
  · rintro (⟨rule, hrule, rfl⟩ | ⟨rule, hrule, rfl⟩)
    · exact ⟨rule, hrule, Or.inr rfl⟩
    · exact ⟨rule, hrule, Or.inl rfl⟩
  · rintro ⟨rule, hrule, rfl | rfl⟩
    · exact Or.inr ⟨rule, hrule, rfl⟩
    · exact Or.inl ⟨rule, hrule, rfl⟩

/-- The outcome of a construction. A conflict of role rules is reported first,
with the data of the first rule that conflicts; then comes inheritance of a role
from itself; then a permission rule without segments; and with none of these there
is a checker, which knows the parents, the number of children and the roles of its
role rules. -/
theorem ofRules_outcome (roleRules : List RoleRule) (permissionRules : List PermissionRule) :
    ((∃ child existing proposed, ofRules roleRules permissionRules =
        .error (.duplicateParent child existing proposed)) ↔ HaveConflict roleRules) ∧
    (∀ child existing proposed, ofRules roleRules permissionRules =
        .error (.duplicateParent child existing proposed) ↔
          FirstConflict roleRules child existing proposed) ∧
    ((∃ cycle, ofRules roleRules permissionRules = .error (.cycle cycle)) ↔
        ¬HaveConflict roleRules ∧ ∃ role, Inherits roleRules role role) ∧
    ((∃ fault, ofRules roleRules permissionRules = .error (.rule fault)) ↔
        ¬HaveConflict roleRules ∧ (¬∃ role, Inherits roleRules role role) ∧
          ∃ rule ∈ permissionRules, rule.resource = []) ∧
    ((∃ checker, ofRules roleRules permissionRules = .ok checker) ↔
        ¬HaveConflict roleRules ∧ (¬∃ role, Inherits roleRules role role) ∧
          ∀ rule ∈ permissionRules, rule.resource ≠ []) ∧
    ∀ checker, ofRules roleRules permissionRules = .ok checker →
      (∀ child parent, checker.hierarchy.parentOf child = some parent ↔
          ⟨parent, child⟩ ∈ roleRules) ∧
        checker.hierarchy.size = (roleRules.map RoleRule.child).toFinset.card ∧
          ∀ role, checker.hierarchy.contains role = true ↔
            ∃ rule ∈ roleRules, role = rule.parent ∨ role = rule.child := by
  refine ⟨?_, fun _ _ _ => ofRules_eq_duplicateParent_iff, ?_, ?_, ?_, fun checker h => ?_⟩
  · simp only [ofRules_eq_duplicateParent_iff]
    exact ParentTable.exists_firstConflict_iff
  · simp only [ofRules_eq_cycle_iff]
    exact Hierarchy.exists_ofRules_eq_cycle_iff
  · simp only [ofRules_eq_rule_iff, exists_and_left]
    rw [exists_rule_fault_iff, Hierarchy.exists_ofRules_eq_ok_iff, and_assoc]
  · rw [exists_ofRules_eq_ok_iff, Hierarchy.exists_ofRules_eq_ok_iff,
      Forest.exists_ofRules_eq_ok_iff, and_assoc]
  · have hhierarchy := (ofRules_eq_ok_iff.1 h).1
    refine ⟨fun child parent => ?_, size_eq_card hhierarchy, contains_iff hhierarchy⟩
    exact (Hierarchy.records_of_ofRules_eq_ok hhierarchy).get?_eq_some_iff

/-- The third rule gives a child another parent than the first; neither the cycle
that the second one closes nor the permission rule without segments is reported. -/
theorem ofRules_third_rule_conflicts :
    ofRules [⟨"Admin", "User"⟩, ⟨"User", "Admin"⟩, ⟨"Root", "User"⟩, ⟨"Top", "Admin"⟩]
      [⟨.allow, "User", []⟩] = .error (.duplicateParent "User" "Admin" "Root") := by
  rw [(ofRules_outcome _ _).2.1]
  exact ⟨[⟨"Admin", "User"⟩, ⟨"User", "Admin"⟩], [⟨"Top", "Admin"⟩], rfl, by decide, by decide,
    by decide⟩

end RoleAccess.Checker

import RoleAccess.Proofs.Role.Construction

/-!
# Ancestors and the outcomes of a construction

The ancestors that a hierarchy gives for a role are its ancestry
(`Hierarchy.exists_ancestors_eq`), and for a hierarchy made of rules they are the
role and all that it inherits from (`Hierarchy.mem_ancestors_iff_inherits`).

Rules give a hierarchy, a conflict or a cycle; a conflict comes before every
cycle.
-/

namespace RoleAccess.Hierarchy

variable {rules : List RoleRule} {hierarchy : Hierarchy}

theorem ofParents_eq_ok_iff {parents : ParentTable} :
    ofParents parents = .ok hierarchy ↔ hierarchy.parents = parents := by
  obtain ⟨held, hacyclic⟩ := hierarchy
  unfold ofParents
  split
  · next hnone => simp [eq_comm]
  · next cycle hsome =>
      constructor
      · intro h
        cases h
      · rintro rfl
        simp [hacyclic] at hsome

theorem ofParents_eq_error_iff {parents : ParentTable} {fault : PolicyError} :
    ofParents parents = .error fault ↔
      ∃ cycle, parents.findCycle = some cycle ∧ fault = .cycle cycle := by
  unfold ofParents
  split
  · next hnone => simp [hnone]
  · next cycle hsome => simp [hsome, eq_comm]

/-- The hierarchy of rules holds their table. -/
theorem ofRules_eq_ok_iff :
    ofRules rules = .ok hierarchy ↔ ParentTable.ofRules rules = .ok hierarchy.parents := by
  simp only [ofRules, Fold.bind_eq_ok_iff, ofParents_eq_ok_iff, exists_eq_right']

theorem records_of_ofRules_eq_ok (h : ofRules rules = .ok hierarchy) :
    hierarchy.parents.Records rules :=
  ParentTable.records_of_ofRules_eq_ok (ofRules_eq_ok_iff.1 h)

/-! ## Ancestors -/

/-- The ancestors of a role are its ancestry. -/
theorem exists_ancestors_eq (hierarchy : Hierarchy) (role : String) :
    ∃ rest, hierarchy.ancestors role = role :: rest ∧
      hierarchy.parents.IsAncestry (role :: rest) := by
  obtain ⟨rest, hrest⟩ := ParentTable.isGrounded_of_findCycle_eq_none hierarchy.acyclic role
  -- The fuel of the loop, the size of the table, bounds the length of every ancestry.
  exact ⟨rest, ParentTable.chain_eq_of_isAncestry hrest hrest.length_le_size, hrest⟩

theorem mem_ancestors_iff (hierarchy : Hierarchy) (role other : String) :
    other ∈ hierarchy.ancestors role ↔
      ∃ count, hierarchy.parents.climb count role = some other := by
  obtain ⟨rest, heq, hancestry⟩ := hierarchy.exists_ancestors_eq role
  rw [heq]
  exact hancestry.mem_iff other

/-- The ancestors of a role are the role and all that it inherits from. -/
theorem mem_ancestors_iff_inherits (h : ofRules rules = .ok hierarchy) (role other : String) :
    other ∈ hierarchy.ancestors role ↔ other = role ∨ Inherits rules role other := by
  rw [mem_ancestors_iff, (records_of_ofRules_eq_ok h).inherits_iff]
  constructor
  · rintro ⟨count, hcount⟩
    cases count with
    | zero =>
        rw [ParentTable.climb, Option.some.injEq] at hcount
        exact Or.inl hcount.symm
    | succ count => exact Or.inr ⟨count, hcount⟩
  · rintro (rfl | ⟨count, hcount⟩)
    · exact ⟨0, rfl⟩
    · exact ⟨count + 1, hcount⟩

/-! ## Outcomes -/

/-- Rules give a hierarchy unless they conflict or let a role inherit from
itself. -/
theorem exists_ofRules_eq_ok_iff :
    (∃ hierarchy, ofRules rules = .ok hierarchy) ↔
      ¬HaveConflict rules ∧ ¬∃ role, Inherits rules role role := by
  constructor
  · rintro ⟨hierarchy, h⟩
    have records := records_of_ofRules_eq_ok h
    refine ⟨records.noConflict, ?_⟩
    rw [← records.exists_findCycle_eq_some_iff]
    rintro ⟨cycle, hcycle⟩
    simp [hierarchy.acyclic] at hcycle
  · rintro ⟨hconflict, hcycle⟩
    obtain ⟨parents, hparents⟩ := ParentTable.exists_ofRules_eq_ok hconflict
    have records := ParentTable.records_of_ofRules_eq_ok hparents
    rw [← records.exists_findCycle_eq_some_iff] at hcycle
    have hnone : parents.findCycle = none := by
      rw [Option.eq_none_iff_forall_ne_some]
      intro cycle hsome
      exact hcycle ⟨cycle, hsome⟩
    exact ⟨⟨parents, hnone⟩, ofRules_eq_ok_iff.2 hparents⟩

/-- The error of a construction is that of the table, or a cycle of the table. -/
theorem ofRules_eq_error_iff {fault : PolicyError} :
    ofRules rules = .error fault ↔
      (∃ child existing proposed, FirstConflict rules child existing proposed ∧
        fault = .duplicateParent child existing proposed) ∨
      ∃ parents cycle, ParentTable.ofRules rules = .ok parents ∧
        parents.findCycle = some cycle ∧ fault = .cycle cycle := by
  simp only [ofRules, Fold.bind_eq_error_iff, ParentTable.ofRules_eq_error_iff,
    ofParents_eq_error_iff, exists_and_left]

theorem ofRules_eq_duplicateParent_iff {child existing proposed : String} :
    ofRules rules = .error (.duplicateParent child existing proposed) ↔
      FirstConflict rules child existing proposed := by
  rw [ofRules_eq_error_iff]
  constructor
  · rintro (⟨child', existing', proposed', hfirst, heq⟩ | ⟨parents, cycle, -, -, heq⟩)
    · cases heq
      exact hfirst
    · cases heq
  · intro h
    exact Or.inl ⟨child, existing, proposed, h, rfl⟩

theorem exists_ofRules_eq_cycle_iff :
    (∃ cycle, ofRules rules = .error (.cycle cycle)) ↔
      ¬HaveConflict rules ∧ ∃ role, Inherits rules role role := by
  constructor
  · rintro ⟨cycle, h⟩
    rcases ofRules_eq_error_iff.1 h with ⟨child, existing, proposed, -, heq⟩ | h
    · cases heq
    · obtain ⟨parents, found, hparents, hfound, -⟩ := h
      have records := ParentTable.records_of_ofRules_eq_ok hparents
      refine ⟨records.noConflict, ?_⟩
      rw [← records.exists_findCycle_eq_some_iff]
      exact ⟨found, hfound⟩
  · rintro ⟨hconflict, hcycle⟩
    obtain ⟨parents, hparents⟩ := ParentTable.exists_ofRules_eq_ok hconflict
    have records := ParentTable.records_of_ofRules_eq_ok hparents
    rw [← records.exists_findCycle_eq_some_iff] at hcycle
    obtain ⟨cycle, hcycle⟩ := hcycle
    exact ⟨cycle, ofRules_eq_error_iff.2 (Or.inr ⟨parents, cycle, hparents, hcycle, rfl⟩)⟩

end RoleAccess.Hierarchy

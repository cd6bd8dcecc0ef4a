import RoleAccess.Role.Hierarchy

/-!
# Inheritance

What role rules and parent tables mean, said without a search. Rules lead from a
role to an ancestor in one step or more (`Inherits`); in a table, a role is
climbed from by following parents (`ParentTable.climb`), and a table is cyclic
if some climb comes back to its start. An ancestry is a list of roles, each
followed by its parent, that ends at a role without parent.

A role has at most one ancestry, and a chain with enough fuel gives it
(`chain_eq_of_isAncestry`).
-/

namespace RoleAccess

/-- Rules lead from a role to an ancestor, in one step or more. -/
inductive Inherits (rules : List RoleRule) : (role ancestor : String) → Prop where
  | parent {role ancestor : String} (h : ⟨ancestor, role⟩ ∈ rules) : Inherits rules role ancestor
  | through {role parent ancestor : String} (h : ⟨parent, role⟩ ∈ rules)
      (above : Inherits rules parent ancestor) : Inherits rules role ancestor

namespace Inherits

variable {rules others : List RoleRule} {role middle ancestor : String}

theorem trans (below : Inherits rules role middle) (above : Inherits rules middle ancestor) :
    Inherits rules role ancestor := by
  induction below with
  | parent h => exact .through h above
  | through h _ ih => exact .through h (ih above)

/-- More rules lead further. -/
theorem mono (h : rules ⊆ others) (below : Inherits rules role ancestor) :
    Inherits others role ancestor := by
  induction below with
  | parent hr => exact .parent (h hr)
  | through hr _ ih => exact .through (h hr) ih

end Inherits

/-- Two rules give one child different parents. -/
def HaveConflict (rules : List RoleRule) : Prop :=
  ∃ first ∈ rules, ∃ second ∈ rules, first.child = second.child ∧ first.parent ≠ second.parent

instance (rules : List RoleRule) : Decidable (HaveConflict rules) :=
  inferInstanceAs (Decidable (∃ first ∈ rules, ∃ second ∈ rules,
    first.child = second.child ∧ first.parent ≠ second.parent))

namespace ParentTable

/-- The role reached from a role by a number of steps from child to parent. -/
def climb (parents : ParentTable) : (count : Nat) → (role : String) → Option String
  | 0, role => some role
  | count + 1, role => (parents.get? role).bind (climb parents count)

/-- Some role is reached again from itself. -/
def IsCyclic (parents : ParentTable) : Prop :=
  ∃ role count, parents.climb (count + 1) role = some role

/-- Each role of a list is followed by its parent, and the last one has none. -/
inductive IsAncestry (parents : ParentTable) : List String → Prop where
  | top {role : String} (h : parents.get? role = none) : IsAncestry parents [role]
  | under {role parent : String} {rest : List String} (h : parents.get? role = some parent)
      (above : IsAncestry parents (parent :: rest)) : IsAncestry parents (role :: parent :: rest)

theorem climb_add (parents : ParentTable) (m n : Nat) (role : String) :
    parents.climb (m + n) role = (parents.climb m role).bind (parents.climb n) := by
  induction m generalizing role with
  | zero => simp [climb]
  | succ m ih =>
      rw [Nat.succ_add]
      cases h : parents.get? role with
      | none => simp [climb, h]
      | some parent => simp [climb, h, ih]

/-- With enough fuel, the chain of a role is its ancestry. -/
theorem chain_eq_of_isAncestry {parents : ParentTable} {role : String} {rest : List String}
    (h : parents.IsAncestry (role :: rest)) {fuel : Nat} (enough : rest.length ≤ fuel) :
    parents.chain fuel role = role :: rest := by
  induction fuel generalizing role rest with
  | zero =>
      cases rest with
      | nil => rfl
      | cons parent rest => simp at enough
  | succ fuel ih =>
      cases h with
      | top hnone => simp [chain, hnone]
      | under hsome above =>
          simp only [List.length_cons, Nat.add_le_add_iff_right] at enough
          simp [chain, hsome, ih above enough]

end ParentTable

end RoleAccess

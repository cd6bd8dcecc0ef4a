import RoleAccess.Proofs.Role.Hierarchy

/-!
# How ancestors are resolved

Ancestors are resolved in a loop that goes up from a role as long as there is a parent. Here
the loop is stated without a bound on its steps (`GoesUp`). It ends from every role that has an
ancestry, after one step for each role above it (`IsAncestry.goesUp_iff`), and in a hierarchy
these are at most as many as there are roles with a parent.

What comes out is the only list of roles that begins with the given one, goes from child to
parent and ends at a role without parent (`isAncestry_iff`).
-/

namespace RoleAccess

namespace ParentTable

variable {parents : ParentTable} {role : String} {roles rest chain result : List String}

/-- Going up from `chain`, as long as there is a `next` role, takes a number of steps and
results in a longer chain. -/
inductive GoesUp (parents : ParentTable) :
    (steps : Nat) → (chain : List String) → (next : Option String) → (result : List String) →
      Prop where
  | done {chain : List String} : GoesUp parents 0 chain none chain
  | up {steps : Nat} {chain result : List String} {parent : String}
      (above : GoesUp parents steps (chain ++ [parent]) (parents.get? parent) result) :
      GoesUp parents (steps + 1) chain (some parent) result

/-- Going up from a role adds the roles above it, one at each step. -/
theorem IsAncestry.goesUp_iff {steps : Nat} (h : parents.IsAncestry (role :: rest)) :
    parents.GoesUp steps chain (parents.get? role) result ↔
      steps = rest.length ∧ result = chain ++ rest := by
  induction rest generalizing role chain steps with
  | nil =>
      cases h with
      | top hnone =>
          rw [hnone, List.append_nil]
          constructor
          · intro hup
            cases hup
            exact ⟨rfl, rfl⟩
          · rintro ⟨rfl, rfl⟩
            exact .done
  | cons parent rest ih =>
      cases h with
      | under hsome above =>
          rw [hsome]
          constructor
          · intro hup
            cases hup with
            | up hrest =>
                obtain ⟨rfl, rfl⟩ := (ih above).1 hrest
                exact ⟨rfl, by rw [List.append_assoc, List.singleton_append]⟩
          · rintro ⟨rfl, rfl⟩
            refine .up ((ih above).2 ⟨rfl, ?_⟩)
            rw [List.append_assoc, List.singleton_append]

/-- An ancestry is a path to a role without parent. -/
theorem isAncestry_iff :
    parents.IsAncestry roles ↔
      roles ≠ [] ∧ parents.IsPath roles ∧ ∀ last ∈ roles.getLast?, parents.get? last = none := by
  constructor
  · intro h
    refine ⟨?_, h.isPath, ?_⟩
    · rintro rfl
      cases h
    · induction h with
      | top hnone => simpa using hnone
      | under hsome above ih =>
          rw [List.getLast?_cons_cons]
          exact ih
  · rintro ⟨hne, hpath, hlast⟩
    induction roles with
    | nil => exact absurd rfl hne
    | cons role rest ih =>
        cases rest with
        | nil => exact .top (hlast role rfl)
        | cons parent rest =>
            obtain ⟨hsome, hrest⟩ := List.isChain_cons_cons.1 hpath
            rw [List.getLast?_cons_cons] at hlast
            exact .under hsome (ih (by simp) hrest hlast)

end ParentTable

namespace Hierarchy

/-- However a hierarchy was built, going up from any role ends, after at most one step for each
role that has a parent. It comes to the ancestors of the role, and these are the only list
without repetition that begins with the role, goes from child to parent and ends at a role
without parent. -/
theorem ancestors_resolved_and_unique (hierarchy : Hierarchy) (role : String) :
    (∃ steps ≤ hierarchy.size, ∀ count result,
      hierarchy.parents.GoesUp count [role] (hierarchy.parentOf role) result ↔
        count = steps ∧ result = hierarchy.ancestors role) ∧
      ∀ chain, (chain.head? = some role ∧ hierarchy.parents.IsPath chain ∧
        (∀ last ∈ chain.getLast?, hierarchy.parentOf last = none) ∧ chain.Nodup) ↔
          chain = hierarchy.ancestors role := by
  obtain ⟨rest, heq, hancestry⟩ := hierarchy.exists_ancestors_eq role
  rw [heq]
  refine ⟨⟨rest.length, hancestry.length_le_size, fun count result => ?_⟩, fun chain => ?_⟩
  · exact hancestry.goesUp_iff
  · constructor
    · rintro ⟨hhead, hpath, hlast, -⟩
      obtain ⟨others, rfl⟩ := List.head?_eq_some_iff.1 hhead
      -- The list is an ancestry of the role too, and there is only one.
      have hchain := ParentTable.isAncestry_iff.2 ⟨by simp, hpath, hlast⟩
      rw [hchain.unique hancestry]
    · rintro rfl
      obtain ⟨-, hpath, hlast⟩ := ParentTable.isAncestry_iff.1 hancestry
      exact ⟨rfl, hpath, hlast, hancestry.nodup⟩

end Hierarchy

end RoleAccess

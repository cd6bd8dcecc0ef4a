import RoleAccess.Proofs.Role.Ancestry

/-!
# The search for a cycle

A walk keeps the roles it has visited as a trail: a path of child-parent steps
without repetition that leads to the role it stands at. A trail has at most one
role for each child of the table, so a walk that is given one step more never
runs out of them. If it ends, its start is grounded and so is every role it has
visited (`isGrounded_of_walk_eq_ended`); if it loops, it reports the part of its
trail from the first visit to the role it has come back to
(`exists_trail_of_walk_eq_looped`).

So clearing the visited roles of a walk is sound, and the search finds a cycle
exactly if some role is reached again from itself
(`exists_findCycle_eq_some_iff`). The cycle comes from the first start that is
not grounded.
-/

namespace RoleAccess.ParentTable

variable {parents : ParentTable} {role parent start : String}
  {cleared visited starts cycle : List String}

/-- The roles visited on the way to a role, without repetition. -/
structure IsTrail (parents : ParentTable) (visited : List String) (role : String) : Prop where
  path : parents.IsPath (visited ++ [role])
  nodup : visited.Nodup

/-- Following parents from a role leads back to a role visited on the way; the
cycle is the part of the way from that role on. -/
def IsCycleFrom (parents : ParentTable) (start : String) (cycle : List String) : Prop :=
  ∃ trail back, parents.IsTrail trail back ∧ back ∈ trail ∧ trail.head? = some start ∧
    cycle = trail.dropWhile (· ≠ back) ++ [back]

theorem IsPath.subset_keys {front : List String} (h : parents.IsPath (front ++ [role])) :
    front ⊆ parents.keys := by
  induction front with
  | nil => simp
  | cons first front ih =>
      refine List.cons_subset.2 ⟨?_, ih (List.isChain_of_isChain_cons h)⟩
      rw [parents.mem_keys_iff]
      cases front with
      | nil => exact ⟨role, (List.isChain_cons_cons.1 h).1⟩
      | cons next front => exact ⟨next, (List.isChain_cons_cons.1 h).1⟩

namespace IsTrail

theorem nil (role : String) : parents.IsTrail [] role :=
  ⟨List.isChain_singleton _, List.nodup_nil⟩

/-- The step to the parent of a new role. -/
theorem extend (trail : parents.IsTrail visited role) (hnew : role ∉ visited)
    (hsome : parents.get? role = some parent) : parents.IsTrail (visited ++ [role]) parent := by
  refine ⟨trail.path.append_singleton hsome, List.nodup_append.2 ⟨trail.nodup, by simp, ?_⟩⟩
  intro other hother last hlast heq
  rw [List.mem_singleton] at hlast
  exact hnew (hlast ▸ heq ▸ hother)

theorem length_le_size (trail : parents.IsTrail visited role) :
    visited.length ≤ parents.size := by
  have hle := trail.nodup.length_le_of_subset trail.path.subset_keys
  rwa [parents.length_keys] at hle

/-- A trail that comes back to one of its roles shows a cycle. -/
theorem climb_of_mem (trail : parents.IsTrail visited role) (hm : role ∈ visited) :
    ∃ count, parents.climb (count + 1) role = some role := by
  obtain ⟨front, rest, rfl⟩ := List.append_of_mem hm
  have hpath := trail.path
  rw [List.append_assoc] at hpath
  exact ⟨rest.length, climb_of_path (List.isChain_append.1 hpath).2.1⟩

end IsTrail

/-! ## One walk -/

theorem walk_succ (parents : ParentTable) (cleared : List String) (fuel : Nat)
    (visited : List String) (role : String) :
    parents.walk cleared (fuel + 1) visited role =
      if role ∈ cleared then .ended visited
      else if role ∈ visited then .looped (visited.dropWhile (· ≠ role) ++ [role])
      else
        match parents.get? role with
        | none => .ended (visited ++ [role])
        | some parent => parents.walk cleared fuel (visited ++ [role]) parent := by
  by_cases hc : role ∈ cleared
  · simp [walk, hc]
  · by_cases hv : role ∈ visited
    · simp [walk, hc, hv]
    · cases hparent : parents.get? role with
      | none => simp [walk, hc, hv, hparent]
      | some parent => simp [walk, hc, hv, hparent]

/-- A walk that ends shows that its start and all visited roles are grounded. -/
theorem isGrounded_of_walk_eq_ended {ended : List String} {fuel : Nat}
    (hcleared : ∀ other ∈ cleared, parents.IsGrounded other)
    (trail : parents.IsTrail visited role) (enough : parents.size < visited.length + fuel)
    (h : parents.walk cleared fuel visited role = .ended ended) :
    parents.IsGrounded role ∧ ∀ other ∈ ended, parents.IsGrounded other := by
  induction fuel generalizing visited role with
  | zero =>
      -- A trail as long as the fuel spent would not fit into the table.
      have hle := trail.length_le_size
      omega
  | succ fuel ih =>
      rw [walk_succ] at h
      by_cases hc : role ∈ cleared
      · -- The walk has met a cleared role, and the trail leads there.
        rw [if_pos hc, WalkEnd.ended.injEq] at h
        subst h
        exact ⟨hcleared role hc, isGrounded_of_path trail.path (hcleared role hc)⟩
      · rw [if_neg hc] at h
        by_cases hv : role ∈ visited
        · rw [if_pos hv] at h
          cases h
        · rw [if_neg hv] at h
          cases hp : parents.get? role with
          | none =>
              -- The walk is at a top, and the trail leads there.
              have hrole := isGrounded_of_get?_eq_none hp
              simp only [hp, WalkEnd.ended.injEq] at h
              subst h
              refine ⟨hrole, fun other hm => ?_⟩
              rcases List.mem_append.1 hm with hm | hm
              · exact isGrounded_of_path trail.path hrole other hm
              · exact List.mem_singleton.1 hm ▸ hrole
          | some parent =>
              -- One more role is on the trail for the unit of fuel that is spent.
              simp only [hp] at h
              have hlen : parents.size < (visited ++ [role]).length + fuel := by
                rw [List.length_append, List.length_singleton]
                omega
              obtain ⟨habove, hended⟩ := ih (trail.extend hv hp) hlen h
              exact ⟨isGrounded_of_parent hp habove, hended⟩

/-- A walk that loops has gone on from its trail to a role of the trail. -/
theorem exists_trail_of_walk_eq_looped {fuel : Nat} (trail : parents.IsTrail visited role)
    (h : parents.walk cleared fuel visited role = .looped cycle) :
    ∃ full back, parents.IsTrail full back ∧ back ∈ full ∧
      visited ++ [role] <+: full ++ [back] ∧ cycle = full.dropWhile (· ≠ back) ++ [back] := by
  induction fuel generalizing visited role with
  | zero => cases h
  | succ fuel ih =>
      rw [walk_succ] at h
      by_cases hc : role ∈ cleared
      · rw [if_pos hc] at h
        cases h
      · rw [if_neg hc] at h
        by_cases hv : role ∈ visited
        · -- The walk is back at a role of its trail, which goes no further.
          rw [if_pos hv, WalkEnd.looped.injEq] at h
          exact ⟨visited, role, trail, hv, List.prefix_refl _, h.symm⟩
        · rw [if_neg hv] at h
          cases hp : parents.get? role with
          | none =>
              simp only [hp] at h
              cases h
          | some parent =>
              simp only [hp] at h
              obtain ⟨full, back, hfull, hback, hprefix, hcycle⟩ := ih (trail.extend hv hp) h
              exact ⟨full, back, hfull, hback, (List.prefix_append _ _).trans hprefix, hcycle⟩

/-- What a walk from its start reports. -/
theorem isCycleFrom_of_walk_eq_looped {fuel : Nat}
    (h : parents.walk cleared fuel [] start = .looped cycle) :
    parents.IsCycleFrom start cycle := by
  obtain ⟨full, back, hfull, hback, hprefix, hcycle⟩ :=
    exists_trail_of_walk_eq_looped (IsTrail.nil start) h
  refine ⟨full, back, hfull, hback, ?_, hcycle⟩
  cases full with
  | nil => simp at hback
  | cons first rest =>
      rw [List.nil_append, List.cons_append, List.cons_prefix_cons] at hprefix
      rw [List.head?_cons, hprefix.1]

/-! ## The search -/

theorem isGrounded_of_findCycleFrom_eq_none
    (hcleared : ∀ other ∈ cleared, parents.IsGrounded other)
    (h : parents.findCycleFrom cleared starts = none) :
    ∀ start ∈ starts, parents.IsGrounded start := by
  induction starts generalizing cleared with
  | nil => intro start hm; simp at hm
  | cons first starts ih =>
      cases hw : parents.walk cleared (parents.size + 1) [] first with
      | looped cycle => simp [findCycleFrom, hw] at h
      | ended visited =>
          simp only [findCycleFrom, hw] at h
          obtain ⟨hfirst, hvisited⟩ := isGrounded_of_walk_eq_ended hcleared
            (IsTrail.nil first) (by simp) hw
          -- What this walk has visited is rightly cleared for the walks after it.
          have hall := List.forall_mem_append.2 ⟨hcleared, hvisited⟩
          intro start hm
          rcases List.mem_cons.1 hm with rfl | hm
          · exact hfirst
          · exact ih hall h start hm

/-- A cycle that is found comes from the first start that is not grounded. -/
theorem exists_start_of_findCycleFrom_eq_some
    (hcleared : ∀ other ∈ cleared, parents.IsGrounded other)
    (h : parents.findCycleFrom cleared starts = some cycle) :
    ∃ before start after, starts = before ++ start :: after ∧
      (∀ other ∈ before, parents.IsGrounded other) ∧ parents.IsCycleFrom start cycle := by
  induction starts generalizing cleared with
  | nil => cases h
  | cons first starts ih =>
      cases hw : parents.walk cleared (parents.size + 1) [] first with
      | looped found =>
          simp only [findCycleFrom, hw, Option.some.injEq] at h
          subst h
          exact ⟨[], first, starts, rfl, by simp, isCycleFrom_of_walk_eq_looped hw⟩
      | ended visited =>
          simp only [findCycleFrom, hw] at h
          obtain ⟨hfirst, hvisited⟩ := isGrounded_of_walk_eq_ended hcleared
            (IsTrail.nil first) (by simp) hw
          have hall := List.forall_mem_append.2 ⟨hcleared, hvisited⟩
          obtain ⟨before, start, after, rfl, hbefore, hcycle⟩ := ih hall h
          refine ⟨first :: before, start, after, rfl, fun other hm => ?_, hcycle⟩
          rcases List.mem_cons.1 hm with rfl | hm
          · exact hfirst
          · exact hbefore other hm

/-- In a table without a cycle, every role is grounded. -/
theorem isGrounded_of_findCycle_eq_none (h : parents.findCycle = none) (role : String) :
    parents.IsGrounded role := by
  cases hp : parents.get? role with
  | none => exact isGrounded_of_get?_eq_none hp
  | some parent =>
      -- A role with a parent is a child of the table, so it is one of the starts.
      have hkey : role ∈ parents.keys := (parents.mem_keys_iff role).2 ⟨parent, hp⟩
      exact isGrounded_of_findCycleFrom_eq_none (by simp) h role hkey

/-- The search finds a cycle exactly if some role is reached again from itself. -/
theorem exists_findCycle_eq_some_iff (parents : ParentTable) :
    (∃ cycle, parents.findCycle = some cycle) ↔ parents.IsCyclic := by
  constructor
  · rintro ⟨cycle, h⟩
    obtain ⟨-, start, -, -, -, trail, back, htrail, hback, -, -⟩ :=
      exists_start_of_findCycleFrom_eq_some (by simp) h
    obtain ⟨count, hclimb⟩ := htrail.climb_of_mem hback
    exact ⟨back, count, hclimb⟩
  · rintro ⟨role, count, hclimb⟩
    cases h : parents.findCycle with
    | some cycle => exact ⟨cycle, rfl⟩
    | none =>
        exact absurd (isGrounded_of_findCycle_eq_none h role) (not_isGrounded_of_climb hclimb)

end RoleAccess.ParentTable

import Mathlib.Data.List.Chain
import Mathlib.Data.List.Nodup
import RoleAccess.Role.Inheritance

/-!
# Ancestries of a parent table

A role is grounded if following parents from it ends, that is, if it has an
ancestry. The ancestry of a role is unique and lists the roles reached from it
by climbing, each at the place that counts the steps
(`IsAncestry.climb_eq_getElem?`). So no role occurs in it twice, and it has at
most one role more than the table has children (`IsAncestry.length_le_size`).

A path of child-parent steps carries groundedness down from its last role to all
the others (`isGrounded_of_path`), and a climb along a path arrives at its last
role (`climb_of_path`).
-/

namespace RoleAccess.ParentTable

variable {parents : ParentTable} {role child parent : String} {rest others : List String}

/-- Following parents from a role ends. -/
def IsGrounded (parents : ParentTable) (role : String) : Prop :=
  ∃ rest, parents.IsAncestry (role :: rest)

/-- Each role of a list but the last is followed by its parent. -/
def IsPath (parents : ParentTable) (roles : List String) : Prop :=
  roles.IsChain fun child parent => parents.get? child = some parent

namespace IsAncestry

theorem unique (h : parents.IsAncestry (role :: rest))
    (h' : parents.IsAncestry (role :: others)) : rest = others := by
  -- The table decides for both whether the role is at the top or has a parent.
  induction rest generalizing role others with
  | nil =>
      cases h with
      | top hnone =>
          cases h' with
          | top => rfl
          | under hsome _ => simp [hnone] at hsome
  | cons next rest ih =>
      cases h with
      | under hsome above =>
          cases h' with
          | top hnone => simp [hnone] at hsome
          | under hsome' above' =>
              rw [hsome, Option.some.injEq] at hsome'
              subst hsome'
              rw [ih above above']

/-- Every end of an ancestry is one. -/
theorem suffix {front : List String} (h : parents.IsAncestry (front ++ role :: rest)) :
    parents.IsAncestry (role :: rest) := by
  induction front with
  | nil => exact h
  | cons first front ih =>
      cases hr : front ++ role :: rest with
      | nil => simp at hr
      | cons next back =>
          rw [List.cons_append, hr] at h
          -- More roles follow the first one, so it is not at the top.
          cases h with
          | under _ above => exact ih (hr ▸ above)

/-- A role is not among the roles above it. -/
theorem not_mem_rest (h : parents.IsAncestry (role :: rest)) : role ∉ rest := by
  intro hm
  obtain ⟨front, back, rfl⟩ := List.append_of_mem hm
  have hback : parents.IsAncestry (role :: back) := by
    rw [← List.cons_append] at h
    exact suffix h
  -- Two ancestries of the role would have different lengths.
  have hlen := congrArg List.length (unique h hback)
  simp only [List.length_append, List.length_cons] at hlen
  omega

theorem nodup {roles : List String} (h : parents.IsAncestry roles) : roles.Nodup := by
  induction h with
  | top => exact List.nodup_singleton _
  | under hsome above ih => exact List.nodup_cons.2 ⟨not_mem_rest (.under hsome above), ih⟩

theorem isPath {roles : List String} (h : parents.IsAncestry roles) : parents.IsPath roles := by
  induction h with
  | top => exact List.isChain_singleton _
  | under hsome _ ih => exact List.isChain_cons_cons.2 ⟨hsome, ih⟩

/-- Climbing from a role goes through its ancestry and then ends. -/
theorem climb_eq_getElem? (h : parents.IsAncestry (role :: rest)) (count : Nat) :
    parents.climb count role = (role :: rest)[count]? := by
  induction count generalizing role rest with
  | zero => rfl
  | succ count ih =>
      cases h with
      | top hnone => simp [climb, hnone]
      | under hsome above =>
          rw [climb, hsome, Option.bind_some, ih above]
          rfl

theorem mem_iff (h : parents.IsAncestry (role :: rest)) (other : String) :
    other ∈ role :: rest ↔ ∃ count, parents.climb count role = some other := by
  rw [List.mem_iff_getElem?]
  simp only [climb_eq_getElem? h]

/-- Every role of an ancestry but the last is a child of the table. -/
theorem dropLast_subset_keys {roles : List String} (h : parents.IsAncestry roles) :
    roles.dropLast ⊆ parents.keys := by
  induction h with
  | top => simp
  | under hsome _ ih =>
      rw [List.dropLast_cons_cons]
      exact List.cons_subset.2 ⟨(parents.mem_keys_iff _).2 ⟨_, hsome⟩, ih⟩

/-- There are at most as many roles above a role as the table has children. -/
theorem length_le_size (h : parents.IsAncestry (role :: rest)) : rest.length ≤ parents.size := by
  have hnodup : (role :: rest).dropLast.Nodup := h.nodup.sublist (List.dropLast_sublist _)
  have hle := hnodup.length_le_of_subset h.dropLast_subset_keys
  rw [List.length_dropLast, parents.length_keys] at hle
  simpa using hle

end IsAncestry

/-- In a table that keeps every parent, the ancestry of a role goes on where it ended. -/
theorem IsAncestry.isPrefix {extended : ParentTable}
    (keeps : ∀ child parent, parents.get? child = some parent → extended.get? child = some parent)
    (h : parents.IsAncestry (role :: rest)) (h' : extended.IsAncestry (role :: others)) :
    role :: rest <+: role :: others := by
  induction rest generalizing role others with
  | nil => exact List.cons_prefix_cons.2 ⟨rfl, List.nil_prefix⟩
  | cons parent rest ih =>
      refine List.cons_prefix_cons.2 ⟨rfl, ?_⟩
      cases h with
      | under hsome above =>
          have hkept := keeps _ _ hsome
          cases h' with
          | top hnone => simp [hkept] at hnone
          | under hsome' above' =>
              rw [hkept, Option.some.injEq] at hsome'
              subst hsome'
              exact ih above above'

/-! ## Paths -/

theorem IsPath.append_singleton {front : List String} (h : parents.IsPath (front ++ [child]))
    (hsome : parents.get? child = some parent) :
    parents.IsPath (front ++ [child] ++ [parent]) := by
  refine List.isChain_append.2 ⟨h, List.isChain_singleton _, ?_⟩
  intro last hlast first hfirst
  simp only [List.getLast?_append, List.getLast?_singleton, Option.some_or, Option.mem_def,
    Option.some.injEq] at hlast
  simp only [List.head?_cons, Option.mem_def, Option.some.injEq] at hfirst
  rw [← hlast, ← hfirst]
  exact hsome

/-- A climb along a path arrives at its last role. -/
theorem climb_of_path (h : parents.IsPath (role :: rest ++ [child])) :
    parents.climb (rest.length + 1) role = some child := by
  induction rest generalizing role with
  | nil =>
      have hsome : parents.get? role = some child := (List.isChain_cons_cons.1 h).1
      simp [climb, hsome]
  | cons next rest ih =>
      obtain ⟨hsome, habove⟩ := List.isChain_cons_cons.1 h
      rw [List.length_cons, climb, hsome, Option.bind_some]
      exact ih habove

theorem isGrounded_of_get?_eq_none (h : parents.get? role = none) : parents.IsGrounded role :=
  ⟨[], .top h⟩

theorem isGrounded_of_parent (h : parents.get? role = some parent)
    (above : parents.IsGrounded parent) : parents.IsGrounded role := by
  obtain ⟨rest, hrest⟩ := above
  exact ⟨parent :: rest, .under h hrest⟩

/-- A path that leads to a grounded role has grounded roles only. -/
theorem isGrounded_of_path {front : List String} (h : parents.IsPath (front ++ [role]))
    (above : parents.IsGrounded role) : ∀ other ∈ front, parents.IsGrounded other := by
  induction front with
  | nil => intro other hm; simp at hm
  | cons first front ih =>
      have htail : ∀ other ∈ front, parents.IsGrounded other :=
        ih (List.isChain_of_isChain_cons h)
      -- The parent of the first role is the next one, or the last role of the path.
      have hfirst : parents.IsGrounded first := by
        cases front with
        | nil => exact isGrounded_of_parent (List.isChain_cons_cons.1 h).1 above
        | cons next front =>
            exact isGrounded_of_parent (List.isChain_cons_cons.1 h).1 (htail next (by simp))
      intro other hm
      rcases List.mem_cons.1 hm with rfl | hm
      · exact hfirst
      · exact htail other hm

/-- A role is grounded if some climb from it leads beyond a top. -/
theorem isGrounded_iff : parents.IsGrounded role ↔ ∃ steps, parents.climb steps role = none := by
  constructor
  · rintro ⟨rest, hrest⟩
    exact ⟨rest.length + 1, by simp [hrest.climb_eq_getElem?]⟩
  · rintro ⟨steps, h⟩
    induction steps generalizing role with
    | zero => cases h
    | succ steps ih =>
        cases hp : parents.get? role with
        | none => exact isGrounded_of_get?_eq_none hp
        | some parent =>
            rw [climb, hp, Option.bind_some] at h
            exact isGrounded_of_parent hp (ih h)

/-- The roles above a grounded role are grounded. -/
theorem IsGrounded.of_climb {steps : Nat} {above : String} (h : parents.IsGrounded role)
    (hclimb : parents.climb steps role = some above) : parents.IsGrounded above := by
  obtain ⟨rest, hrest⟩ := h
  obtain ⟨front, back, hsplit⟩ := List.append_of_mem ((hrest.mem_iff above).2 ⟨steps, hclimb⟩)
  exact ⟨back, IsAncestry.suffix (hsplit ▸ hrest)⟩

/-- A role that is reached again from itself is not grounded. -/
theorem not_isGrounded_of_climb {count : Nat} (h : parents.climb (count + 1) role = some role) :
    ¬parents.IsGrounded role := by
  rintro ⟨rest, hrest⟩
  rw [hrest.climb_eq_getElem?, List.getElem?_cons_succ] at h
  exact hrest.not_mem_rest (List.mem_of_getElem? h)

end RoleAccess.ParentTable

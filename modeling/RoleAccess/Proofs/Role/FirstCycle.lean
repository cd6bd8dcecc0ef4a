import RoleAccess.Proofs.Role.Hierarchy

/-!
# The cycle that is reported

The search for a cycle is two loops, one over the children of a table and one from a role to
its parents. Here they are stated without a bound on their steps (`WalksTo`, `SearchesTo`), and
the bound that the search is given turns out to be no limit: a walk along a trail comes to the
one end that its loop has (`walksTo_iff`), and so does the search (`searchesTo_iff`).

What the search reports is a cycle of the table (`IsFirstCycle`): a closed path without
repetition, reached from the first child from which parents can be followed without end, and
begun at the first role on that way that lies on it. There is at most one such list
(`IsFirstCycle.unique`), because two closed paths that are entered from one role have the same
first role, and a path without repetition is determined by where it begins and ends
(`IsPath.eq_of_closed`).
-/

namespace RoleAccess

namespace ParentTable

variable {parents : ParentTable} {role start head : String} {found : WalkEnd}
  {cleared visited starts cycle other middle : List String}

/-! ## The loops without a bound -/

/-- The walk from a role to its parents, after `visited`, comes to an end. -/
inductive WalksTo (parents : ParentTable) (cleared : List String) :
    (visited : List String) → (role : String) → WalkEnd → Prop where
  | cleared {visited : List String} {role : String} (h : role ∈ cleared) :
      WalksTo parents cleared visited role (.ended visited)
  | looped {visited : List String} {role : String} (new : role ∉ cleared) (h : role ∈ visited) :
      WalksTo parents cleared visited role (.looped (visited.dropWhile (· ≠ role) ++ [role]))
  | top {visited : List String} {role : String} (new : role ∉ cleared) (unseen : role ∉ visited)
      (h : parents.get? role = none) :
      WalksTo parents cleared visited role (.ended (visited ++ [role]))
  | up {visited : List String} {role parent : String} {found : WalkEnd} (new : role ∉ cleared)
      (unseen : role ∉ visited) (h : parents.get? role = some parent)
      (above : WalksTo parents cleared (visited ++ [role]) parent found) :
      WalksTo parents cleared visited role found

/-- The walks from the given starts, one after the other, find a cycle or none. -/
inductive SearchesTo (parents : ParentTable) :
    (cleared starts : List String) → Option (List String) → Prop where
  | done {cleared : List String} : SearchesTo parents cleared [] none
  | looped {cleared starts cycle : List String} {start : String}
      (walk : WalksTo parents cleared [] start (.looped cycle)) :
      SearchesTo parents cleared (start :: starts) (some cycle)
  | next {cleared starts visited : List String} {start : String} {found : Option (List String)}
      (walk : WalksTo parents cleared [] start (.ended visited))
      (rest : SearchesTo parents (cleared ++ visited) starts found) :
      SearchesTo parents cleared (start :: starts) found

/-- The steps of a trail fit into the bound of a walk, so the walk comes to the end of its
loop and to no other one. -/
theorem walksTo_iff {fuel : Nat} (trail : parents.IsTrail visited role)
    (enough : parents.size < visited.length + fuel) :
    parents.WalksTo cleared visited role found ↔
      parents.walk cleared fuel visited role = found := by
  induction fuel generalizing visited role with
  | zero =>
      have hle := trail.length_le_size
      omega
  | succ fuel ih =>
      rw [walk_succ]
      by_cases hc : role ∈ cleared
      · rw [if_pos hc]
        constructor
        · intro h
          cases h with
          | cleared => rfl
          | looped new | top new | up new => exact absurd hc new
        · rintro rfl
          exact .cleared hc
      · rw [if_neg hc]
        by_cases hv : role ∈ visited
        · rw [if_pos hv]
          constructor
          · intro h
            cases h with
            | cleared h => exact absurd h hc
            | looped => rfl
            | top _ unseen | up _ unseen => exact absurd hv unseen
          · rintro rfl
            exact .looped hc hv
        · rw [if_neg hv]
          cases hp : parents.get? role with
          | none =>
              constructor
              · intro h
                cases h with
                | cleared h => exact absurd h hc
                | looped _ h => exact absurd h hv
                | top => rfl
                | up _ _ h => simp [hp] at h
              · rintro rfl
                exact .top hc hv hp
          | some parent =>
              have hlen : parents.size < (visited ++ [role]).length + fuel := by
                rw [List.length_append, List.length_singleton]
                omega
              rw [← ih (trail.extend hv hp) hlen]
              constructor
              · intro h
                cases h with
                | cleared h => exact absurd h hc
                | looped _ h => exact absurd h hv
                | top _ _ h => simp [hp] at h
                | up _ _ h above =>
                    rw [hp, Option.some.injEq] at h
                    exact h ▸ above
              · intro above
                exact .up hc hv hp above

theorem walksTo_nil_iff :
    parents.WalksTo cleared [] start found ↔
      parents.walk cleared (parents.size + 1) [] start = found :=
  walksTo_iff (IsTrail.nil start) (by simp)

/-- The search comes to the end of its loops, whatever has been cleared. -/
theorem searchesTo_iff {found : Option (List String)} :
    parents.SearchesTo cleared starts found ↔ parents.findCycleFrom cleared starts = found := by
  induction starts generalizing cleared found with
  | nil =>
      constructor
      · intro h
        cases h
        rfl
      · rintro rfl
        exact .done
  | cons start starts ih =>
      constructor
      · intro h
        cases h with
        | looped walk => simp [findCycleFrom, walksTo_nil_iff.1 walk]
        | next walk rest =>
            simp only [findCycleFrom, walksTo_nil_iff.1 walk]
            exact ih.1 rest
      · rintro rfl
        cases hw : parents.walk cleared (parents.size + 1) [] start with
        | looped cycle =>
            simp only [findCycleFrom, hw]
            exact .looped (walksTo_nil_iff.2 hw)
        | ended visited =>
            simp only [findCycleFrom, hw]
            exact .next (walksTo_nil_iff.2 hw) (ih.2 rfl)

/-! ## Closed paths -/

/-- Along a path, climbing goes through its roles. -/
theorem IsPath.climb_eq_getElem? {rest : List String} {steps : Nat}
    (h : parents.IsPath (role :: rest)) (hle : steps ≤ rest.length) :
    parents.climb steps role = (role :: rest)[steps]? := by
  induction steps generalizing role rest with
  | zero => rfl
  | succ steps ih =>
      cases rest with
      | nil => simp at hle
      | cons next rest =>
          obtain ⟨hsome, habove⟩ := List.isChain_cons_cons.1 h
          rw [climb, hsome, Option.bind_some, ih habove (Nat.le_of_succ_le_succ hle)]
          rfl

/-- A list that ends as it begins, after one step or more. -/
theorem exists_eq_of_closed (hlength : 2 ≤ cycle.length) (hclosed : cycle.head? = cycle.getLast?) :
    ∃ head middle, cycle = head :: middle ++ [head] := by
  cases cycle with
  | nil => simp at hlength
  | cons head tail =>
      rcases List.eq_nil_or_concat' tail with rfl | ⟨middle, last, rfl⟩
      · simp at hlength
      · rw [← List.cons_append, List.getLast?_concat, List.cons_append, List.head?_cons,
          Option.some.injEq] at hclosed
        exact ⟨head, middle, by rw [hclosed, List.cons_append]⟩

/-- From a role of a closed path, climbing leads around to its first role. -/
theorem IsPath.exists_climb_eq_head (h : parents.IsPath (head :: middle ++ [head]))
    (hm : role ∈ head :: middle) : ∃ steps, parents.climb steps role = some head := by
  obtain ⟨front, back, hsplit⟩ := List.append_of_mem hm
  rw [hsplit, List.append_assoc] at h
  exact ⟨back.length + 1, climb_of_path (List.isChain_append.1 h).2.1⟩

/-- Climbing does not leave a closed path. -/
theorem IsPath.climb_mem {steps : Nat} {above : String}
    (h : parents.IsPath (head :: middle ++ [head])) (hm : role ∈ head :: middle)
    (hclimb : parents.climb steps role = some above) : above ∈ head :: middle := by
  induction steps generalizing role with
  | zero =>
      rw [climb, Option.some.injEq] at hclimb
      exact hclimb ▸ hm
  | succ steps ih =>
      obtain ⟨parent, hsome, hrest⟩ := Option.bind_eq_some_iff.1 hclimb
      -- The parent is the next role of the path, or the first one after the last.
      refine ih ?_ hrest
      obtain ⟨front, back, hsplit⟩ := List.append_of_mem hm
      have hpath := h
      rw [hsplit, List.append_assoc] at hpath
      have hback := (List.isChain_append.1 hpath).2.1
      cases back with
      | nil =>
          rw [(List.isChain_cons_cons.1 hback).1, Option.some.injEq] at hsome
          exact hsome ▸ List.mem_cons_self
      | cons next back =>
          rw [(List.isChain_cons_cons.1 hback).1, Option.some.injEq] at hsome
          rw [hsplit]
          simp [hsome]

/-- A path is determined by its first role and by its last one, if that is new. -/
theorem IsPath.eq_of_closed {last : String} (h : parents.IsPath (role :: middle ++ [last]))
    (h' : parents.IsPath (role :: other ++ [last])) (hnew : last ∉ middle) (hnew' : last ∉ other) :
    middle = other := by
  induction middle generalizing role other with
  | nil =>
      cases other with
      | nil => rfl
      | cons next other =>
          have hlast := (List.isChain_cons_cons.1 h).1
          have hnext := (List.isChain_cons_cons.1 h').1
          rw [hlast, Option.some.injEq] at hnext
          exact absurd (hnext ▸ List.mem_cons_self) hnew'
  | cons first middle ih =>
      obtain ⟨hfirst, hmiddle⟩ := List.isChain_cons_cons.1 h
      cases other with
      | nil =>
          have hlast := (List.isChain_cons_cons.1 h').1
          rw [hfirst, Option.some.injEq] at hlast
          exact absurd (hlast ▸ List.mem_cons_self) hnew
      | cons next other =>
          obtain ⟨hnext, hother⟩ := List.isChain_cons_cons.1 h'
          rw [hfirst, Option.some.injEq] at hnext
          subst hnext
          rw [ih hmiddle hother (fun hm => hnew (List.mem_cons_of_mem _ hm))
            (fun hm => hnew' (List.mem_cons_of_mem _ hm))]

/-! ## The first cycle -/

/-- Parents can be followed from a role without end. -/
def IsEndless (parents : ParentTable) (role : String) : Prop :=
  ∀ steps, (parents.climb steps role).isSome

/-- Climbing from a role is at the first role of a list after some steps, and at no role of the
list before. -/
def EntersAt (parents : ParentTable) (start : String) (steps : Nat) (roles : List String) : Prop :=
  parents.climb steps start = roles.head? ∧
    ∀ earlier < steps, ∀ role, parents.climb earlier start = some role → role ∉ roles

/-- A list of roles is the cycle reached from the first child of a table from which parents can
be followed without end, from the first role on the way that lies on it. -/
structure IsFirstCycle (parents : ParentTable) (cycle : List String) : Prop where
  length : 2 ≤ cycle.length
  closed : cycle.head? = cycle.getLast?
  path : parents.IsPath cycle
  nodup : cycle.dropLast.Nodup
  entered : ∃ before start after steps, parents.keys = before ++ start :: after ∧
    (∀ child ∈ before, ¬parents.IsEndless child) ∧ parents.IsEndless start ∧
      parents.EntersAt start steps cycle

theorem isEndless_iff : parents.IsEndless role ↔ ¬parents.IsGrounded role := by
  simp [IsEndless, isGrounded_iff, Option.isSome_iff_ne_none]

/-- A closed path is not entered before another one that is entered from the same role. -/
theorem EntersAt.not_lt {first second : Nat} {others : List String} {next : String}
    (hfirst : parents.EntersAt start first (head :: middle ++ [head]))
    (hpath : parents.IsPath (head :: middle ++ [head]))
    (hsecond : parents.EntersAt start second (next :: others ++ [next]))
    (hpath' : parents.IsPath (next :: others ++ [next])) : ¬first < second := by
  intro hlt
  obtain ⟨more, rfl⟩ := Nat.exists_eq_add_of_lt hlt
  have hhead : parents.climb first start = some head := hfirst.1
  have hnext : parents.climb (first + more + 1) start = some next := hsecond.1
  rw [Nat.add_assoc, climb_add, hhead, Option.bind_some] at hnext
  -- Climbing on around the first path leads back from the second one, which it cannot leave.
  obtain ⟨steps, hback⟩ := hpath.exists_climb_eq_head (hpath.climb_mem List.mem_cons_self hnext)
  have hmem := hpath'.climb_mem List.mem_cons_self hback
  exact hsecond.2 first hlt head hhead (List.mem_append_left _ hmem)

theorem IsFirstCycle.unique {second : List String} (h : parents.IsFirstCycle cycle)
    (h' : parents.IsFirstCycle second) : cycle = second := by
  classical
  obtain ⟨before, start, after, steps, hkeys, hbefore, hstart, henters⟩ := h.entered
  obtain ⟨before', start', after', steps', hkeys', hbefore', hstart', henters'⟩ := h'.entered
  -- Both are reached from the first child from which parents can be followed without end.
  have hfind : parents.keys.find? (parents.IsEndless ·) = some start :=
    List.find?_eq_some_iff_append.2
      ⟨by simpa using hstart, before, after, hkeys, by simpa using hbefore⟩
  have hfind' : parents.keys.find? (parents.IsEndless ·) = some start' :=
    List.find?_eq_some_iff_append.2
      ⟨by simpa using hstart', before', after', hkeys', by simpa using hbefore'⟩
  rw [hfind, Option.some.injEq] at hfind'
  subst hfind'
  obtain ⟨head, middle, rfl⟩ := exists_eq_of_closed h.length h.closed
  obtain ⟨next, others, rfl⟩ := exists_eq_of_closed h'.length h'.closed
  -- They are entered after the same number of steps, so at the same role.
  have hsteps : steps = steps' := by
    have hge := henters.not_lt h.path henters' h'.path
    have hle := henters'.not_lt h'.path henters h.path
    omega
  subst hsteps
  have hhead : head = next := by
    have heq := henters.1.symm.trans henters'.1
    rw [List.cons_append, List.cons_append, List.head?_cons, List.head?_cons,
      Option.some.injEq] at heq
    exact heq
  subst hhead
  have hnodup := h.nodup
  have hnodup' := h'.nodup
  rw [List.dropLast_concat, List.nodup_cons] at hnodup hnodup'
  rw [h.path.eq_of_closed h'.path hnodup.1 hnodup'.1]

/-- The cycle that a trail leads into, and how it does. -/
theorem IsCycleFrom.exists_split (h : parents.IsCycleFrom start cycle) :
    ∃ front head middle, cycle = head :: middle ++ [head] ∧
      (front ++ head :: middle).head? = some start ∧ (front ++ head :: middle).Nodup ∧
        parents.IsPath (front ++ head :: middle ++ [head]) := by
  obtain ⟨trail, back, htrail, hback, hstart, rfl⟩ := h
  obtain ⟨front, rest, rfl⟩ := List.append_of_mem hback
  refine ⟨front, back, rest, ?_, hstart, htrail.nodup, htrail.path⟩
  -- No role in front of the one that is come back to is that role.
  have hfront : ∀ role ∈ front, decide (role ≠ back) = true := by
    intro role hrole
    rw [decide_eq_true_eq]
    rintro rfl
    exact (List.nodup_append.1 htrail.nodup).2.2 role hrole role List.mem_cons_self rfl
  rw [List.dropWhile_append_of_pos hfront, List.dropWhile_cons_of_neg (by simp)]

/-- A cycle that is reached from the first endless child is the first cycle. -/
theorem IsCycleFrom.isFirstCycle {before after : List String}
    (h : parents.IsCycleFrom start cycle) (hkeys : parents.keys = before ++ start :: after)
    (hbefore : ∀ child ∈ before, parents.IsGrounded child) : parents.IsFirstCycle cycle := by
  obtain ⟨front, head, middle, rfl, hstart, hnodup, hpath⟩ := h.exists_split
  have hcycle : parents.IsPath (head :: middle ++ [head]) := by
    rw [List.append_assoc] at hpath
    exact (List.isChain_append.1 hpath).2.1
  have hclimb : ∀ steps ≤ (front ++ head :: middle).length,
      parents.climb steps start = (front ++ head :: middle ++ [head])[steps]? := by
    intro steps hle
    obtain ⟨rest, hrest⟩ := List.head?_eq_some_iff.1 hstart
    rw [hrest] at hle hpath ⊢
    exact IsPath.climb_eq_getElem? hpath (by simpa using hle)
  have hendless : parents.IsEndless start := by
    rw [isEndless_iff]
    intro hgrounded
    exact not_isGrounded_of_climb (climb_of_path hcycle)
      (hgrounded.of_climb ((hclimb front.length (by simp)).trans (by simp)))
  refine ⟨by simp, ?_, hcycle, ?_, before, start, after, front.length, hkeys, ?_, hendless, ?_, ?_⟩
  · rw [List.getLast?_concat, List.cons_append, List.head?_cons]
  · rw [List.dropLast_concat]
    exact (List.nodup_append.1 hnodup).2.1
  · intro child hchild
    rw [isEndless_iff, not_not]
    exact hbefore child hchild
  · rw [hclimb _ (by simp)]
    simp
  · intro earlier hlt role hrole hm
    rw [hclimb earlier (by rw [List.length_append]; omega), List.append_assoc,
      List.getElem?_append_left hlt] at hrole
    -- The roles in front of the cycle are not on it.
    have hfront := List.mem_of_getElem? hrole
    have hrest : role ∈ head :: middle := by simpa [or_comm] using hm
    exact (List.nodup_append.1 hnodup).2.2 role hfront role hrest rfl

theorem isFirstCycle_of_findCycle_eq_some (h : parents.findCycle = some cycle) :
    parents.IsFirstCycle cycle := by
  obtain ⟨before, start, after, hkeys, hbefore, hcycle⟩ :=
    exists_start_of_findCycleFrom_eq_some (by simp) h
  exact hcycle.isFirstCycle hkeys hbefore

/-- A closed path in a table shows that the table is cyclic. -/
theorem IsFirstCycle.isCyclic (h : parents.IsFirstCycle cycle) : parents.IsCyclic := by
  obtain ⟨head, middle, rfl⟩ := exists_eq_of_closed h.length h.closed
  exact ⟨head, middle.length, climb_of_path h.path⟩

/-- The search finds the first cycle and no other list. -/
theorem findCycle_eq_some_iff : parents.findCycle = some cycle ↔ parents.IsFirstCycle cycle := by
  constructor
  · exact isFirstCycle_of_findCycle_eq_some
  · intro h
    obtain ⟨found, hfound⟩ := (exists_findCycle_eq_some_iff parents).2 h.isCyclic
    rw [hfound, (isFirstCycle_of_findCycle_eq_some hfound).unique h]

end ParentTable

namespace Hierarchy

/-- A table of parents gives a hierarchy or a cycle, for its search comes to exactly one end.
There is a cycle exactly if some role is reached again from itself, and the one that is reported
is the first cycle. -/
theorem ofParents_reports_first_cycle (parents : ParentTable) :
    (∃! found, parents.SearchesTo [] parents.keys found) ∧
      (∀ hierarchy, ofParents parents = .ok hierarchy ↔
        parents.SearchesTo [] parents.keys none ∧ hierarchy.parents = parents) ∧
      (∀ fault, ofParents parents = .error fault ↔
        ∃ cycle, parents.SearchesTo [] parents.keys (some cycle) ∧ fault = .cycle cycle) ∧
      ((∃ cycle, ofParents parents = .error (.cycle cycle)) ↔ parents.IsCyclic) ∧
      ∀ cycle, ofParents parents = .error (.cycle cycle) ↔ parents.IsFirstCycle cycle := by
  have hsearch : ∀ found, parents.SearchesTo [] parents.keys found ↔ parents.findCycle = found :=
    fun _ => ParentTable.searchesTo_iff
  have herror : ∀ cycle,
      ofParents parents = .error (.cycle cycle) ↔ parents.findCycle = some cycle := by
    simp [ofParents_eq_error_iff]
  refine ⟨⟨parents.findCycle, (hsearch _).2 rfl, fun found h => ((hsearch found).1 h).symm⟩,
    fun hierarchy => ?_, fun fault => ?_, ?_, fun cycle => ?_⟩
  · rw [hsearch, ofParents_eq_ok_iff]
    constructor
    · rintro rfl
      exact ⟨hierarchy.acyclic, rfl⟩
    · exact And.right
  · simp only [hsearch, ofParents_eq_error_iff]
  · simp only [herror]
    exact ParentTable.exists_findCycle_eq_some_iff parents
  · rw [herror, ParentTable.findCycle_eq_some_iff]

/-- The first child leads into a cycle from outside, and the next one is its own parent. -/
example : ParentTable.findCycle
    (Table.ofList [("d", "b"), ("x", "x"), ("a", "b"), ("b", "c"), ("c", "a")]) =
      some ["b", "c", "a", "b"] := by
  decide

end Hierarchy

end RoleAccess

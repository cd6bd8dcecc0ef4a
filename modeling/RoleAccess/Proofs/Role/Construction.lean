import RoleAccess.Proofs.Fold
import RoleAccess.Proofs.Role.Cycle

/-!
# The hierarchy that role rules give

Entering rules keeps two facts of the rules seen so far: no two of them conflict,
and the table holds for each child the parent that the earliest rule for it gives
(`ParentTable.records_of_ofRules_eq_ok`). The first rule that breaks the former
is reported with the latter (`ParentTable.ofRules_eq_error_iff`).

In the table of rules without a conflict, a climb of one step or more is
inheritance (`ParentTable.Records.inherits_iff`), so the table has a cycle
exactly if the rules let a role inherit from itself.
-/

namespace RoleAccess

variable {rules seen : List RoleRule} {rule : RoleRule} {child parent : String}
  {parents next : ParentTable}

/-- The parent that the earliest rule for a child gives. -/
def firstParent (rules : List RoleRule) (child : String) : Option String :=
  (rules.find? fun rule => rule.child = child).map RoleRule.parent

/-- The first rule that conflicts with an earlier one is for `child` and proposes
`proposed`, where the earliest rule for the child gives `existing`. -/
def FirstConflict (rules : List RoleRule) (child existing proposed : String) : Prop :=
  ∃ before after, rules = before ++ ⟨proposed, child⟩ :: after ∧ ¬HaveConflict before ∧
    firstParent before child = some existing ∧ existing ≠ proposed

theorem mem_of_firstParent_eq_some (h : firstParent rules child = some parent) :
    ⟨parent, child⟩ ∈ rules := by
  obtain ⟨rule, hfind, rfl⟩ := Option.map_eq_some_iff.1 h
  have hchild := List.find?_some hfind
  rw [decide_eq_true_eq] at hchild
  subst hchild
  exact List.mem_of_find?_eq_some hfind

theorem firstParent_eq_none_iff :
    firstParent rules child = none ↔ ∀ rule ∈ rules, rule.child ≠ child := by
  simp [firstParent]

/-- Without a conflict, the earliest rule for a child says what any of them says. -/
theorem firstParent_eq_some_iff (h : ¬HaveConflict rules) :
    firstParent rules child = some parent ↔ ⟨parent, child⟩ ∈ rules := by
  constructor
  · exact mem_of_firstParent_eq_some
  · intro hm
    cases hfirst : firstParent rules child with
    | none => exact absurd rfl (firstParent_eq_none_iff.1 hfirst _ hm)
    | some found =>
        rw [Option.some.injEq]
        by_contra hne
        exact h ⟨_, mem_of_firstParent_eq_some hfirst, _, hm, rfl, hne⟩

theorem firstParent_append_singleton :
    firstParent (seen ++ [rule]) child =
      (firstParent seen child).or (if rule.child = child then some rule.parent else none) := by
  rw [firstParent, List.find?_append, Option.map_or]
  by_cases h : rule.child = child
  · simp [firstParent, h]
  · simp [firstParent, h]

/-- A further rule conflicts only with a rule for its child that says otherwise. -/
theorem not_haveConflict_append_singleton (h : ¬HaveConflict seen)
    (hrule : ∀ other ∈ seen, other.child = rule.child → other.parent = rule.parent) :
    ¬HaveConflict (seen ++ [rule]) := by
  rintro ⟨first, hfirst, second, hsecond, hchild, hparent⟩
  simp only [List.mem_append, List.mem_singleton] at hfirst hsecond
  rcases hfirst with hfirst | rfl
  · rcases hsecond with hsecond | rfl
    · exact h ⟨first, hfirst, second, hsecond, hchild, hparent⟩
    · exact hparent (hrule first hfirst hchild)
  · rcases hsecond with hsecond | rfl
    · exact hparent (hrule second hsecond hchild.symm).symm
    · exact hparent rfl

theorem FirstConflict.haveConflict {existing proposed : String}
    (h : FirstConflict rules child existing proposed) : HaveConflict rules := by
  obtain ⟨before, after, rfl, -, hfirst, hne⟩ := h
  have hm := mem_of_firstParent_eq_some hfirst
  exact ⟨_, List.mem_append_left _ hm, ⟨proposed, child⟩, by simp, rfl, hne⟩

namespace ParentTable

/-- A table holds what rules without a conflict say. -/
structure Records (parents : ParentTable) (rules : List RoleRule) : Prop where
  noConflict : ¬HaveConflict rules
  get?_eq : ∀ child, parents.get? child = firstParent rules child

theorem Records.enter (records : parents.Records seen) (h : parents.enter rule = .ok next) :
    next.Records (seen ++ [rule]) := by
  rw [ParentTable.enter, records.get?_eq] at h
  cases hfirst : firstParent seen rule.child with
  | none =>
      -- The child is new, so no earlier rule can conflict and the table gains it.
      simp only [hfirst, Except.ok.injEq] at h
      subst h
      refine ⟨not_haveConflict_append_singleton records.noConflict ?_, fun child => ?_⟩
      · intro other hm hchild
        exact absurd hchild (firstParent_eq_none_iff.1 hfirst other hm)
      · rw [Table.get?_put, firstParent_append_singleton, records.get?_eq]
        by_cases hc : rule.child = child
        · subst hc
          simp [hfirst]
        · simp [hc, Ne.symm hc]
  | some existing =>
      simp only [hfirst] at h
      by_cases he : existing = rule.parent
      · -- The rule says what the earliest one for the child says: nothing changes.
        rw [if_pos he, Except.ok.injEq] at h
        subst h
        subst he
        refine ⟨not_haveConflict_append_singleton records.noConflict ?_, fun child => ?_⟩
        · intro other hm hchild
          have hother := (firstParent_eq_some_iff records.noConflict).2 hm
          rw [hchild] at hother
          rw [hfirst, Option.some.injEq] at hother
          exact hother.symm
        · rw [firstParent_append_singleton, records.get?_eq]
          by_cases hc : rule.child = child
          · subst hc
            simp [hfirst]
          · simp [hc]
      · rw [if_neg he] at h
        cases h

theorem records_empty : Records Table.empty [] := by
  refine ⟨?_, fun child => rfl⟩
  rintro ⟨rule, hm, -⟩
  simp at hm

theorem records_of_ofRules_eq_ok (h : ofRules rules = .ok parents) : parents.Records rules :=
  Fold.foldlM_ok_induction (fun seen state => state.Records seen) records_empty
    (fun _ _ _ _ records hstep => records.enter hstep) h

/-- Entering a rule fails only on another parent for a child. -/
theorem enter_eq_error_iff {fault : PolicyError} :
    parents.enter rule = .error fault ↔ ∃ existing, parents.get? rule.child = some existing ∧
      existing ≠ rule.parent ∧ fault = .duplicateParent rule.child existing rule.parent := by
  unfold enter
  cases parents.get? rule.child with
  | none => simp
  | some existing =>
      by_cases he : existing = rule.parent
      · simp [he]
      · simp [he, eq_comm]

/-- Rules give no table exactly if two of them conflict, and the first one that
does is reported. -/
theorem ofRules_eq_error_iff {fault : PolicyError} :
    ofRules rules = .error fault ↔ ∃ child existing proposed,
      FirstConflict rules child existing proposed ∧
        fault = .duplicateParent child existing proposed := by
  rw [ofRules, Fold.foldlM_eq_error_iff]
  constructor
  · rintro ⟨before, rule, after, middle, rfl, hbefore, hfault⟩
    have records := records_of_ofRules_eq_ok hbefore
    obtain ⟨existing, hget, hne, rfl⟩ := enter_eq_error_iff.1 hfault
    rw [records.get?_eq] at hget
    exact ⟨rule.child, existing, rule.parent,
      ⟨before, after, rfl, records.noConflict, hget, hne⟩, rfl⟩
  · rintro ⟨child, existing, proposed, ⟨before, after, rfl, hbefore, hfirst, hne⟩, rfl⟩
    -- The rules before the conflict have none, so their fold cannot have failed.
    cases hfold : before.foldlM enter Table.empty with
    | error fault =>
        obtain ⟨front, rule, back, middle, rfl, hfront, hrule⟩ := Fold.foldlM_eq_error_iff.1 hfold
        have records := records_of_ofRules_eq_ok hfront
        obtain ⟨held, hget, hheld, -⟩ := enter_eq_error_iff.1 hrule
        rw [records.get?_eq] at hget
        exact absurd (FirstConflict.haveConflict
          ⟨front, back, rfl, records.noConflict, hget, hheld⟩) hbefore
    | ok middle =>
        have records := records_of_ofRules_eq_ok hfold
        refine ⟨before, ⟨proposed, child⟩, after, middle, rfl, hfold, ?_⟩
        rw [enter_eq_error_iff]
        exact ⟨existing, by rw [records.get?_eq, hfirst], hne, rfl⟩

theorem exists_firstConflict_iff :
    (∃ child existing proposed, FirstConflict rules child existing proposed) ↔
      HaveConflict rules := by
  constructor
  · rintro ⟨child, existing, proposed, h⟩
    exact h.haveConflict
  · intro h
    -- Rules with a conflict give no table, and the error names the first one.
    cases hrules : ofRules rules with
    | ok parents => exact absurd h (records_of_ofRules_eq_ok hrules).noConflict
    | error fault =>
        obtain ⟨child, existing, proposed, hfirst, -⟩ := ofRules_eq_error_iff.1 hrules
        exact ⟨child, existing, proposed, hfirst⟩

theorem exists_ofRules_eq_ok (h : ¬HaveConflict rules) :
    ∃ parents, ofRules rules = .ok parents := by
  cases hrules : ofRules rules with
  | ok parents => exact ⟨parents, rfl⟩
  | error fault =>
      obtain ⟨child, existing, proposed, hfirst, -⟩ := ofRules_eq_error_iff.1 hrules
      exact absurd hfirst.haveConflict h

/-! ## Inheritance as climbing -/

namespace Records

theorem get?_eq_some_iff (records : parents.Records rules) :
    parents.get? child = some parent ↔ ⟨parent, child⟩ ∈ rules := by
  rw [records.get?_eq, firstParent_eq_some_iff records.noConflict]

theorem mem_keys_iff (records : parents.Records rules) :
    child ∈ parents.keys ↔ child ∈ rules.map RoleRule.child := by
  rw [Table.mem_keys_iff, List.mem_map]
  constructor
  · rintro ⟨parent, h⟩
    exact ⟨_, records.get?_eq_some_iff.1 h, rfl⟩
  · rintro ⟨rule, hm, rfl⟩
    exact ⟨rule.parent, records.get?_eq_some_iff.2 hm⟩

theorem mem_values_iff (records : parents.Records rules) :
    parent ∈ parents.values ↔ parent ∈ rules.map RoleRule.parent := by
  rw [Table.mem_values_iff, List.mem_map]
  constructor
  · rintro ⟨child, h⟩
    exact ⟨_, records.get?_eq_some_iff.1 h, rfl⟩
  · rintro ⟨rule, hm, rfl⟩
    exact ⟨rule.child, records.get?_eq_some_iff.2 hm⟩

/-- Inheritance is climbing one step or more. -/
theorem inherits_iff (records : parents.Records rules) (role ancestor : String) :
    Inherits rules role ancestor ↔ ∃ count, parents.climb (count + 1) role = some ancestor := by
  constructor
  · intro h
    induction h with
    | parent hm =>
        refine ⟨0, ?_⟩
        rw [climb, records.get?_eq_some_iff.2 hm]
        rfl
    | through hm _ ih =>
        obtain ⟨count, hcount⟩ := ih
        refine ⟨count + 1, ?_⟩
        rw [climb, records.get?_eq_some_iff.2 hm]
        exact hcount
  · rintro ⟨count, h⟩
    induction count generalizing role with
    | zero =>
        obtain ⟨parent, hget, hclimb⟩ := Option.bind_eq_some_iff.1 h
        rw [climb, Option.some.injEq] at hclimb
        subst hclimb
        exact .parent (records.get?_eq_some_iff.1 hget)
    | succ count ih =>
        obtain ⟨parent, hget, hclimb⟩ := Option.bind_eq_some_iff.1 h
        exact .through (records.get?_eq_some_iff.1 hget) (ih parent hclimb)

theorem isCyclic_iff (records : parents.Records rules) :
    parents.IsCyclic ↔ ∃ role, Inherits rules role role := by
  simp only [IsCyclic, records.inherits_iff]

theorem exists_findCycle_eq_some_iff (records : parents.Records rules) :
    (∃ cycle, parents.findCycle = some cycle) ↔ ∃ role, Inherits rules role role := by
  rw [ParentTable.exists_findCycle_eq_some_iff, records.isCyclic_iff]

end Records

end ParentTable

end RoleAccess

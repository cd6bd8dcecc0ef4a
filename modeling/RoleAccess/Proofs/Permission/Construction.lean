import RoleAccess.Proofs.Fold
import RoleAccess.Proofs.Permission.Path

/-!
# The forest that permission rules give

Adding rules to a forest keeps, for every role, the nodes of the rules of that
role in their order (`Forest.holds_of_ofRules_eq_ok`); the first rule without a
segment is reported (`Forest.ofRules_eq_error_iff`).

A chain has a granting path exactly if its rule allows and its pattern covers the
resource (`grantingPath_chain_iff`), so the paths under the root of a role are
the rules of the role that allow and cover (`Forest.Holds.exists_grantingPath_iff`).
-/

namespace RoleAccess

variable {rules seen : List PermissionRule} {rule : PermissionRule} {forest next : Forest}
  {environment : Environment} {role : String} {resource : List String}

/-- The chain of nodes that a rule adds; a rule without segments adds none. -/
def PermissionRule.node? (rule : PermissionRule) : Option Node :=
  match rule.resource with
  | [] => none
  | pattern :: rest => some (Node.chain (.ofEffect rule.effect) pattern rest)

/-- The nodes that the rules of a role add, in the order of the rules. -/
def nodesOf (rules : List PermissionRule) (role : String) : List Node :=
  (rules.filter fun rule => rule.role = role).filterMap PermissionRule.node?

/-- The root that rules give a role; a role without rules has none. -/
def rootFor (rules : List PermissionRule) (role : String) : Option Root :=
  if role ∈ rules.map PermissionRule.role then some { children := nodesOf rules role } else none

theorem PermissionRule.node?_eq_none_iff : rule.node? = none ↔ rule.resource = [] := by
  unfold node?
  cases rule.resource with
  | nil => simp
  | cons pattern rest => simp

theorem PermissionRule.node?_eq_some_iff {node : Node} :
    rule.node? = some node ↔ ∃ pattern rest, rule.resource = pattern :: rest ∧
      node = Node.chain (.ofEffect rule.effect) pattern rest := by
  unfold node?
  cases rule.resource with
  | nil => simp
  | cons pattern rest => simp [eq_comm]

theorem mem_nodesOf_iff {node : Node} :
    node ∈ nodesOf rules role ↔ ∃ rule ∈ rules, rule.role = role ∧ rule.node? = some node := by
  simp [nodesOf, and_assoc]

theorem nodesOf_append_singleton :
    nodesOf (seen ++ [rule]) role =
      nodesOf seen role ++ if rule.role = role then rule.node?.toList else [] := by
  by_cases h : rule.role = role
  · cases hnode : rule.node? with
    | none => simp [nodesOf, h, hnode]
    | some node => simp [nodesOf, h, hnode]
  · simp [nodesOf, h]

/-- A role without rules has no nodes either. -/
theorem rootFor_getD : (rootFor rules role).getD {} = { children := nodesOf rules role } := by
  unfold rootFor
  by_cases h : role ∈ rules.map PermissionRule.role
  · simp [h]
  · have hnodes : nodesOf rules role = [] := by
      rw [List.eq_nil_iff_forall_not_mem]
      intro node hm
      obtain ⟨rule, hrule, hrole, -⟩ := mem_nodesOf_iff.1 hm
      exact h (List.mem_map.2 ⟨rule, hrule, hrole⟩)
    simp [h, hnodes]

namespace Forest

/-- A forest holds the chains of rules that all have a segment. -/
structure Holds (forest : Forest) (rules : List PermissionRule) : Prop where
  nonempty : ∀ rule ∈ rules, rule.resource ≠ []
  rootOf_eq : ∀ role, forest.rootOf role = rootFor rules role

theorem addRule_eq (forest : Forest) (rule : PermissionRule) :
    forest.addRule rule =
      match rule.node? with
      | none => .error (.rule (.emptyResource rule.role))
      | some node =>
          let root := (forest.rootOf rule.role).getD {}
          .ok ⟨forest.roots.put rule.role { root with children := root.children ++ [node] }⟩ := by
  unfold addRule Root.addRule PermissionRule.node?
  cases rule.resource with
  | nil => rfl
  | cons pattern rest => rfl

theorem Holds.addRule (holds : forest.Holds seen) (h : forest.addRule rule = .ok next) :
    next.Holds (seen ++ [rule]) := by
  rw [addRule_eq] at h
  cases hnode : rule.node? with
  | none => simp [hnode] at h
  | some node =>
      simp only [hnode, Except.ok.injEq] at h
      subst h
      refine ⟨fun other hm => ?_, fun role => ?_⟩
      · rcases List.mem_append.1 hm with hm | hm
        · exact holds.nonempty other hm
        · rw [List.mem_singleton.1 hm, Ne, ← PermissionRule.node?_eq_none_iff, hnode]
          simp
      · rw [rootOf, Table.get?_put, holds.rootOf_eq, rootFor_getD]
        by_cases hrole : role = rule.role
        · subst hrole
          simp [rootFor, nodesOf_append_singleton, hnode]
        · have hne : ¬rule.role = role := fun heq => hrole heq.symm
          rw [if_neg hrole]
          show forest.rootOf role = _
          rw [holds.rootOf_eq]
          simp [rootFor, nodesOf_append_singleton, hne, hrole]

/-- A root that is held has the nodes of the rules of its role. -/
theorem Holds.children_eq {root : Root} (holds : forest.Holds rules)
    (hroot : forest.rootOf role = some root) : root.children = nodesOf rules role := by
  rw [holds.rootOf_eq, rootFor] at hroot
  split at hroot
  · cases hroot
    rfl
  · cases hroot

theorem holds_empty : Holds {} [] := by
  refine ⟨by simp, fun role => ?_⟩
  simp [rootOf, rootFor]

theorem holds_of_ofRules_eq_ok (h : ofRules rules = .ok forest) : forest.Holds rules :=
  Fold.foldlM_ok_induction (fun seen state => state.Holds seen) holds_empty
    (fun _ _ _ _ holds hstep => holds.addRule hstep) h

theorem addRule_eq_error_iff (forest : Forest) (rule : PermissionRule) (fault : PolicyError) :
    forest.addRule rule = .error fault ↔
      rule.resource = [] ∧ fault = .rule (.emptyResource rule.role) := by
  rw [addRule_eq, ← PermissionRule.node?_eq_none_iff]
  cases rule.node? with
  | none => simp [eq_comm]
  | some node => simp

/-- The first rule without a segment is the error. -/
theorem ofRules_eq_error_iff {fault : PolicyError} :
    ofRules rules = .error fault ↔ ∃ before rule after, rules = before ++ rule :: after ∧
      (∀ other ∈ before, other.resource ≠ []) ∧ rule.resource = [] ∧
        fault = .rule (.emptyResource rule.role) := by
  rw [ofRules, Fold.foldlM_eq_error_iff_isFirstFault addRule_eq_error_iff]
  simp [Fold.IsFirstFault]

theorem exists_ofRules_eq_ok_iff :
    (∃ forest, ofRules rules = .ok forest) ↔ ∀ rule ∈ rules, rule.resource ≠ [] := by
  rw [ofRules, Fold.exists_foldlM_eq_ok_iff addRule_eq_error_iff]
  simp

end Forest

/-! ## Paths through chains -/

/-- A chain grants what its pattern covers, if its last node allows. -/
theorem grantingPath_chain_iff {decision : Decision} {pattern : SegmentPattern}
    {rest : List SegmentPattern} :
    GrantingPath environment [Node.chain decision pattern rest] resource ↔
      decision = .allow ∧ Covers environment (pattern :: rest) resource := by
  induction rest generalizing pattern resource with
  | nil =>
      cases resource with
      | nil => simp [not_grantingPath_nil, Covers]
      | cons segment rest =>
          cases rest with
          | nil =>
              rw [grantingPath_singleton_last_iff]
              simp [Node.chain, Covers, SegmentPattern.accepts_eq_ok_true_iff, and_comm]
          | cons next rest =>
              -- The resource is longer than the pattern, and the last node has no children.
              rw [grantingPath_singleton_inner_iff]
              simp [Node.chain, Covers, not_grantingPath_nil_nodes]
  | cons following rest ih =>
      cases resource with
      | nil => simp [not_grantingPath_nil, Covers]
      | cons segment segments =>
          cases segments with
          | nil =>
              -- The resource ends at a node that is not the last and so is undecided.
              rw [grantingPath_singleton_last_iff]
              simp [Node.chain, Covers]
          | cons next segments =>
              rw [grantingPath_singleton_inner_iff]
              simp only [Node.chain, ih, SegmentPattern.accepts_eq_ok_true_iff]
              constructor
              · rintro ⟨hmatches, hallow, hcovers⟩
                exact ⟨hallow, hmatches, hcovers⟩
              · rintro ⟨hallow, hmatches, hcovers⟩
                exact ⟨hmatches, hallow, hcovers⟩

theorem PermissionRule.grantingPath_node?_iff {node : Node} (h : rule.node? = some node) :
    GrantingPath environment [node] resource ↔
      rule.effect = .allow ∧ Covers environment rule.resource resource := by
  obtain ⟨pattern, rest, hresource, rfl⟩ := node?_eq_some_iff.1 h
  rw [grantingPath_chain_iff, hresource]
  cases rule.effect <;> simp [Decision.ofEffect]

theorem grantingPath_iff_exists_mem {nodes : List Node} :
    GrantingPath environment nodes resource ↔
      ∃ node ∈ nodes, GrantingPath environment [node] resource := by
  induction nodes with
  | nil => simp [not_grantingPath_nil_nodes]
  | cons node later ih =>
      rw [grantingPath_cons_iff, ih, or_comm]
      simp only [List.exists_mem_cons_iff]

/-- The paths under the root of a role are its rules that allow and cover. -/
theorem Forest.Holds.exists_grantingPath_iff (holds : forest.Holds rules) :
    (∃ root, forest.rootOf role = some root ∧ GrantingPath environment root.children resource) ↔
      ∃ rule ∈ rules, rule.effect = .allow ∧ rule.role = role ∧
        Covers environment rule.resource resource := by
  constructor
  · rintro ⟨root, hroot, hpath⟩
    rw [holds.children_eq hroot] at hpath
    obtain ⟨node, hm, hpath⟩ := grantingPath_iff_exists_mem.1 hpath
    obtain ⟨rule, hrule, hrole, hnode⟩ := mem_nodesOf_iff.1 hm
    obtain ⟨hallow, hcovers⟩ := (rule.grantingPath_node?_iff hnode).1 hpath
    exact ⟨rule, hrule, hallow, hrole, hcovers⟩
  · rintro ⟨rule, hrule, hallow, hrole, hcovers⟩
    cases hnode : rule.node? with
    | none => exact absurd (PermissionRule.node?_eq_none_iff.1 hnode) (holds.nonempty rule hrule)
    | some node =>
        have hmem : role ∈ rules.map PermissionRule.role := List.mem_map.2 ⟨rule, hrule, hrole⟩
        refine ⟨_, by rw [holds.rootOf_eq, rootFor, if_pos hmem], ?_⟩
        exact grantingPath_iff_exists_mem.2 ⟨node, mem_nodesOf_iff.2 ⟨rule, hrule, hrole, hnode⟩,
          (PermissionRule.grantingPath_node?_iff hnode).2 ⟨hallow, hcovers⟩⟩

/-! ## Known kinds -/

theorem Node.hasKnownKinds_chain {decision : Decision} {pattern : SegmentPattern}
    {rest : List SegmentPattern} (known : ∀ other ∈ pattern :: rest, other.kind.IsKnown) :
    (Node.chain decision pattern rest).HasKnownKinds := by
  induction rest generalizing pattern with
  | nil => exact .node (known pattern List.mem_cons_self) (by simp [Node.chain])
  | cons following rest ih =>
      refine .node (known pattern List.mem_cons_self) fun child hm => ?_
      rw [Node.chain, List.mem_singleton] at hm
      rw [hm]
      exact ih fun other hother => known other (List.mem_cons_of_mem _ hother)

theorem Forest.Holds.hasKnownKinds (holds : forest.Holds rules)
    (known : ∀ rule ∈ rules, ∀ pattern ∈ rule.resource, pattern.kind.IsKnown) :
    forest.HasKnownKinds := by
  intro role root hroot node hm
  rw [holds.children_eq hroot] at hm
  obtain ⟨rule, hrule, -, hnode⟩ := mem_nodesOf_iff.1 hm
  obtain ⟨pattern, rest, hresource, rfl⟩ := PermissionRule.node?_eq_some_iff.1 hnode
  apply Node.hasKnownKinds_chain
  intro other hother
  exact known rule hrule other (hresource ▸ hother)

end RoleAccess

import RoleAccess.Permission.Chain
import RoleAccess.Proofs.Permission.Construction

/-!
# What a forest stores

A rule is added to a root in place: node after node is put at the end of a list of siblings,
and the children of the node just put there are the siblings of the next one (`Root.store`).
So the list moves down with every node, and only the node at the last depth gets the decision
of the rule. A node put below an undecided chain makes it a longer chain (`putBelow_chain`),
and what the loop leaves behind are the children that were there, with the chain of the rule
after them (`Root.store_eq`). This is what `Root.addRule` gives.

The chains can be read back as rules. A root to which rules were added has their chains in
order behind its first children (`Root.storeAll_eq`), and from the root that a forest has for a
role the rules of that role are read off as they were given (`rules?_nodesOf`).

Main statement: `Forest.rules_stored_exactly`.
-/

namespace RoleAccess

variable {decision : Decision} {effect : Effect} {pattern first : SegmentPattern}
  {rest later : List SegmentPattern} {node : Node} {nodes : List Node} {root : Root}
  {rule : PermissionRule} {rules seen : List PermissionRule} {forest next : Forest} {role : String}

/-! ## Chains -/

/-- A node spells patterns with a decision: there is one node for each pattern, one below the
other; each but the last is undecided and has one child, and the last has the decision and no
children. -/
inductive Node.Spells (decision : Decision) : List SegmentPattern → Node → Prop where
  | last {pattern : SegmentPattern} : Spells decision [pattern] ⟨pattern, decision, []⟩
  | inner {pattern following : SegmentPattern} {rest : List SegmentPattern} {child : Node}
      (below : Spells decision (following :: rest) child) :
      Spells decision (pattern :: following :: rest) ⟨pattern, .unset, [child]⟩

theorem Node.spells_chain (decision : Decision) (pattern : SegmentPattern)
    (rest : List SegmentPattern) :
    Spells decision (pattern :: rest) (chain decision pattern rest) := by
  induction rest generalizing pattern with
  | nil => exact .last
  | cons following rest ih => exact .inner (ih following)

theorem PermissionRule.spells_of_node? (h : rule.node? = some node) :
    node.Spells (.ofEffect rule.effect) rule.resource := by
  obtain ⟨pattern, rest, hresource, rfl⟩ := node?_eq_some_iff.1 h
  rw [hresource]
  exact Node.spells_chain _ pattern rest

/-! ## Adding in place -/

/-- Puts a node at the end of the list that is reached by going down a number of times to the
children of the last node. -/
def putBelow (added : Node) : (depth : Nat) → List Node → List Node
  | 0, nodes => nodes ++ [added]
  | depth + 1, nodes =>
      match nodes.getLast? with
      | none => nodes
      | some last =>
          nodes.dropLast ++ [{ last with children := putBelow added depth last.children }]

/-- Puts a node for each pattern, from a depth on; the one at the depth `last` gets the decision
of the effect. -/
def grow (effect : Effect) (last : Nat) :
    (depth : Nat) → List SegmentPattern → List Node → List Node
  | _, [], nodes => nodes
  | depth, pattern :: later, nodes =>
      let decision := if depth = last then .ofEffect effect else .unset
      grow effect last (depth + 1) later (putBelow { pattern, decision } depth nodes)

/-- The root with more nodes after its children. -/
def Root.followedBy (root : Root) (nodes : List Node) : Root :=
  { root with children := root.children ++ nodes }

/-- Adds a rule to a root in place: the answer, and the root as it is left. -/
def Root.store (root : Root) (rule : PermissionRule) : Except PolicyError Unit × Root :=
  if rule.resource.isEmpty then (.error (.rule (.emptyResource rule.role)), root)
  else
    (.ok (), { root with
      children := grow rule.effect (rule.resource.length - 1) 0 rule.resource root.children })

/-- The root after rules were added to it one after the other, whatever the answers. -/
def Root.storeAll (root : Root) (rules : List PermissionRule) : Root :=
  rules.foldl (fun root rule => (root.store rule).2) root

theorem putBelow_succ (added : Node) (depth : Nat) (nodes : List Node) (last : Node) :
    putBelow added (depth + 1) (nodes ++ [last]) =
      nodes ++ [{ last with children := putBelow added depth last.children }] := by
  simp [putBelow]

/-- A node put below the last one of an undecided chain makes the chain longer. -/
theorem putBelow_chain :
    putBelow { pattern, decision } (rest.length + 1) (nodes ++ [Node.chain .unset first rest]) =
      nodes ++ [Node.chain decision first (rest ++ [pattern])] := by
  rw [putBelow_succ]
  induction rest generalizing first nodes with
  | nil => rfl
  | cons following rest ih =>
      -- Below the first node there is nothing but the rest of the chain.
      have hbelow : putBelow { pattern, decision } (rest.length + 1)
          [Node.chain .unset following rest] =
            [Node.chain decision following (rest ++ [pattern])] := by
        have hchain := putBelow_succ { pattern, decision } rest.length []
          (Node.chain .unset following rest)
        exact hchain.trans ih
      simp only [Node.chain, List.cons_append, List.length_cons, hbelow]

/-- The loop goes on with a chain that it has begun, up to the last depth. -/
theorem grow_chain {last depth : Nat} (hdepth : depth = rest.length + 1)
    (hlast : last = rest.length + later.length) (hlater : later ≠ []) :
    grow effect last depth later (nodes ++ [Node.chain .unset first rest]) =
      nodes ++ [Node.chain (.ofEffect effect) first (rest ++ later)] := by
  subst hdepth
  induction later generalizing rest with
  | nil => exact absurd rfl hlater
  | cons pattern later ih =>
      rw [grow, putBelow_chain]
      cases later with
      | nil =>
          -- This is the last depth, where the chain gets its decision.
          rw [List.length_singleton] at hlast
          rw [if_pos hlast.symm, grow]
      | cons following later =>
          simp only [List.length_cons] at hlast
          have hbefore : ¬rest.length + 1 = last := by omega
          have hlonger : (rest ++ [pattern]).length = rest.length + 1 := by simp
          rw [if_neg hbefore, ← hlonger, ih _ (by simp), List.append_assoc, List.singleton_append]
          rw [hlonger, List.length_cons, hlast]
          omega

/-- From the start the loop adds the chain of all patterns. -/
theorem grow_cons (effect : Effect) (first : SegmentPattern) (rest : List SegmentPattern)
    (nodes : List Node) :
    grow effect rest.length 0 (first :: rest) nodes =
      nodes ++ [Node.chain (.ofEffect effect) first rest] := by
  rw [grow]
  cases rest with
  | nil => rfl
  | cons following rest =>
      have hfirst : ¬0 = (following :: rest).length := by simp
      have hlength : (following :: rest).length =
          ([] : List SegmentPattern).length + (following :: rest).length := by simp
      rw [if_neg hfirst, putBelow]
      exact grow_chain rfl hlength (List.cons_ne_nil _ _)

namespace Root

/-- A rule without segments is refused before the root is touched; any other adds its chain. -/
theorem store_eq (root : Root) (rule : PermissionRule) :
    root.store rule =
      match rule.node? with
      | none => (.error (.rule (.emptyResource rule.role)), root)
      | some node => (.ok (), root.followedBy [node]) := by
  unfold store PermissionRule.node?
  cases rule.resource with
  | nil => rfl
  | cons first rest => simp [grow_cons, followedBy]

/-- Adding in place answers as `addRule` does, and leaves the root that `addRule` gives. -/
theorem addRule_eq_store (root : Root) (rule : PermissionRule) :
    root.addRule rule = (root.store rule).1.map fun _ => (root.store rule).2 := by
  rw [store_eq]
  unfold addRule PermissionRule.node?
  cases rule.resource with
  | nil => rfl
  | cons first rest => rfl

@[simp] theorem followedBy_nil (root : Root) : root.followedBy [] = root := by
  simp [followedBy]

@[simp] theorem followedBy_followedBy (root : Root) (nodes more : List Node) :
    (root.followedBy nodes).followedBy more = root.followedBy (nodes ++ more) := by
  simp [followedBy]

/-- What all calls together leave: the first children, and the chains of the rules after them. -/
theorem storeAll_eq (root : Root) (rules : List PermissionRule) :
    root.storeAll rules = root.followedBy (rules.filterMap PermissionRule.node?) := by
  induction rules generalizing root with
  | nil => simp [storeAll]
  | cons rule rules ih =>
      have hstep : root.storeAll (rule :: rules) = (root.store rule).2.storeAll rules := rfl
      rw [hstep, ih, store_eq]
      cases hnode : rule.node? with
      | none => simp [hnode]
      | some node => simp [hnode]

end Root

theorem forall₂_spells_filterMap_node? (rules : List PermissionRule) :
    List.Forall₂ (fun rule node => node.Spells (.ofEffect rule.effect) rule.resource)
      (rules.filter fun rule => rule.resource ≠ []) (rules.filterMap PermissionRule.node?) := by
  induction rules with
  | nil => exact .nil
  | cons rule rules ih =>
      cases hnode : rule.node? with
      | none =>
          have hempty := PermissionRule.node?_eq_none_iff.1 hnode
          simpa [hnode, hempty] using ih
      | some node =>
          have hsome : rule.resource ≠ [] := by
            intro hempty
            rw [PermissionRule.node?_eq_none_iff.2 hempty] at hnode
            cases hnode
          simp only [ne_eq, hsome, not_false_eq_true, decide_true, List.filter_cons_of_pos,
            List.filterMap_cons_some hnode]
          exact .cons (rule.spells_of_node? hnode) ih

/-! ## Reading back -/

/-- The effect that a decision comes from. -/
def Decision.effect? : Decision → Option Effect
  | .allow => some .allow
  | .deny => some .deny
  | .unset => none

/-- The rule of a role that a chain stands for. -/
def Chain.rule? (role : String) (chain : Chain) : Option PermissionRule :=
  chain.decision.effect?.map fun effect => ⟨effect, role, chain.patterns⟩

/-- The rules of a role that the chains under its root stand for, from the first to the last;
none if some child is no chain. -/
def Root.rules? (root : Root) (role : String) : Option (List PermissionRule) :=
  root.chains?.bind fun chains => chains.mapM (Chain.rule? role)

theorem PermissionRule.chain?_of_node? (h : rule.node? = some node) :
    node.chain? = some (Chain.ofRule rule) := by
  obtain ⟨pattern, rest, hresource, rfl⟩ := node?_eq_some_iff.1 h
  rw [Node.chain?_chain (Decision.ofEffect_ne_unset rule.effect), Chain.ofRule, hresource]

theorem Chain.rule?_ofRule (rule : PermissionRule) :
    Chain.rule? rule.role (ofRule rule) = some rule := by
  obtain ⟨effect, role, resource⟩ := rule
  cases effect with
  | allow => rfl
  | deny => rfl

theorem mapM_chain?_filterMap_node? (nonempty : ∀ rule ∈ rules, rule.resource ≠ []) :
    (rules.filterMap PermissionRule.node?).mapM Node.chain? = some (rules.map Chain.ofRule) := by
  induction rules with
  | nil => rfl
  | cons rule rules ih =>
      obtain ⟨hrule, hrules⟩ := List.forall_mem_cons.1 nonempty
      cases hnode : rule.node? with
      | none => exact absurd (PermissionRule.node?_eq_none_iff.1 hnode) hrule
      | some node =>
          rw [List.filterMap_cons_some hnode, List.mapM_cons, ih hrules,
            rule.chain?_of_node? hnode]
          rfl

theorem Chain.mapM_rule?_map_ofRule (same : ∀ rule ∈ rules, rule.role = role) :
    (rules.map ofRule).mapM (rule? role) = some rules := by
  induction rules with
  | nil => rfl
  | cons rule rules ih =>
      obtain ⟨rfl, hrules⟩ := List.forall_mem_cons.1 same
      rw [List.map_cons, List.mapM_cons, rule?_ofRule, ih hrules]
      rfl

/-- The nodes that rules give a role are read back as the rules of that role. -/
theorem Root.rules?_of_children_eq (nonempty : ∀ rule ∈ rules, rule.resource ≠ [])
    (h : root.children = nodesOf rules role) :
    root.rules? role = some (rules.filter fun rule => rule.role = role) := by
  have hchains : root.chains? =
      some ((rules.filter fun rule => rule.role = role).map Chain.ofRule) := by
    rw [chains?, h, nodesOf]
    apply mapM_chain?_filterMap_node?
    intro rule hrule
    exact nonempty rule (List.mem_of_mem_filter hrule)
  rw [rules?, hchains, Option.bind_some]
  apply Chain.mapM_rule?_map_ofRule
  intro rule hrule
  exact of_decide_eq_true (List.mem_filter.1 hrule).2

/-! ## The forest -/

theorem Forest.roles_addRule (h : forest.addRule rule = .ok next) :
    next.roles =
      if rule.role ∈ forest.roles then forest.roles else forest.roles ++ [rule.role] := by
  rw [addRule_eq] at h
  cases hnode : rule.node? with
  | none => simp [hnode] at h
  | some node =>
      simp only [hnode, Except.ok.injEq] at h
      subst h
      exact Table.keys_put forest.roots rule.role _

/-- An element that comes after others is a new one only if it is not among them. -/
theorem eraseDups_append_singleton {α : Type} [DecidableEq α] (xs : List α) (x : α) :
    (xs ++ [x]).eraseDups = if x ∈ xs then xs.eraseDups else xs.eraseDups ++ [x] := by
  rw [List.eraseDups_append]
  by_cases h : x ∈ xs
  · simp [List.removeAll, h]
  · simp [List.removeAll, h, List.eraseDups_cons]

/-- The roles of a forest are those of its rules, in the order of their first rules. -/
theorem Forest.roles_of_ofRules_eq_ok (h : ofRules rules = .ok forest) :
    forest.roles = (rules.map PermissionRule.role).eraseDups := by
  refine Fold.foldlM_ok_induction
    (fun seen state => state.roles = (seen.map PermissionRule.role).eraseDups) rfl ?_ h
  intro seen rule state next hseen hstep
  rw [roles_addRule hstep, hseen, List.map_append, List.map_singleton,
    eraseDups_append_singleton]
  simp only [List.mem_eraseDups]

theorem Forest.Holds.exists_rootOf (holds : forest.Holds rules)
    (hroles : forest.roles = (rules.map PermissionRule.role).eraseDups)
    (hrole : role ∈ forest.roles) :
    ∃ tree, forest.rootOf role = some tree ∧ tree.decision = .deny ∧
      tree.rules? role = some (rules.filter fun rule => rule.role = role) := by
  rw [hroles, List.mem_eraseDups] at hrole
  refine ⟨{ children := nodesOf rules role }, ?_, rfl, ?_⟩
  · rw [holds.rootOf_eq, rootFor, if_pos hrole]
  · exact Root.rules?_of_children_eq holds.nonempty rfl

/-- Adding rules to any root, one after the other: a rule without segments is refused and leaves
the root as it is, and any other rule leaves all children in their places and adds one node
after them that spells its pattern and its effect. So rules that all have a segment give a
forest with one root for each of their roles, in the order of the first rules; a root denies,
and its chains are read back as the rules of its role, each once and in their order. -/
theorem Forest.rules_stored_exactly (root : Root) (rules : List PermissionRule) :
    (∀ before rule after, rules = before ++ rule :: after →
      (rule.resource = [] →
        (root.storeAll before).addRule rule = .error (.rule (.emptyResource rule.role)) ∧
          (root.storeAll before).store rule =
            (.error (.rule (.emptyResource rule.role)), root.storeAll before)) ∧
      (rule.resource ≠ [] → ∃ node, node.Spells (.ofEffect rule.effect) rule.resource ∧
        (root.storeAll before).addRule rule = .ok ((root.storeAll before).followedBy [node]) ∧
          (root.storeAll before).store rule =
            (.ok (), (root.storeAll before).followedBy [node]))) ∧
    (∃ nodes, root.storeAll rules = root.followedBy nodes ∧
      List.Forall₂ (fun rule node => node.Spells (.ofEffect rule.effect) rule.resource)
        (rules.filter fun rule => rule.resource ≠ []) nodes) ∧
    ((∀ rule ∈ rules, rule.resource ≠ []) → ∃ forest, ofRules rules = .ok forest ∧
      forest.roles = (rules.map PermissionRule.role).eraseDups ∧
      ∀ role ∈ forest.roles, ∃ tree, forest.rootOf role = some tree ∧ tree.decision = .deny ∧
        tree.rules? role = some (rules.filter fun rule => rule.role = role)) := by
  refine ⟨?_, ?_, ?_⟩
  · intro before rule after _
    constructor
    · intro hempty
      rw [Root.addRule_eq_store, Root.store_eq, PermissionRule.node?_eq_none_iff.2 hempty]
      exact ⟨rfl, rfl⟩
    · intro hsome
      cases hnode : rule.node? with
      | none => exact absurd (PermissionRule.node?_eq_none_iff.1 hnode) hsome
      | some node =>
          rw [Root.addRule_eq_store, Root.store_eq, hnode]
          exact ⟨node, rule.spells_of_node? hnode, rfl, rfl⟩
  · exact ⟨_, root.storeAll_eq rules, forall₂_spells_filterMap_node? rules⟩
  · intro nonempty
    obtain ⟨forest, hforest⟩ := exists_ofRules_eq_ok_iff.2 nonempty
    have hroles := roles_of_ofRules_eq_ok hforest
    refine ⟨forest, hforest, hroles, ?_⟩
    intro role hrole
    exact (holds_of_ofRules_eq_ok hforest).exists_rootOf hroles hrole

/-- Rules of two roles in turn, with a rule that is given twice: it is stored twice. -/
theorem Forest.rules_stored_of_repeated_rule :
    ∃ forest, ofRules [⟨.allow, "ann", [.literal "docs", .universal]⟩,
        ⟨.deny, "bob", [.member "staff"]⟩, ⟨.deny, "ann", [.bound "owner"]⟩,
        ⟨.allow, "ann", [.literal "docs", .universal]⟩] = .ok forest ∧
      forest.roles = ["ann", "bob"] ∧
      ∃ tree, forest.rootOf "ann" = some tree ∧ tree.decision = .deny ∧
        tree.rules? "ann" = some [⟨.allow, "ann", [.literal "docs", .universal]⟩,
          ⟨.deny, "ann", [.bound "owner"]⟩, ⟨.allow, "ann", [.literal "docs", .universal]⟩] := by
  obtain ⟨-, -, hstored⟩ := rules_stored_exactly {} [⟨.allow, "ann", [.literal "docs", .universal]⟩,
    ⟨.deny, "bob", [.member "staff"]⟩, ⟨.deny, "ann", [.bound "owner"]⟩,
    ⟨.allow, "ann", [.literal "docs", .universal]⟩]
  obtain ⟨forest, hforest, hroles, htrees⟩ := hstored (by decide)
  have hroles : forest.roles = ["ann", "bob"] := hroles.trans (by decide)
  obtain ⟨tree, htree, hdecision, hrules⟩ := htrees "ann" (by simp [hroles])
  exact ⟨forest, hforest, hroles, tree, htree, hdecision, hrules.trans (by decide)⟩

end RoleAccess

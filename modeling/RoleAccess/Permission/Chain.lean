import RoleAccess.Permission.Forest

/-!
# Reading rules off a tree

A chain of nodes without branches, whose last node alone carries a decision,
stands for one rule. Reading the chain that a rule adds gives the decision and
the pattern of the rule back (`chain?_chain`).
-/

namespace RoleAccess

/-- What a chain of nodes stands for. -/
structure Chain where
  decision : Decision
  patterns : List SegmentPattern
  deriving DecidableEq, Repr

/-- The chain that a rule adds. -/
def Chain.ofRule (rule : PermissionRule) : Chain := ⟨.ofEffect rule.effect, rule.resource⟩

/-- The chain of a node, if no node of its tree branches and only the last one
carries a decision. -/
def Node.chain? : Node → Option Chain
  | ⟨_, .unset, []⟩ => none
  | ⟨pattern, decision, []⟩ => some ⟨decision, [pattern]⟩
  | ⟨pattern, .unset, [child]⟩ =>
      (chain? child).map fun chain => { chain with patterns := pattern :: chain.patterns }
  | _ => none

/-- Reading back the chain of a rule. -/
theorem Node.chain?_chain {decision : Decision} (h : decision ≠ .unset)
    (pattern : SegmentPattern) (rest : List SegmentPattern) :
    (Node.chain decision pattern rest).chain? = some ⟨decision, pattern :: rest⟩ := by
  induction rest generalizing pattern with
  | nil => cases decision <;> simp_all [Node.chain, Node.chain?]
  | cons next rest ih => simp [Node.chain, Node.chain?, ih next]

theorem Decision.ofEffect_ne_unset (effect : Effect) : Decision.ofEffect effect ≠ .unset := by
  cases effect <;> decide

/-- The chains under a root, from the first to the last; none if some child is no
chain. -/
def Root.chains? (root : Root) : Option (List Chain) := root.children.mapM Node.chain?

end RoleAccess

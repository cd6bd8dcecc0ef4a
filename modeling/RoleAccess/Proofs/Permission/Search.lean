import Mathlib.Data.List.Basic
import RoleAccess.Permission.Evaluation

/-!
# The search follows the recursion

A stack of pending nodes has a meaning of its own: each node is evaluated by
recursion on the segments from its index on, the top one first
(`evaluateStack`). If all indices are those of segments, a step of the search keeps
that and the meaning, and it leaves a stack of fewer nodes or gives the answer
(`step_agrees`). So a search with more fuel than there are nodes below the stack
gives the meaning of the stack (`answer?_search`), and the forest gives the same
answers as the recursion, errors included (`Forest.grants_eq_evaluate`).
-/

namespace RoleAccess

/-! ## Asking in order -/

@[simp] theorem orElseAsk_false (second : Unit → Except UnknownKind Bool) :
    orElseAsk (.ok false) second = second () := rfl

@[simp] theorem orElseAsk_true (second : Unit → Except UnknownKind Bool) :
    orElseAsk (.ok true) second = .ok true := rfl

@[simp] theorem orElseAsk_error (kind : UnknownKind) (second : Unit → Except UnknownKind Bool) :
    orElseAsk (.error kind) second = .error kind := rfl

/-- A last question whose answer is no changes nothing. -/
theorem orElseAsk_last (first : Except UnknownKind Bool) :
    (orElseAsk first fun _ => .ok false) = first := by
  cases first with
  | error kind => rfl
  | ok granted => cases granted <;> rfl

theorem orElseAsk_assoc (first : Except UnknownKind Bool)
    (second third : Unit → Except UnknownKind Bool) :
    orElseAsk (orElseAsk first second) third =
      orElseAsk first fun _ => orElseAsk (second ()) third := by
  cases first with
  | error kind => rfl
  | ok granted => cases granted <;> rfl

namespace Node

/-! ## Equations of the recursion -/

@[simp] theorem evaluate_nil (environment : Environment) (node : Node) :
    evaluate environment node [] = .ok false := by
  rw [evaluate]

theorem evaluate_cons (environment : Environment) (node : Node) (segment : String)
    (rest : List String) :
    evaluate environment node (segment :: rest) =
      match node.pattern.accepts environment segment with
      | .error kind => .error kind
      | .ok false => .ok false
      | .ok true =>
          if rest.isEmpty then .ok (node.decision = .allow)
          else evaluateLast environment node.children rest := by
  obtain ⟨pattern, decision, children⟩ := node
  unfold evaluate
  rfl

@[simp] theorem evaluateLast_nil_nodes (environment : Environment) (resource : List String) :
    evaluateLast environment [] resource = .ok false := by
  rw [evaluateLast]

theorem evaluateLast_cons (environment : Environment) (node : Node) (later : List Node)
    (resource : List String) :
    evaluateLast environment (node :: later) resource =
      orElseAsk (evaluateLast environment later resource)
        fun _ => evaluate environment node resource := by
  rw [evaluateLast]

/-- A resource without segments is denied by every list of trees. -/
@[simp] theorem evaluateLast_nil (environment : Environment) (nodes : List Node) :
    evaluateLast environment nodes [] = .ok false := by
  induction nodes with
  | nil => simp
  | cons node later ih => simp [evaluateLast_cons, ih]

end Node

namespace Search

variable {environment : Environment} {resource : List String}

/-- The meaning of a stack: its nodes are evaluated from the top on, each on the
segments from its index on. -/
def evaluateStack (environment : Environment) (resource : List String) :
    List Pending → Except UnknownKind Bool
  | [] => .ok false
  | ⟨node, index⟩ :: stack =>
      orElseAsk (node.evaluate environment (resource.drop index))
        fun _ => evaluateStack environment resource stack

/-- The indices on a stack are those of segments. -/
def AreInside (resource : List String) (stack : List Pending) : Prop :=
  ∀ pending ∈ stack, pending.index < resource.length

/-- The number of nodes in the trees on a stack. -/
def stackSize : List Pending → Nat
  | [] => 0
  | ⟨node, _⟩ :: stack => node.size + stackSize stack

theorem push_cons (node : Node) (later : List Node) (index : Nat) (stack : List Pending) :
    push (node :: later) index stack = push later index (⟨node, index⟩ :: stack) := by
  simp [push]

/-- Pushed nodes are evaluated as siblings, before the stack below them. -/
theorem evaluateStack_push (nodes : List Node) (index : Nat) (stack : List Pending) :
    evaluateStack environment resource (push nodes index stack) =
      orElseAsk (Node.evaluateLast environment nodes (resource.drop index))
        fun _ => evaluateStack environment resource stack := by
  induction nodes generalizing stack with
  | nil => simp [push]
  | cons node later ih => rw [push_cons, ih, Node.evaluateLast_cons, orElseAsk_assoc]; rfl

theorem stackSize_push (nodes : List Node) (index : Nat) (stack : List Pending) :
    stackSize (push nodes index stack) = Node.sizes nodes + stackSize stack := by
  induction nodes generalizing stack with
  | nil => simp [push, Node.sizes]
  | cons node later ih =>
      rw [push_cons, ih, stackSize, Node.sizes]
      omega

theorem size_eq (node : Node) : node.size = Node.sizes node.children + 1 := by
  obtain ⟨pattern, decision, children⟩ := node
  rw [Node.size]

/-! ## Steps and runs -/

/-- What a step owes to the stack it starts from: an answer is the meaning of the
stack, and a stack that is left has the same meaning, indices of segments and fewer
nodes. -/
def Agrees (environment : Environment) (resource : List String) (stack : List Pending) :
    Progress → Prop
  | .answered granted => evaluateStack environment resource stack = .ok granted
  | .stuck kind => evaluateStack environment resource stack = .error kind
  | .searching next =>
      evaluateStack environment resource stack = evaluateStack environment resource next ∧
        AreInside resource next ∧ stackSize next < stackSize stack
  | .outside => False

theorem areInside_push {nodes : List Node} {index : Nat} {stack : List Pending}
    (hindex : index < resource.length) (hstack : AreInside resource stack) :
    AreInside resource (push nodes index stack) := by
  intro pending hpending
  rcases List.mem_append.1 hpending with hnew | hold
  · obtain ⟨node, -, rfl⟩ := List.mem_map.1 (List.mem_reverse.1 hnew)
    exact hindex
  · exact hstack pending hold

theorem step_agrees {stack : List Pending} (inside : AreInside resource stack) :
    Agrees environment resource stack (step environment resource stack) := by
  cases stack with
  | nil => rfl
  | cons pending stack =>
      obtain ⟨node, index⟩ := pending
      have hlt : index < resource.length := inside _ List.mem_cons_self
      have hbelow : AreInside resource stack := fun pending hpending =>
        inside pending (List.mem_cons_of_mem _ hpending)
      have hsmaller : stackSize stack < stackSize (⟨node, index⟩ :: stack) := by
        rw [stackSize, size_eq]
        omega
      cases hsegment : resource[index]? with
      | none => exact absurd hlt (by simpa using hsegment)
      | some segment =>
          obtain ⟨_, hget⟩ := List.getElem?_eq_some_iff.1 hsegment
          have hdrop : resource.drop index = segment :: resource.drop (index + 1) := by
            rw [List.drop_eq_getElem_cons hlt, hget]
          cases haccepts : node.pattern.accepts environment segment with
          | error kind =>
              simp only [step, hsegment, haccepts]
              simp [Agrees, evaluateStack, hdrop, Node.evaluate_cons, haccepts]
          | ok matching =>
              cases matching with
              | false =>
                  -- The tree of the node is dropped.
                  simp only [step, hsegment, haccepts]
                  refine ⟨?_, hbelow, hsmaller⟩
                  simp [evaluateStack, hdrop, Node.evaluate_cons, haccepts]
              | true =>
                  by_cases hlast : index + 1 = resource.length
                  · -- The last segment: the decision of the node is the answer or is passed over.
                    have hrest : resource.drop (index + 1) = [] := by simp [hlast]
                    by_cases hallow : node.decision = .allow
                    · simp only [step, hsegment, haccepts, hlast, hallow, if_true]
                      simp [Agrees, evaluateStack, hdrop, hrest, Node.evaluate_cons, haccepts,
                        hallow]
                    · simp only [step, hsegment, haccepts, hlast, hallow, if_true, if_false]
                      refine ⟨?_, hbelow, hsmaller⟩
                      simp [evaluateStack, hdrop, hrest, Node.evaluate_cons, haccepts, hallow]
                  · -- The children take the place of the node, on the segments after this one.
                    have hrest : resource.drop (index + 1) ≠ [] := by
                      rw [Ne, List.drop_eq_nil_iff]
                      omega
                    simp only [step, hsegment, haccepts, hlast, if_false]
                    refine ⟨?_, areInside_push (by omega) hbelow, ?_⟩
                    · rw [evaluateStack_push]
                      simp [evaluateStack, hdrop, Node.evaluate_cons, haccepts, hrest]
                    · rw [stackSize_push, stackSize, size_eq]
                      omega

/-- With more fuel than nodes, a search gives the meaning of its stack. -/
theorem answer?_search {fuel : Nat} {stack : List Pending} (inside : AreInside resource stack)
    (enough : stackSize stack < fuel) :
    (search environment resource fuel stack).answer? =
      some (evaluateStack environment resource stack) := by
  induction fuel generalizing stack with
  | zero => omega
  | succ fuel ih =>
      have hagrees : Agrees environment resource stack (step environment resource stack) :=
        step_agrees inside
      rw [search]
      cases hstep : step environment resource stack with
      | answered granted =>
          rw [hstep] at hagrees
          exact congrArg some hagrees.symm
      | stuck kind =>
          rw [hstep] at hagrees
          exact congrArg some hagrees.symm
      | searching next =>
          rw [hstep] at hagrees
          obtain ⟨hmeaning, hnext, hfewer⟩ := hagrees
          rw [hmeaning]
          exact ih hnext (by omega)
      | outside =>
          rw [hstep] at hagrees
          exact hagrees.elim

end Search

/-- The search among siblings has the answer of the recursion. -/
theorem answer?_search_push (nodes : List Node) {resource : List String}
    (environment : Environment) (h : resource ≠ []) :
    (Search.search environment resource (Node.sizes nodes + 1)
      (Search.push nodes 0 [])).answer? =
        some (Node.evaluateLast environment nodes resource) := by
  -- The first stack holds the siblings only, and the fuel is one more than their nodes.
  have henough : Search.stackSize (Search.push nodes 0 []) < Node.sizes nodes + 1 := by
    rw [Search.stackSize_push, Search.stackSize]
    omega
  have hinside : Search.AreInside resource (Search.push nodes 0 []) :=
    Search.areInside_push (List.length_pos_iff.2 h) (by simp [Search.AreInside])
  rw [Search.answer?_search hinside henough, Search.evaluateStack_push]
  exact congrArg some (orElseAsk_last _)

/-- The search among siblings answers as the recursion does. -/
theorem grantedBy_eq_evaluateLast (nodes : List Node) (resource : List String)
    (environment : Environment) :
    grantedBy nodes resource environment = Node.evaluateLast environment nodes resource := by
  cases resource with
  | nil => simp [grantedBy]
  | cons segment rest =>
      simp only [grantedBy, List.isEmpty_cons, Bool.false_eq_true, if_false]
      rw [answer?_search_push nodes environment (List.cons_ne_nil segment rest)]
      rfl

/-- The search in a forest answers as the recursion does, errors included. -/
theorem Forest.grants_eq_evaluate (forest : Forest) (roles resource : List String)
    (environment : Environment) :
    forest.grants roles resource environment = forest.evaluate environment resource roles := by
  induction roles with
  | nil => rfl
  | cons role roles ih =>
      rw [Forest.grants, Forest.evaluate, ih]
      cases forest.rootOf role with
      | none => rfl
      | some root =>
          simp only [Root.grants, grantedBy_eq_evaluateLast]
          cases Node.evaluateLast environment root.children resource with
          | error kind => rfl
          | ok granted => cases granted <;> rfl

end RoleAccess

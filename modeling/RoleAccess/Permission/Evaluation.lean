import RoleAccess.Permission.Search

/-!
# Evaluating trees by recursion

The meaning of a tree of nodes, given by recursion on the tree. A node has to
match the first segment; at the last segment its decision counts, and before it
the children answer for the segments that are left. Siblings are asked from the
last to the first, and roles in their order. The first grant ends the
evaluation, and so does the first pattern whose kind has no rule for matching.
-/

namespace RoleAccess

/-- The second question is asked only if the answer to the first is no. -/
def orElseAsk (first : Except UnknownKind Bool) (second : Unit → Except UnknownKind Bool) :
    Except UnknownKind Bool :=
  match first with
  | .ok false => second ()
  | answer => answer

namespace Node

mutual

/-- Whether the tree of a node grants a resource. -/
def evaluate (environment : Environment) : Node → List String → Except UnknownKind Bool
  | _, [] => .ok false
  | ⟨pattern, decision, children⟩, segment :: rest =>
      match pattern.accepts environment segment with
      | .error kind => .error kind
      | .ok false => .ok false
      | .ok true =>
          if rest.isEmpty then .ok (decision = .allow)
          else evaluateLast environment children rest

/-- Whether one of several trees grants a resource; the last is asked first. -/
def evaluateLast (environment : Environment) :
    List Node → List String → Except UnknownKind Bool
  | [], _ => .ok false
  | node :: later, resource =>
      orElseAsk (evaluateLast environment later resource)
        fun _ => evaluate environment node resource

end

end Node

/-- Whether the tree of some role of a list grants a resource. -/
def Forest.evaluate (forest : Forest) (environment : Environment) (resource : List String) :
    (roles : List String) → Except UnknownKind Bool
  | [] => .ok false
  | role :: roles =>
      orElseAsk
        (match forest.rootOf role with
          | none => .ok false
          | some root => Node.evaluateLast environment root.children resource)
        fun _ => forest.evaluate environment resource roles

/-- Some path down from the nodes matches the segments one by one, and ends at a
node that allows. -/
inductive GrantingPath (environment : Environment) : List Node → List String → Prop where
  | last {nodes : List Node} {node : Node} {segment : String} (h : node ∈ nodes)
      (accepted : node.pattern.accepts environment segment = .ok true)
      (allows : node.decision = .allow) : GrantingPath environment nodes [segment]
  | inner {nodes : List Node} {node : Node} {segment next : String} {rest : List String}
      (h : node ∈ nodes) (accepted : node.pattern.accepts environment segment = .ok true)
      (below : GrantingPath environment node.children (next :: rest)) :
      GrantingPath environment nodes (segment :: next :: rest)

end RoleAccess

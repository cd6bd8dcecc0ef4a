import RoleAccess.Permission.Forest

/-!
# Searching a tree for a grant

A resource is granted by a path of nodes from the root that match its segments
one by one, when the path is as long as the resource and ends at a node that
allows. The search keeps the nodes that are still to be tried on a stack,
each with the index of the segment it has to match, and always tries the last
one that was added: later siblings come before earlier ones, and the children of
a node before its siblings. It ends at the first grant, or at the first pattern
whose kind has no rule for matching. It could not go on with an index that is that
of no segment, but it never comes to one.

Each step takes one node off the stack and puts at most its children on, so the
number of nodes in the trees on the stack falls with every step; that number
bounds the steps of a search (`search`).
-/

namespace RoleAccess

/-- Whether a pattern matches a segment in an environment. A pattern that refers
to a name it does not have matches nothing. -/
def SegmentPattern.accepts (pattern : SegmentPattern) (environment : Environment)
    (segment : String) : Except UnknownKind Bool :=
  match pattern.kind with
  | .literal => .ok (pattern.name = some segment)
  | .bound => .ok (pattern.name.bind environment.lookup = some segment)
  | .member => .ok (pattern.name.any fun name => environment.contains name segment)
  | .universal => .ok true
  | .other name => .error ⟨name⟩

namespace Node

mutual

/-- The number of nodes of a tree. -/
def size : Node → Nat
  | ⟨_, _, children⟩ => sizes children + 1

/-- The number of nodes of several trees. -/
def sizes : List Node → Nat
  | [] => 0
  | node :: rest => size node + sizes rest

end

end Node

/-- A node still to be tried, and the index of the segment that it has to match. -/
structure Pending where
  node : Node
  index : Nat

/-- What a step of the search leads to. -/
inductive Progress where
  | searching (stack : List Pending)
  | answered (granted : Bool)
  | stuck (kind : UnknownKind)
  /-- The node on top has the index of no segment. -/
  | outside

/-- The answer that has been come to, if there is one. -/
def Progress.answer? : Progress → Option (Except UnknownKind Bool)
  | answered granted => some (.ok granted)
  | stuck kind => some (.error kind)
  | searching _ | outside => none

namespace Search

/-- The stack with nodes added for the segment of a given index; the last node
comes on top. -/
def push (nodes : List Node) (index : Nat) (stack : List Pending) : List Pending :=
  (nodes.map fun node => ⟨node, index⟩).reverse ++ stack

/-- One step of the search: the node on top is taken off and tried. -/
def step (environment : Environment) (resource : List String) : List Pending → Progress
  | [] => .answered false
  | ⟨node, index⟩ :: stack =>
      match resource[index]? with
      | none => .outside
      | some segment =>
          match node.pattern.accepts environment segment with
          | .error kind => .stuck kind
          | .ok false => .searching stack
          | .ok true =>
              if index + 1 = resource.length then
                if node.decision = .allow then .answered true else .searching stack
              else .searching (push node.children (index + 1) stack)

/-- Steps until the search ends; `fuel` bounds their number. -/
def search (environment : Environment) (resource : List String) :
    (fuel : Nat) → List Pending → Progress
  | 0, stack => .searching stack
  | fuel + 1, stack =>
      match step environment resource stack with
      | .searching stack => search environment resource fuel stack
      | progress => progress

end Search

/-- Whether some path through the given nodes grants a resource; a resource
without segments is granted by none. A search with this fuel always has an answer. -/
def grantedBy (nodes : List Node) (resource : List String) (environment : Environment) :
    Except UnknownKind Bool :=
  if resource.isEmpty then .ok false
  else
    (Search.search environment resource (Node.sizes nodes + 1)
      (Search.push nodes 0 [])).answer?.getD (.ok false)

/-- Whether the tree of a node grants a resource. -/
def Node.grants (node : Node) (resource : List String) (environment : Environment) :
    Except UnknownKind Bool :=
  grantedBy [node] resource environment

/-- Whether the tree under a root grants a resource. -/
def Root.grants (root : Root) (resource : List String) (environment : Environment) :
    Except UnknownKind Bool :=
  grantedBy root.children resource environment

/-- Whether the tree of some role of a list grants a resource; the roles are
tried in order, up to the first grant. -/
def Forest.grants (forest : Forest) :
    (roles resource : List String) → Environment → Except UnknownKind Bool
  | [], _, _ => .ok false
  | role :: roles, resource, environment => do
      let granted ←
        match forest.rootOf role with
        | none => .ok false
        | some root => root.grants resource environment
      if granted then return true else forest.grants roles resource environment

end RoleAccess

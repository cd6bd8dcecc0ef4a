import RoleAccess.Checker

/-!
# Sessions with a checker

A session is a list of requests to one checker: queries, replacements of its
environment, and questions to its environment, its hierarchy and its forest. A
replacement that fails changes nothing, and no other request changes the checker,
so the state after any session is the checker with another environment
(`hierarchy_afterAll`, `forest_afterAll`).
-/

namespace RoleAccess.Checker

/-- What the hierarchy of a checker can be asked. -/
inductive HierarchyQuery where
  | ancestors (role : String)
  | parent (role : String)
  | contains (role : String)
  | roles
  | size
  deriving DecidableEq, Repr

/-- What the forest of a checker can be asked; a grant is asked for under an
environment of its own. -/
inductive ForestQuery where
  | roles
  | size
  | root (role : String)
  | grants (granted resource : List String) (environment : Environment)

/-- What a checker can be asked. -/
inductive Request where
  | check (role : String) (resource : List String)
  | checkPath (role path : String)
  /-- Replace the environment by the one that two mappings give. -/
  | setEnvironment (bindings sets : List (Value × Value))
  /-- Replace the environment by the one that a document describes. -/
  | assign (document : Value)
  | readEnvironment
  | askHierarchy (query : HierarchyQuery)
  | askForest (query : ForestQuery)

/-- What a checker answers. -/
inductive Reply where
  | verdict (outcome : Except UnknownKind Bool)
  | replaced (outcome : Except EnvironmentFault Environment)
  | environment (environment : Environment)
  | names (names : List String)
  | name (name : Option String)
  | truth (holds : Bool)
  | count (number : Nat)
  | root (root : Option Root)

/-- What a hierarchy answers. -/
def HierarchyQuery.reply (hierarchy : Hierarchy) : HierarchyQuery → Reply
  | .ancestors role => .names (hierarchy.ancestors role)
  | .parent role => .name (hierarchy.parentOf role)
  | .contains role => .truth (hierarchy.contains role)
  | .roles => .names hierarchy.roles
  | .size => .count hierarchy.size

/-- What a forest answers. -/
def ForestQuery.reply (forest : Forest) : ForestQuery → Reply
  | .roles => .names forest.roles
  | .size => .count forest.size
  | .root role => .root (forest.rootOf role)
  | .grants granted resource environment => .verdict (forest.grants granted resource environment)

/-- The environment that a request wants to put in. -/
def Request.replacement : Request → Option (Except EnvironmentFault Environment)
  | .setEnvironment bindings sets => some (Environment.build bindings sets)
  | .assign document => some (Environment.ofDocument document)
  | _ => none

/-- The checker after a request. -/
def after (checker : Checker) (request : Request) : Checker :=
  match request.replacement with
  | some (.ok environment) => checker.withEnvironment environment
  | _ => checker

/-- The answer to a request. -/
def reply (checker : Checker) (request : Request) : Reply :=
  match request with
  | .check role resource => .verdict (checker.check role resource)
  | .checkPath role path => .verdict (checker.checkPath role path)
  | .setEnvironment bindings sets => .replaced (Environment.build bindings sets)
  | .assign document => .replaced (Environment.ofDocument document)
  | .readEnvironment => .environment checker.environment
  | .askHierarchy query => query.reply checker.hierarchy
  | .askForest query => query.reply checker.forest

/-- What a request reports. An assigned document is not reported. -/
def records (checker : Checker) (request : Request) : List Log.Record :=
  match request with
  | .check role resource => (checker.checkReported role resource).records
  | .checkPath role path => (checker.checkReported role (Path.segments path)).records
  | .setEnvironment bindings sets =>
      match Environment.build bindings sets with
      | .ok environment =>
          [⟨.debug, logger, "Environment replaced: " ++ toString environment.bindings.size ++
            " variables, " ++ toString environment.sets.size ++ " sets"⟩]
      | .error _ => []
  | _ => []

/-- The checker after a list of requests. -/
def afterAll (checker : Checker) (requests : List Request) : Checker :=
  requests.foldl after checker

/-- The answers to a list of requests, in order. -/
def replies (checker : Checker) : List Request → List Reply
  | [] => []
  | request :: rest => checker.reply request :: (checker.after request).replies rest

@[simp] theorem hierarchy_after (checker : Checker) (request : Request) :
    (checker.after request).hierarchy = checker.hierarchy := by
  unfold after
  split <;> rfl

@[simp] theorem forest_after (checker : Checker) (request : Request) :
    (checker.after request).forest = checker.forest := by
  unfold after
  split <;> rfl

@[simp] theorem afterAll_nil (checker : Checker) : checker.afterAll [] = checker := rfl

@[simp] theorem afterAll_cons (checker : Checker) (request : Request) (rest : List Request) :
    checker.afterAll (request :: rest) = (checker.after request).afterAll rest := rfl

theorem hierarchy_afterAll (checker : Checker) (requests : List Request) :
    (checker.afterAll requests).hierarchy = checker.hierarchy := by
  induction requests generalizing checker with
  | nil => rfl
  | cons request rest ih => simp [ih]

theorem forest_afterAll (checker : Checker) (requests : List Request) :
    (checker.afterAll requests).forest = checker.forest := by
  induction requests generalizing checker with
  | nil => rfl
  | cons request rest ih => simp [ih]

end RoleAccess.Checker

/-!
# Resource paths

A path is cut into segments at its slashes, after at most one slash has been
taken off its front and at most one off its end. A path with nothing left has
no segments; any other path keeps its empty segments.
-/

namespace RoleAccess.Path

/-- Takes one slash off the front. -/
def dropLeadingSlash : List Char → List Char
  | '/' :: rest => rest
  | path => path

/-- Takes one slash off the end. -/
def dropTrailingSlash (path : List Char) : List Char :=
  if path.getLast? = some '/' then path.dropLast else path

/-- Takes one slash off the front, then one off the end. -/
def trimSlashes (path : List Char) : List Char :=
  dropTrailingSlash (dropLeadingSlash path)

/-- The segments of a path. -/
def split (path : List Char) : List (List Char) :=
  match trimSlashes path with
  | [] => []
  | trimmed => trimmed.splitOn '/'

/-- The segments of a path, as strings. -/
def segments (path : String) : List String :=
  (split path.toList).map String.ofList

theorem split_eq_nil_iff (path : List Char) : split path = [] ↔ trimSlashes path = [] := by
  unfold split
  split
  · next h => simp [h]
  · next h =>
      constructor
      · intro e; exact absurd e (by simp [List.splitOn_eq_splitOnP, List.splitOnP_ne_nil])
      · intro e; exact absurd e h

end RoleAccess.Path

import RoleAccess.Permission.Grant
import RoleAccess.Proofs.Permission.Search

/-!
# Granting paths

Where every kind has a rule for matching, the recursion on a tree always gives an
answer, and the answer is yes exactly if some path down from the nodes matches
the resource segment by segment and ends at a node that allows
(`Node.decides_evaluateLast`).

Main statement: the search in a forest answers as the recursion does, errors
included, and with known kinds only it decides whether some role of the list has
such a path under its root (`Forest.grants_eq_evaluate_and_decides`).
-/

namespace RoleAccess

/-- An answer is given, and it is yes exactly if a statement holds. -/
def Decides (answer : Except UnknownKind Bool) (statement : Prop) : Prop :=
  ∃ verdict, answer = .ok verdict ∧ (verdict = true ↔ statement)

namespace Decides

variable {answer : Except UnknownKind Bool} {statement other : Prop}

theorem congr (h : Decides answer statement) (heq : statement ↔ other) :
    Decides answer other := by
  obtain ⟨verdict, hanswer, hverdict⟩ := h
  exact ⟨verdict, hanswer, hverdict.trans heq⟩

theorem of_not (h : ¬statement) : Decides (.ok false) statement :=
  ⟨false, rfl, by simp [h]⟩

/-- Two questions asked in order decide whether one of two statements holds. -/
theorem orElseAsk {second : Unit → Except UnknownKind Bool} (hfirst : Decides answer statement)
    (hsecond : Decides (second ()) other) :
    Decides (RoleAccess.orElseAsk answer second) (statement ∨ other) := by
  obtain ⟨verdict, rfl, hverdict⟩ := hfirst
  cases verdict with
  -- A first yes is the answer, and the second question is not asked.
  | true => exact ⟨true, rfl, by simp [← hverdict]⟩
  | false =>
      refine hsecond.congr ?_
      rw [← hverdict]
      simp

/-- A decided answer is yes exactly if the statement holds. -/
theorem eq_ok_true_iff (h : Decides answer statement) : answer = .ok true ↔ statement := by
  obtain ⟨verdict, rfl, hverdict⟩ := h
  simpa using hverdict

theorem eq_ok_false (h : Decides answer statement) (hnot : ¬statement) : answer = .ok false := by
  obtain ⟨verdict, rfl, hverdict⟩ := h
  cases verdict with
  | false => rfl
  | true => exact absurd (hverdict.1 rfl) hnot

/-- The statement leaves no choice of an answer. -/
theorem unique {answer' : Except UnknownKind Bool} (h : Decides answer statement)
    (h' : Decides answer' statement) : answer = answer' := by
  obtain ⟨verdict, rfl, hverdict⟩ := h
  obtain ⟨verdict', rfl, hverdict'⟩ := h'
  rw [Bool.eq_iff_iff.2 (hverdict.trans hverdict'.symm)]

end Decides

/-! ## Trees with known kinds -/

/-- Every kind in the tree of a node has a rule for matching. -/
inductive Node.HasKnownKinds : Node → Prop where
  | node {node : Node} (pattern : node.pattern.kind.IsKnown)
      (children : ∀ child ∈ node.children, HasKnownKinds child) : HasKnownKinds node

/-- Every kind in the trees of a forest has a rule for matching. -/
def Forest.HasKnownKinds (forest : Forest) : Prop :=
  ∀ role root, forest.rootOf role = some root → ∀ node ∈ root.children, node.HasKnownKinds

variable {environment : Environment} {nodes : List Node} {segment : String} {rest : List String}

theorem not_grantingPath_nil : ¬GrantingPath environment nodes [] := by
  intro h
  cases h

theorem not_grantingPath_nil_nodes {resource : List String} :
    ¬GrantingPath environment [] resource := by
  intro h
  cases h with
  | last h => simp at h
  | inner h => simp at h

/-- A path starts at one of the nodes it may start at. -/
theorem grantingPath_cons_iff {node : Node} {later : List Node} {resource : List String} :
    GrantingPath environment (node :: later) resource ↔
      GrantingPath environment later resource ∨ GrantingPath environment [node] resource := by
  constructor
  · intro h
    cases h with
    | last h accepted allows =>
        rcases List.mem_cons.1 h with rfl | h
        · exact Or.inr (.last (by simp) accepted allows)
        · exact Or.inl (.last h accepted allows)
    | inner h accepted below =>
        rcases List.mem_cons.1 h with rfl | h
        · exact Or.inr (.inner (by simp) accepted below)
        · exact Or.inl (.inner h accepted below)
  · rintro (h | h)
    · cases h with
      | last h accepted allows => exact .last (List.mem_cons_of_mem _ h) accepted allows
      | inner h accepted below => exact .inner (List.mem_cons_of_mem _ h) accepted below
    · cases h with
      | last h accepted allows =>
          rw [List.mem_singleton] at h
          exact .last (by simp [h]) accepted allows
      | inner h accepted below =>
          rw [List.mem_singleton] at h
          exact .inner (by simp [h]) accepted below

theorem grantingPath_singleton_last_iff {node : Node} :
    GrantingPath environment [node] [segment] ↔
      node.pattern.accepts environment segment = .ok true ∧ node.decision = .allow := by
  constructor
  · intro h
    cases h with
    | last h accepted allows =>
        rw [List.mem_singleton] at h
        exact h ▸ ⟨accepted, allows⟩
  · rintro ⟨accepted, allows⟩
    exact .last (by simp) accepted allows

theorem grantingPath_singleton_inner_iff {node : Node} {next : String} :
    GrantingPath environment [node] (segment :: next :: rest) ↔
      node.pattern.accepts environment segment = .ok true ∧
        GrantingPath environment node.children (next :: rest) := by
  constructor
  · intro h
    cases h with
    | inner h accepted below =>
        rw [List.mem_singleton] at h
        exact h ▸ ⟨accepted, below⟩
  · rintro ⟨accepted, below⟩
    exact .inner (by simp) accepted below

namespace Node

/-- The children answer for the segments after the first one. -/
theorem decides_evaluate {node : Node} (known : node.pattern.kind.IsKnown)
    (below : Decides (evaluateLast environment node.children rest)
      (GrantingPath environment node.children rest)) :
    Decides (evaluate environment node (segment :: rest))
      (GrantingPath environment [node] (segment :: rest)) := by
  obtain ⟨matching, haccepts⟩ :=
    SegmentPattern.exists_accepts_eq_ok known environment segment
  rw [evaluate_cons, haccepts]
  cases rest with
  | nil =>
      rw [grantingPath_singleton_last_iff, haccepts]
      cases matching with
      | false => exact Decides.of_not (by simp)
      | true => exact ⟨decide (node.decision = .allow), rfl, by simp⟩
  | cons next rest =>
      rw [grantingPath_singleton_inner_iff, haccepts]
      cases matching with
      | false => exact Decides.of_not (by simp)
      | true => exact below.congr (by simp)

/-- With known kinds, the recursion decides whether there is a granting path. -/
theorem decides_evaluateLast (known : ∀ node ∈ nodes, node.HasKnownKinds)
    (resource : List String) :
    Decides (evaluateLast environment nodes resource)
      (GrantingPath environment nodes resource) := by
  -- The children of a node are asked for fewer segments, the later siblings for as many.
  induction resource generalizing nodes with
  | nil =>
      rw [evaluateLast_nil]
      exact Decides.of_not not_grantingPath_nil
  | cons segment rest ihrest =>
      induction nodes with
      | nil =>
          rw [evaluateLast_nil_nodes]
          exact Decides.of_not not_grantingPath_nil_nodes
      | cons node later ihlater =>
          have hlater := ihlater fun other hm => known other (List.mem_cons_of_mem _ hm)
          rw [evaluateLast_cons, grantingPath_cons_iff]
          cases known node List.mem_cons_self with
          | node pattern children =>
              exact hlater.orElseAsk (decides_evaluate pattern (ihrest children))

end Node

namespace Forest

/-- With known kinds, the recursion on a forest decides whether some role has a
granting path under its root. -/
theorem decides_evaluate {forest : Forest} (known : forest.HasKnownKinds)
    (roles resource : List String) :
    Decides (forest.evaluate environment resource roles)
      (∃ role ∈ roles, ∃ root, forest.rootOf role = some root ∧
        GrantingPath environment root.children resource) := by
  induction roles with
  | nil => exact Decides.of_not (by simp)
  | cons role roles ih =>
      rw [Forest.evaluate]
      simp only [List.exists_mem_cons_iff]
      cases hroot : forest.rootOf role with
      | none => exact (Decides.of_not (by simp)).orElseAsk ih
      | some root =>
          have hnodes : Decides (Node.evaluateLast environment root.children resource)
              (GrantingPath environment root.children resource) :=
            Node.decides_evaluateLast (known role root hroot) resource
          exact (hnodes.congr (by simp)).orElseAsk ih

/-- The search in a forest has the outcome of the recursion, a grant, a denial or
the first unknown kind. With known kinds it grants exactly if some role of the
list has, under its root, a path that matches the resource segment by segment and
ends at a node that allows. -/
theorem grants_eq_evaluate_and_decides (forest : Forest) (roles resource : List String)
    (environment : Environment) :
    forest.grants roles resource environment = forest.evaluate environment resource roles ∧
      (forest.HasKnownKinds →
        Decides (forest.grants roles resource environment)
          (∃ role ∈ roles, ∃ root, forest.rootOf role = some root ∧
            GrantingPath environment root.children resource)) := by
  refine ⟨grants_eq_evaluate forest roles resource environment, fun known => ?_⟩
  rw [grants_eq_evaluate]
  exact decides_evaluate known roles resource

/-- The second role of a list is granted a resource by a path through a node whose own
decision is a denial. -/
theorem grants_through_denying_node :
    let forest : Forest := ⟨Table.empty.put "User"
      { children := [⟨.literal "docs", .deny, [⟨.universal, .allow, []⟩]⟩] }⟩
    forest.HasKnownKinds ∧ forest.grants ["Guest", "User"] ["docs", "a"] {} = .ok true := by
  intro forest
  have known : forest.HasKnownKinds := by
    intro role root hroot node hm
    rw [rootOf, Table.get?_put] at hroot
    split at hroot
    · cases hroot
      rw [List.mem_singleton] at hm
      subst hm
      refine .node trivial fun child hchild => ?_
      rw [List.mem_singleton] at hchild
      subst hchild
      exact .node trivial (by simp)
    · cases hroot
  refine ⟨known, ?_⟩
  rw [((grants_eq_evaluate_and_decides forest _ _ _).2 known).eq_ok_true_iff]
  exact ⟨"User", by simp, _, rfl, .inner (List.mem_singleton_self _) rfl
    (.last (List.mem_singleton_self _) rfl rfl)⟩

end Forest

end RoleAccess

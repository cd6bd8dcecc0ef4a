import Mathlib.Data.List.Nodup
import RoleAccess.Proofs.Permission.Search

/-!
# What a search visits

A node of a forest has a place: the tree that it is in, and the children that lead down to it.
Here the stack of a search is kept with the places of its nodes (`Located`), and a run of the
search with the places that it has visited (`Visits`); without the places it is the search as it
is (`Visits.exists_next`).

Two things are kept by every iteration. Each node on the stack is at its place, and the index of
its segment is its depth and below the length of the resource, so no step finds an index that is
that of no segment. No place is visited twice, because
the children of a node come on the stack when it is visited and at no other time (`IsSound`). With
each iteration the nodes that may still be visited get fewer: those of the trees on the stack that
are not deeper than the resource is long (`pendingAbove`). So a search ends, after at most as many
iterations as there are such nodes in the forest (`search_visits_once_and_ends`).
-/

namespace RoleAccess

/-! ## Places -/

/-- The place of a node in a forest: the number of its tree, and the numbers of the children that
lead down to it, the last one first. -/
structure Place where
  tree : Nat
  turns : List Nat := []
  deriving DecidableEq, Repr

namespace Place

/-- The number of nodes above a place. -/
def depth (place : Place) : Nat := place.turns.length

/-- The place of a child. -/
def child (place : Place) (number : Nat) : Place := { place with turns := number :: place.turns }

@[simp] theorem depth_child (place : Place) (number : Nat) :
    (place.child number).depth = place.depth + 1 := rfl

theorem child_inj {place other : Place} {number index : Nat} :
    place.child number = other.child index ↔ place = other ∧ number = index := by
  obtain ⟨tree, turns⟩ := place
  obtain ⟨otherTree, otherTurns⟩ := other
  simp only [child, Place.mk.injEq, List.cons.injEq]
  tauto

end Place

/-- A node is at a place of a forest. -/
inductive IsAt (nodes : List Node) : Place → Node → Prop where
  | root {number : Nat} {node : Node} (h : nodes[number]? = some node) :
      IsAt nodes ⟨number, []⟩ node
  | child {place : Place} {parent node : Node} {number : Nat} (above : IsAt nodes place parent)
      (h : parent.children[number]? = some node) : IsAt nodes (place.child number) node

namespace Node

mutual

/-- The number of nodes of a tree that are less deep than a bound. -/
def sizeAbove : Node → (bound : Nat) → Nat
  | _, 0 => 0
  | ⟨_, _, children⟩, bound + 1 => sizesAbove children bound + 1

/-- The number of nodes of several trees that are less deep than a bound. -/
def sizesAbove : List Node → (bound : Nat) → Nat
  | [], _ => 0
  | node :: rest, bound => sizeAbove node bound + sizesAbove rest bound

end

theorem sizeAbove_succ (node : Node) (bound : Nat) :
    node.sizeAbove (bound + 1) = sizesAbove node.children bound + 1 := by
  obtain ⟨pattern, decision, children⟩ := node
  rw [sizeAbove]

end Node

namespace Search

/-- A pending node with its place. -/
structure Located where
  place : Place
  pending : Pending

/-- Siblings for the segment of a given index, the last one on top. -/
def locate (placeOf : Nat → Place) (nodes : List Node) (index : Nat) : List Located :=
  (nodes.mapIdx fun number node => ⟨placeOf number, ⟨node, index⟩⟩).reverse

/-- The children of a pending node, for the next segment. -/
def Located.below (top : Located) : List Located :=
  locate top.place.child top.pending.node.children (top.pending.index + 1)

/-- An iteration that does not end the search: the top of the stack is visited, and its children
may take its place. -/
inductive Iterates (environment : Environment) (resource : List String) :
    List Located → List Located → Prop where
  | dropped {top : Located} {rest : List Located}
      (h : step environment resource ((top :: rest).map Located.pending) =
        .searching (rest.map Located.pending)) :
      Iterates environment resource (top :: rest) rest
  | expanded {top : Located} {rest : List Located}
      (h : step environment resource ((top :: rest).map Located.pending) =
        .searching ((top.below ++ rest).map Located.pending)) :
      Iterates environment resource (top :: rest) (top.below ++ rest)

/-- A search comes to a stack after it has visited places, the latest one first. For a resource
without segments it does not begin. -/
inductive Visits (nodes : List Node) (resource : List String) (environment : Environment) :
    (visited : List Place) → (stack : List Located) → Prop where
  | start (h : resource ≠ []) :
      Visits nodes resource environment [] (locate (fun number => ⟨number, []⟩) nodes 0)
  | next {visited : List Place} {top : Located} {rest stack : List Located}
      (before : Visits nodes resource environment visited (top :: rest))
      (h : Iterates environment resource (top :: rest) stack) :
      Visits nodes resource environment (top.place :: visited) stack

/-- A search ends with an answer after a number of iterations. -/
inductive Ends (nodes : List Node) (resource : List String) (environment : Environment) :
    (iterations : Nat) → (answer : Except UnknownKind Bool) → Prop where
  | unopened (h : resource = []) : Ends nodes resource environment 0 (.ok false)
  | exhausted {visited : List Place} (run : Visits nodes resource environment visited []) :
      Ends nodes resource environment visited.length (.ok false)
  | answered {visited : List Place} {top : Located} {rest : List Located} {granted : Bool}
      (run : Visits nodes resource environment visited (top :: rest))
      (h : step environment resource ((top :: rest).map Located.pending) = .answered granted) :
      Ends nodes resource environment (visited.length + 1) (.ok granted)
  | stuck {visited : List Place} {top : Located} {rest : List Located} {kind : UnknownKind}
      (run : Visits nodes resource environment visited (top :: rest))
      (h : step environment resource ((top :: rest).map Located.pending) = .stuck kind) :
      Ends nodes resource environment (visited.length + 1) (.error kind)

variable {nodes : List Node} {resource : List String} {environment : Environment}
  {visited : List Place} {top visit : Located} {rest stack next : List Located}
  {pendings : List Pending} {placeOf : Nat → Place} {index : Nat}

/-! ## Siblings -/

/-- Without their places, located siblings are those that the search pushes. -/
theorem map_pending_locate_append (placeOf : Nat → Place) (nodes : List Node) (index : Nat)
    (rest : List Located) :
    (locate placeOf nodes index ++ rest).map Located.pending =
      push nodes index (rest.map Located.pending) := by
  rw [List.map_append, push, locate, List.map_reverse]
  congr 2
  refine List.ext_getElem? fun number => ?_
  simp only [List.getElem?_map, List.getElem?_mapIdx, Option.map_map]
  rfl

theorem mem_locate_iff :
    visit ∈ locate placeOf nodes index ↔
      ∃ number node, nodes[number]? = some node ∧ visit = ⟨placeOf number, node, index⟩ := by
  simp only [locate, List.mem_reverse, List.mem_mapIdx, List.getElem?_eq_some_iff]
  constructor
  · rintro ⟨number, hnumber, rfl⟩
    exact ⟨number, _, ⟨hnumber, rfl⟩, rfl⟩
  · rintro ⟨number, node, ⟨hnumber, rfl⟩, rfl⟩
    exact ⟨number, hnumber, rfl⟩

theorem mem_map_place_locate {place : Place}
    (h : place ∈ (locate placeOf nodes index).map Located.place) :
    ∃ number, place = placeOf number := by
  obtain ⟨visit, hvisit, rfl⟩ := List.mem_map.1 h
  obtain ⟨number, node, -, rfl⟩ := mem_locate_iff.1 hvisit
  exact ⟨number, rfl⟩

/-- Siblings are at different places. -/
theorem nodup_map_place_locate (distinct : Function.Injective placeOf) (nodes : List Node)
    (index : Nat) : ((locate placeOf nodes index).map Located.place).Nodup := by
  have hplaces : (locate placeOf nodes index).map Located.place =
      ((List.range nodes.length).map placeOf).reverse := by
    rw [locate, List.map_reverse]
    refine congrArg List.reverse (List.ext_getElem? fun number => ?_)
    simp only [List.getElem?_map, List.getElem?_mapIdx, Option.map_map]
    by_cases hnumber : number < nodes.length
    · simp [hnumber]
    · simp [hnumber]
  rw [hplaces, List.nodup_reverse]
  exact List.nodup_range.map distinct

/-! ## One iteration -/

/-- What a step that goes on can do with the top of the stack. -/
theorem step_cons_cases {pending : Pending} {pendings after : List Pending}
    (inside : pending.index < resource.length)
    (h : step environment resource (pending :: pendings) = .searching after) :
    after = pendings ∨
      pending.index + 1 < resource.length ∧
        after = push pending.node.children (pending.index + 1) pendings := by
  obtain ⟨node, index⟩ := pending
  dsimp only at inside ⊢
  simp only [step, List.getElem?_eq_getElem inside] at h
  split at h
  · cases h
  · cases h
    exact .inl rfl
  · split at h
    · split at h
      · cases h
      · cases h
        exact .inl rfl
    · cases h
      exact .inr ⟨by omega, rfl⟩

/-- Each iteration of the search has its places. -/
theorem exists_iterates (inside : top.pending.index < resource.length)
    (h : step environment resource ((top :: rest).map Located.pending) = .searching pendings) :
    ∃ next, next.map Located.pending = pendings ∧
      Iterates environment resource (top :: rest) next := by
  rcases step_cons_cases inside h with rfl | ⟨-, rfl⟩
  · exact ⟨rest, rfl, .dropped h⟩
  · rw [← map_pending_locate_append] at h
    exact ⟨top.below ++ rest, map_pending_locate_append _ _ _ _, .expanded h⟩

/-- The top of the stack is dropped, or its children take its place before the last segment. -/
theorem Iterates.cases (inside : top.pending.index < resource.length)
    (h : Iterates environment resource (top :: rest) next) :
    next = rest ∨ top.pending.index + 1 < resource.length ∧ next = top.below ++ rest := by
  cases h with
  | dropped => exact .inl rfl
  | expanded h =>
      rcases step_cons_cases inside h with hrest | ⟨hinside, -⟩
      · -- There are no children, or the stack would have grown.
        have hlength := congrArg List.length hrest
        simp only [List.map_append, List.length_append, List.length_map] at hlength
        have hnone : top.below = [] := List.length_eq_zero_iff.1 (by omega)
        exact .inl (by rw [hnone, List.nil_append])
      · exact .inr ⟨hinside, rfl⟩

/-! ## What is kept -/

/-- What a run of the search keeps. -/
structure IsSound (nodes : List Node) (resource : List String) (visited : List Place)
    (stack : List Located) : Prop where
  /-- Each node on the stack is at its place, and it is to match the segment of its depth. -/
  located : ∀ visit ∈ stack, IsAt nodes visit.place visit.pending.node ∧
    visit.pending.index = visit.place.depth ∧ visit.pending.index < resource.length
  once : (visited ++ stack.map Located.place).Nodup
  /-- A child has come on the stack when its parent was visited. -/
  parents : ∀ place number, place.child number ∈ visited ++ stack.map Located.place →
    place ∈ visited

theorem isSound_start (h : resource ≠ []) :
    IsSound nodes resource [] (locate (fun number => ⟨number, []⟩) nodes 0) := by
  refine ⟨?_, ?_, ?_⟩
  · intro visit hvisit
    obtain ⟨number, node, hnode, rfl⟩ := mem_locate_iff.1 hvisit
    exact ⟨.root hnode, rfl, List.length_pos_iff.2 h⟩
  · refine nodup_map_place_locate (fun number other heq => ?_) nodes 0
    cases heq
    rfl
  · intro place number hmem
    obtain ⟨other, heq⟩ := mem_map_place_locate hmem
    cases heq

theorem IsSound.inside (sound : IsSound nodes resource visited (top :: rest)) :
    top.pending.index < resource.length :=
  (sound.located top List.mem_cons_self).2.2

/-- The places are the same before and after the top of the stack is visited. -/
theorem perm_visited (visited : List Place) (top : Located) (rest : List Located) :
    (top.place :: visited ++ rest.map Located.place).Perm
      (visited ++ (top :: rest).map Located.place) :=
  (List.perm_middle).symm

theorem IsSound.drop (sound : IsSound nodes resource visited (top :: rest)) :
    IsSound nodes resource (top.place :: visited) rest := by
  have hperm := perm_visited visited top rest
  refine ⟨?_, ?_, ?_⟩
  · intro visit hvisit
    exact sound.located visit (List.mem_cons_of_mem top hvisit)
  · exact hperm.nodup_iff.2 sound.once
  · intro place number hmem
    exact List.mem_cons_of_mem _ (sound.parents place number (hperm.mem_iff.1 hmem))

/-- No child of a node on the stack has been visited or is on the stack. -/
theorem IsSound.child_not_mem (sound : IsSound nodes resource visited (top :: rest))
    (number : Nat) :
    top.place.child number ∉ visited ++ (top :: rest).map Located.place := by
  intro hmem
  have hvisited := sound.parents top.place number hmem
  exact List.disjoint_of_nodup_append sound.once hvisited (List.mem_map_of_mem List.mem_cons_self)

theorem IsSound.expand (sound : IsSound nodes resource visited (top :: rest))
    (hinside : top.pending.index + 1 < resource.length) :
    IsSound nodes resource (top.place :: visited) (top.below ++ rest) := by
  obtain ⟨htop, hindex, -⟩ := sound.located top List.mem_cons_self
  have hdropped := sound.drop
  -- The places below the top are added in the middle of the others.
  have hperm : (top.place :: visited ++ (top.below ++ rest).map Located.place).Perm
      (top.below.map Located.place ++ (top.place :: visited ++ rest.map Located.place)) := by
    rw [List.map_append]
    exact List.perm_append_comm_assoc _ _ _
  refine ⟨?_, ?_, ?_⟩
  · intro visit hvisit
    rcases List.mem_append.1 hvisit with hbelow | hrest
    · obtain ⟨number, node, hnode, rfl⟩ := mem_locate_iff.1 hbelow
      exact ⟨.child htop hnode, by rw [Place.depth_child, hindex], hinside⟩
    · exact hdropped.located visit hrest
  · rw [hperm.nodup_iff, List.nodup_append']
    refine ⟨nodup_map_place_locate (fun number other heq => ?_) _ _, hdropped.once, ?_⟩
    · exact (Place.child_inj.1 heq).2
    · intro place hbelow hother
      obtain ⟨number, rfl⟩ := mem_map_place_locate hbelow
      exact sound.child_not_mem number ((perm_visited visited top rest).mem_iff.1 hother)
  · intro place number hmem
    rcases List.mem_append.1 (hperm.mem_iff.1 hmem) with hbelow | hother
    · obtain ⟨other, heq⟩ := mem_map_place_locate hbelow
      rw [(Place.child_inj.1 heq).1]
      exact List.mem_cons_self
    · exact hdropped.parents place number hother

theorem IsSound.iterates (sound : IsSound nodes resource visited (top :: rest))
    (h : Iterates environment resource (top :: rest) next) :
    IsSound nodes resource (top.place :: visited) next := by
  rcases h.cases sound.inside with rfl | ⟨hinside, rfl⟩
  · exact sound.drop
  · exact sound.expand hinside

theorem Visits.isSound (run : Visits nodes resource environment visited stack) :
    IsSound nodes resource visited stack := by
  induction run with
  | start h => exact isSound_start h
  | next before h ih => exact ih.iterates h

/-- A run follows the search as far as it goes. -/
theorem Visits.exists_next (run : Visits nodes resource environment visited (top :: rest))
    (h : step environment resource ((top :: rest).map Located.pending) = .searching pendings) :
    ∃ next, next.map Located.pending = pendings ∧
      Visits nodes resource environment (top.place :: visited) next := by
  obtain ⟨next, hnext, hiterates⟩ := exists_iterates run.isSound.inside h
  exact ⟨next, hnext, run.next hiterates⟩

/-! ## How many there are -/

/-- The number of nodes of the trees on a stack that are not deeper than a number of segments. -/
def pendingAbove (segments : Nat) : List Located → Nat
  | [] => 0
  | visit :: rest =>
      visit.pending.node.sizeAbove (segments - visit.pending.index) + pendingAbove segments rest

theorem pendingAbove_append (segments : Nat) (first second : List Located) :
    pendingAbove segments (first ++ second) =
      pendingAbove segments first + pendingAbove segments second := by
  induction first with
  | nil => simp [pendingAbove]
  | cons visit first ih => simp only [List.cons_append, pendingAbove, ih]; omega

theorem pendingAbove_locate (segments : Nat) (placeOf : Nat → Place) (nodes : List Node)
    (index : Nat) :
    pendingAbove segments (locate placeOf nodes index) =
      Node.sizesAbove nodes (segments - index) := by
  induction nodes generalizing placeOf with
  | nil => simp [locate, pendingAbove, Node.sizesAbove]
  | cons node later ih =>
      have hcons : locate placeOf (node :: later) index =
          locate (fun number => placeOf (number + 1)) later index ++
            [⟨placeOf 0, node, index⟩] := by
        simp [locate, List.mapIdx_cons]
      rw [hcons, pendingAbove_append, ih]
      simp only [pendingAbove, Node.sizesAbove]
      omega

/-- The top of a stack counts for itself, and with the children that would take its place. -/
theorem pendingAbove_cons {segments : Nat} (inside : top.pending.index < segments)
    (rest : List Located) :
    pendingAbove segments (top :: rest) =
      pendingAbove segments top.below + pendingAbove segments rest + 1 := by
  obtain ⟨bound, hbound⟩ : ∃ bound, segments - top.pending.index = bound + 1 :=
    ⟨segments - top.pending.index - 1, by omega⟩
  have hbelow : segments - (top.pending.index + 1) = bound := by omega
  rw [pendingAbove, hbound, Node.sizeAbove_succ, Located.below, pendingAbove_locate, hbelow]
  omega

/-- Each iteration takes one of the nodes that may still be visited away. -/
theorem Iterates.pendingAbove_lt (inside : top.pending.index < resource.length)
    (h : Iterates environment resource (top :: rest) next) :
    pendingAbove resource.length next < pendingAbove resource.length (top :: rest) := by
  rw [pendingAbove_cons inside]
  rcases h.cases inside with rfl | ⟨-, rfl⟩
  · omega
  · rw [pendingAbove_append]
    omega

/-- What has been visited and what may still be are together no more than the nodes of the
forest that are less deep than the resource is long. -/
theorem Visits.length_add_le (run : Visits nodes resource environment visited stack) :
    visited.length + pendingAbove resource.length stack ≤
      Node.sizesAbove nodes resource.length := by
  induction run with
  | start h => rw [pendingAbove_locate]; simp
  | next before h ih =>
      have hfewer := h.pendingAbove_lt before.isSound.inside
      rw [List.length_cons]
      omega

/-- A node on the stack may still be visited. -/
theorem Visits.length_lt (run : Visits nodes resource environment visited (top :: rest)) :
    visited.length < Node.sizesAbove nodes resource.length := by
  have hle := run.length_add_le
  rw [pendingAbove_cons run.isSound.inside] at hle
  omega

theorem Ends.le {iterations : Nat} {answer : Except UnknownKind Bool}
    (h : Ends nodes resource environment iterations answer) :
    iterations ≤ Node.sizesAbove nodes resource.length := by
  cases h with
  | unopened h => exact Nat.zero_le _
  | exhausted run => exact Nat.le_of_add_right_le run.length_add_le
  | answered run h => exact run.length_lt
  | stuck run h => exact run.length_lt

/-! ## Answers -/

theorem Visits.areInside (run : Visits nodes resource environment visited stack) :
    AreInside resource (stack.map Located.pending) := by
  intro pending hpending
  obtain ⟨visit, hvisit, rfl⟩ := List.mem_map.1 hpending
  exact (run.isSound.located visit hvisit).2.2

theorem Visits.agrees (run : Visits nodes resource environment visited stack)
    {progress : Progress}
    (h : step environment resource (stack.map Located.pending) = progress) :
    Agrees environment resource (stack.map Located.pending) progress :=
  h ▸ step_agrees run.areInside

/-- No step of a search looks for a segment that is not there. -/
theorem Visits.step_ne_outside (run : Visits nodes resource environment visited stack) :
    step environment resource (stack.map Located.pending) ≠ .outside :=
  run.agrees

/-- Every stack of a run has the meaning of the first one. -/
theorem Visits.evaluateStack_eq (run : Visits nodes resource environment visited stack) :
    evaluateStack environment resource (stack.map Located.pending) =
      grantedBy nodes resource environment := by
  induction run with
  | start h =>
      have hstart := map_pending_locate_append (fun number => ⟨number, []⟩) nodes 0 []
      rw [List.append_nil, List.map_nil] at hstart
      rw [hstart, evaluateStack_push, grantedBy_eq_evaluateLast]
      exact orElseAsk_last _
  | @next visited top rest stack before h ih =>
      have hstep : step environment resource ((top :: rest).map Located.pending) =
          .searching (stack.map Located.pending) := by
        cases h <;> assumption
      rw [← (before.agrees hstep).1, ih]

/-- However a search ends, its answer is the one that is given. -/
theorem Ends.answer_eq {iterations : Nat} {answer : Except UnknownKind Bool}
    (h : Ends nodes resource environment iterations answer) :
    answer = grantedBy nodes resource environment := by
  cases h with
  | unopened h => simp [grantedBy, h]
  | exhausted run => exact run.evaluateStack_eq
  | answered run h =>
      rw [← run.evaluateStack_eq]
      exact (run.agrees h).symm
  | stuck run h =>
      rw [← run.evaluateStack_eq]
      exact (run.agrees h).symm

/-- A run comes to an end. -/
theorem Visits.exists_ends (run : Visits nodes resource environment visited stack) :
    ∃ iterations answer, Ends nodes resource environment iterations answer := by
  -- There are fewer and fewer places left to visit.
  induction hleft : Node.sizesAbove nodes resource.length - visited.length using Nat.strongRecOn
    generalizing visited stack with
  | _ left ih =>
      cases stack with
      | nil => exact ⟨_, _, .exhausted run⟩
      | cons top rest =>
          cases hstep : step environment resource ((top :: rest).map Located.pending) with
          | answered granted => exact ⟨_, _, .answered run hstep⟩
          | stuck kind => exact ⟨_, _, .stuck run hstep⟩
          | outside => exact absurd hstep run.step_ne_outside
          | searching pendings =>
              obtain ⟨next, -, hnext⟩ := run.exists_next hstep
              have hlt := run.length_lt
              exact ih _ (by rw [List.length_cons]; omega) hnext rfl

theorem exists_ends (nodes : List Node) (resource : List String) (environment : Environment) :
    ∃ iterations, Ends nodes resource environment iterations
      (grantedBy nodes resource environment) := by
  by_cases hresource : resource = []
  · have hends : Ends nodes resource environment 0 (.ok false) := .unopened hresource
    exact ⟨0, hends.answer_eq ▸ hends⟩
  · have hstart : Visits nodes resource environment []
        (locate (fun number => ⟨number, []⟩) nodes 0) := .start hresource
    obtain ⟨iterations, answer, hends⟩ := hstart.exists_ends
    exact ⟨iterations, hends.answer_eq ▸ hends⟩

/-- The search with its fuel comes to the answer that is given. -/
theorem answer?_search_eq (nodes : List Node) (environment : Environment) (h : resource ≠ []) :
    (search environment resource (Node.sizes nodes + 1) (push nodes 0 [])).answer? =
      some (grantedBy nodes resource environment) := by
  rw [answer?_search_push nodes environment h, grantedBy_eq_evaluateLast]

/-- On every stack of a search each node is to match the segment of its depth, which is a segment
of the resource, so no step finds an index that is that of no segment; and no place is visited
twice. The runs with places leave no step of the search out. The search ends, with the answer that
is given, after at most as many iterations as there are nodes in the forest that are less deep than
the resource is long, and its fuel is enough for that. -/
theorem search_visits_once_and_ends (nodes : List Node) (resource : List String)
    (environment : Environment) :
    (∀ visited stack, Visits nodes resource environment visited stack →
      (∀ visit ∈ stack, IsAt nodes visit.place visit.pending.node ∧
        visit.pending.index = visit.place.depth ∧ visit.pending.index < resource.length) ∧
      step environment resource (stack.map Located.pending) ≠ .outside ∧
      (visited ++ stack.map Located.place).Nodup) ∧
    (∀ visited top rest pendings, Visits nodes resource environment visited (top :: rest) →
      step environment resource ((top :: rest).map Located.pending) = .searching pendings →
        ∃ next, next.map Located.pending = pendings ∧
          Visits nodes resource environment (top.place :: visited) next) ∧
    (∃ iterations, Ends nodes resource environment iterations
      (grantedBy nodes resource environment)) ∧
    (∀ iterations answer, Ends nodes resource environment iterations answer →
      iterations ≤ Node.sizesAbove nodes resource.length ∧
        answer = grantedBy nodes resource environment) ∧
    (resource ≠ [] →
      (search environment resource (Node.sizes nodes + 1) (push nodes 0 [])).answer? =
        some (grantedBy nodes resource environment)) := by
  refine ⟨?_, ?_, exists_ends nodes resource environment, ?_, answer?_search_eq nodes environment⟩
  · intro visited stack run
    exact ⟨run.isSound.located, run.step_ne_outside, run.isSound.once⟩
  · intro visited top rest pendings run h
    exact run.exists_next h
  · intro iterations answer h
    exact ⟨h.le, h.answer_eq⟩

/-- Of two children the last one is visited next, and grants; the node below it is deeper than
the resource is long and does not count. -/
theorem search_visits_last_child_first :
    let nodes : List Node := [⟨.universal, .unset, [⟨.literal "b", .deny, []⟩,
      ⟨.literal "b", .allow, [⟨.universal, .allow, []⟩]⟩]⟩]
    (∃ last first : Located, Visits nodes ["a", "b"] .empty [⟨0, []⟩] [last, first] ∧
      last.pending.index = 1 ∧ [⟨0, []⟩, last.place, first.place].Nodup) ∧
      ∃ iterations ≤ 3, Ends nodes ["a", "b"] .empty iterations (.ok true) := by
  intro nodes
  have hbegun : Visits nodes ["a", "b"] .empty [] (locate (fun number => ⟨number, []⟩) nodes 0) :=
    .start (by simp)
  have hrun := hbegun.next (.expanded rfl)
  have hend := Ends.answered hrun rfl
  obtain ⟨hkept, -, -, hends, -⟩ := search_visits_once_and_ends nodes ["a", "b"] .empty
  obtain ⟨hplaces, -, honce⟩ := hkept _ _ hrun
  refine ⟨⟨_, _, hrun, ?_, honce⟩, _, (hends _ _ hend).1, hend⟩
  exact (hplaces _ List.mem_cons_self).2.1

end Search

end RoleAccess

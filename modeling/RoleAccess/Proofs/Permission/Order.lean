import RoleAccess.Proofs.Permission.Construction

/-!
# Rules in the order of the search

A forest made of rules answers as if its rules were asked one after another, role by
role, the later rules of a role before the earlier ones (`searched`), up to the first
answer other than no (`askEach`, `Forest.Holds.evaluate_eq`).

Each rule answers for itself (`PermissionRule.answer`). The answer is yes if the rule
allows and its patterns cover the resource (`PermissionRule.answer_eq_ok_true_iff`), and
there is none if the patterns get stuck on the resource: all segments match up to one
whose pattern has a kind without a rule for matching
(`PermissionRule.answer_eq_error_iff`).
-/

namespace RoleAccess

variable {rules : List PermissionRule} {rule : PermissionRule} {forest : Forest}
  {environment : Environment} {role segment : String} {resource segments : List String}
  {pattern : SegmentPattern} {patterns rest : List SegmentPattern} {decision : Decision}
  {kind : UnknownKind}

/-! ## Asking one by one -/

variable {first : Except UnknownKind Bool} {second : Unit → Except UnknownKind Bool}

/-- After an answer other than no, there is no second question. -/
theorem orElseAsk_of_ne (h : first ≠ .ok false) : orElseAsk first second = first := by
  cases first with
  | error kind => rfl
  | ok granted =>
      cases granted with
      | true => rfl
      | false => exact absurd rfl h

theorem orElseAsk_eq_ok_false_iff :
    orElseAsk first second = .ok false ↔ first = .ok false ∧ second () = .ok false := by
  cases first with
  | error kind => simp
  | ok granted => cases granted <;> simp

section askEach

variable {α : Type} {ask : α → Except UnknownKind Bool} {elements others : List α}

/-- Asks elements in their order, up to the first answer other than no. -/
def askEach (ask : α → Except UnknownKind Bool) : List α → Except UnknownKind Bool
  | [] => .ok false
  | element :: later => orElseAsk (ask element) fun _ => askEach ask later

@[simp] theorem askEach_nil : askEach ask [] = .ok false := rfl

theorem askEach_cons {element : α} {later : List α} :
    askEach ask (element :: later) = orElseAsk (ask element) fun _ => askEach ask later := rfl

theorem askEach_singleton (element : α) : askEach ask [element] = ask element :=
  orElseAsk_last (ask element)

theorem askEach_append :
    askEach ask (elements ++ others) =
      orElseAsk (askEach ask elements) fun _ => askEach ask others := by
  induction elements with
  | nil => rfl
  | cons element later ih =>
      rw [List.cons_append, askEach_cons, askEach_cons, ih, orElseAsk_assoc]

theorem askEach_eq_ok_false_iff :
    askEach ask elements = .ok false ↔ ∀ element ∈ elements, ask element = .ok false := by
  induction elements with
  | nil => simp
  | cons element later ih =>
      rw [askEach_cons, orElseAsk_eq_ok_false_iff, ih, List.forall_mem_cons]

/-- An answer other than no is that of the first element that has one. -/
theorem askEach_eq_iff {answer : Except UnknownKind Bool} (hanswer : answer ≠ .ok false) :
    askEach ask elements = answer ↔
      ∃ before element after, elements = before ++ element :: after ∧
        (∀ other ∈ before, ask other = .ok false) ∧ ask element = answer := by
  constructor
  · intro h
    induction elements with
    | nil => exact absurd h.symm hanswer
    | cons element later ih =>
        by_cases hno : ask element = .ok false
        · rw [askEach_cons, hno, orElseAsk_false] at h
          obtain ⟨before, found, after, rfl, hbefore, hfound⟩ := ih h
          have hall : ∀ other ∈ element :: before, ask other = .ok false :=
            List.forall_mem_cons.2 ⟨hno, hbefore⟩
          exact ⟨element :: before, found, after, rfl, hall, hfound⟩
        · -- The first element has the answer.
          rw [askEach_cons, orElseAsk_of_ne hno] at h
          exact ⟨[], element, later, rfl, by simp, h⟩
  · rintro ⟨before, element, after, rfl, hbefore, rfl⟩
    rw [askEach_append, askEach_eq_ok_false_iff.2 hbefore, orElseAsk_false, askEach_cons,
      orElseAsk_of_ne hanswer]

theorem exists_mem_of_askEach_eq_ok_true (h : askEach ask elements = .ok true) :
    ∃ element ∈ elements, ask element = .ok true := by
  obtain ⟨before, element, after, rfl, -, hyes⟩ := (askEach_eq_iff (by simp)).1 h
  exact ⟨element, by simp, hyes⟩

end askEach

/-! ## Getting stuck -/

theorem SegmentPattern.accepts_eq_error_iff :
    pattern.accepts environment segment = .error kind ↔ pattern.kind = .other kind.name := by
  obtain ⟨held, name⟩ := pattern
  obtain ⟨missing⟩ := kind
  cases held <;> simp [accepts]

/-- Patterns get stuck on segments: the segments before some place match, and the pattern
at that place, where there is a segment too, has a kind without a rule for matching. -/
inductive GetsStuck (environment : Environment) :
    List SegmentPattern → List String → UnknownKind → Prop where
  | here {pattern : SegmentPattern} {patterns : List SegmentPattern} {segment : String}
      {segments : List String} {kind : UnknownKind} (h : pattern.kind = .other kind.name) :
      GetsStuck environment (pattern :: patterns) (segment :: segments) kind
  | later {pattern : SegmentPattern} {patterns : List SegmentPattern} {segment : String}
      {segments : List String} {kind : UnknownKind} (h : pattern.Matches environment segment)
      (below : GetsStuck environment patterns segments kind) :
      GetsStuck environment (pattern :: patterns) (segment :: segments) kind

theorem not_getsStuck_nil : ¬GetsStuck environment patterns [] kind := by
  intro h
  cases h

theorem getsStuck_cons_iff :
    GetsStuck environment (pattern :: patterns) (segment :: segments) kind ↔
      pattern.accepts environment segment = .error kind ∨
        pattern.accepts environment segment = .ok true ∧
          GetsStuck environment patterns segments kind := by
  rw [SegmentPattern.accepts_eq_error_iff, SegmentPattern.accepts_eq_ok_true_iff]
  constructor
  · intro h
    cases h with
    | here h => exact .inl h
    | later h below => exact .inr ⟨h, below⟩
  · rintro (h | ⟨h, below⟩)
    · exact .here h
    · exact .later h below

/-! ## The answer of one rule -/

namespace Node

/-- A chain of one node answers for one segment. -/
theorem evaluate_chain_nil :
    (chain decision pattern []).evaluate environment (segment :: segments) =
      match pattern.accepts environment segment with
      | .ok true => .ok (segments.isEmpty && decision = .allow)
      | answer => answer := by
  simp only [evaluate_cons, chain]
  cases haccepts : pattern.accepts environment segment with
  | error kind => rfl
  | ok matching =>
      cases matching with
      | false => rfl
      | true => cases segments <;> simp

/-- A longer chain leaves the segments after the first one to the chain below. -/
theorem evaluate_chain_cons {following : SegmentPattern} :
    (chain decision pattern (following :: rest)).evaluate environment (segment :: segments) =
      match pattern.accepts environment segment with
      | .ok true => (chain decision following rest).evaluate environment segments
      | answer => answer := by
  simp only [evaluate_cons, chain]
  cases haccepts : pattern.accepts environment segment with
  | error kind => rfl
  | ok matching =>
      cases matching with
      | false => rfl
      | true => cases segments <;> simp [evaluateLast_cons]

theorem evaluate_chain_eq_error_iff :
    (chain decision pattern rest).evaluate environment resource = .error kind ↔
      GetsStuck environment (pattern :: rest) resource kind := by
  induction rest generalizing pattern resource with
  | nil =>
      cases resource with
      | nil => simp [not_getsStuck_nil]
      | cons segment segments =>
          rw [evaluate_chain_nil, getsStuck_cons_iff]
          have hbelow : ¬GetsStuck environment [] segments kind := by
            intro h
            cases h
          cases haccepts : pattern.accepts environment segment with
          | error kind => simp
          | ok matching => cases matching <;> simp [hbelow]
  | cons following rest ih =>
      cases resource with
      | nil => simp [not_getsStuck_nil]
      | cons segment segments =>
          rw [evaluate_chain_cons, getsStuck_cons_iff]
          cases haccepts : pattern.accepts environment segment with
          | error kind => simp
          | ok matching => cases matching <;> simp [ih]

theorem evaluate_chain_eq_ok_true_iff :
    (chain decision pattern rest).evaluate environment resource = .ok true ↔
      decision = .allow ∧ Covers environment (pattern :: rest) resource := by
  induction rest generalizing pattern resource with
  | nil =>
      cases resource with
      | nil => simp [Covers]
      | cons segment segments =>
          rw [evaluate_chain_nil]
          simp only [Covers, ← SegmentPattern.accepts_eq_ok_true_iff]
          cases haccepts : pattern.accepts environment segment with
          | error kind => simp
          | ok matching => cases matching <;> cases segments <;> simp [Covers]
  | cons following rest ih =>
      cases resource with
      | nil => simp [Covers]
      | cons segment segments =>
          rw [evaluate_chain_cons, Covers, ← SegmentPattern.accepts_eq_ok_true_iff]
          cases haccepts : pattern.accepts environment segment with
          | error kind => simp
          | ok matching => cases matching <;> simp [ih]

end Node

namespace PermissionRule

/-- What the search along the nodes of a rule answers. -/
def answer (environment : Environment) (resource : List String) (rule : PermissionRule) :
    Except UnknownKind Bool :=
  match rule.node? with
  | none => .ok false
  | some node => node.evaluate environment resource

theorem answer_eq_error_iff :
    rule.answer environment resource = .error kind ↔
      GetsStuck environment rule.resource resource kind := by
  obtain ⟨effect, role, patterns⟩ := rule
  cases patterns with
  | nil =>
      constructor
      · intro h
        cases h
      · intro h
        cases h
  | cons pattern rest => exact Node.evaluate_chain_eq_error_iff

theorem answer_eq_ok_true_iff (nonempty : rule.resource ≠ []) :
    rule.answer environment resource = .ok true ↔
      rule.effect = .allow ∧ Covers environment rule.resource resource := by
  obtain ⟨effect, role, patterns⟩ := rule
  cases patterns with
  | nil => exact absurd rfl nonempty
  | cons pattern rest =>
      refine Node.evaluate_chain_eq_ok_true_iff.trans ?_
      cases effect <;> simp [Decision.ofEffect]

theorem answer_eq_ok_false_iff (nonempty : rule.resource ≠ []) :
    rule.answer environment resource = .ok false ↔
      ¬(rule.effect = .allow ∧ Covers environment rule.resource resource) ∧
        ∀ kind, ¬GetsStuck environment rule.resource resource kind := by
  rw [← answer_eq_ok_true_iff nonempty]
  simp only [← answer_eq_error_iff]
  cases rule.answer environment resource with
  | error kind => simp
  | ok granted => cases granted <;> simp

end PermissionRule

/-! ## The answer of a forest -/

/-- The rules of several roles in the order in which a search tries them: role by role,
the later rules of a role first. -/
def searched (rules : List PermissionRule) (roles : List String) : List PermissionRule :=
  roles.flatMap fun role => (rules.filter fun rule => rule.role = role).reverse

theorem searched_cons (roles : List String) :
    searched rules (role :: roles) =
      (rules.filter fun rule => rule.role = role).reverse ++ searched rules roles :=
  List.flatMap_cons

theorem mem_searched_iff {roles : List String} :
    rule ∈ searched rules roles ↔ rule ∈ rules ∧ rule.role ∈ roles := by
  simp only [searched, List.mem_flatMap, List.mem_reverse, List.mem_filter, decide_eq_true_eq]
  constructor
  · rintro ⟨role, hrole, hrule, rfl⟩
    exact ⟨hrule, hrole⟩
  · rintro ⟨hrule, hrole⟩
    exact ⟨rule.role, hrole, hrule, rfl⟩

/-- Siblings made of rules are asked from the last rule to the first. -/
theorem Node.evaluateLast_filterMap_node? (rules : List PermissionRule) :
    Node.evaluateLast environment (rules.filterMap PermissionRule.node?) resource =
      askEach (PermissionRule.answer environment resource) rules.reverse := by
  induction rules with
  | nil => simp
  | cons rule later ih =>
      rw [List.reverse_cons, askEach_append, ← ih, askEach_singleton]
      cases hnode : rule.node? with
      | none =>
          have hanswer : rule.answer environment resource = .ok false := by
            simp only [PermissionRule.answer, hnode]
          rw [List.filterMap_cons_none hnode, hanswer, orElseAsk_last]
      | some node =>
          have hanswer : rule.answer environment resource = node.evaluate environment resource := by
            simp only [PermissionRule.answer, hnode]
          rw [List.filterMap_cons_some hnode, evaluateLast_cons, hanswer]

theorem Forest.evaluate_cons (roles : List String) :
    forest.evaluate environment resource (role :: roles) =
      orElseAsk
        (Node.evaluateLast environment ((forest.rootOf role).getD {}).children resource)
        fun _ => forest.evaluate environment resource roles := by
  rw [Forest.evaluate]
  cases forest.rootOf role with
  | none => simp
  | some root => rfl

/-- A forest asks its rules one after another. -/
theorem Forest.Holds.evaluate_eq (holds : forest.Holds rules) (roles : List String) :
    forest.evaluate environment resource roles =
      askEach (PermissionRule.answer environment resource) (searched rules roles) := by
  induction roles with
  | nil => rfl
  | cons role roles ih =>
      rw [evaluate_cons, ih, holds.rootOf_eq, rootFor_getD, searched_cons, askEach_append,
        ← Node.evaluateLast_filterMap_node?]
      rfl

end RoleAccess

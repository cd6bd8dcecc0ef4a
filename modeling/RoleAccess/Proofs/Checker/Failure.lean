import Mathlib.Algebra.Order.BigOperators.Group.List
import Mathlib.Algebra.Order.Group.Nat
import RoleAccess.Proofs.Checker.Meaning
import RoleAccess.Proofs.Permission.Order

/-!
# Queries that fail

The construction of a checker does not examine the kinds of segments, and a kind without a
rule for matching comes to light only when a query reaches it. A query fails if, in the order
of the search, the first rule that answers other than no gets stuck on the resource
(`Checker.check_eq_error_iff`).

Whether a rule can get stuck at all is read off its patterns (`CanGetStuck`): those before one
of an unknown kind all have a known kind, and the name that it refers to. Then there is an
environment in which every name stands for itself, and the names make up a resource that the
rule gets stuck on (`CanGetStuck.exists_getsStuck`).

Main statement: which queries fail, and that none fails in any environment exactly if no rule
can get stuck (`Checker.check_fails_iff_and_never_fails_iff`).
-/

namespace RoleAccess

variable {environment : Environment} {pattern : SegmentPattern} {patterns : List SegmentPattern}
  {segments : List String} {segment : String} {kind : UnknownKind}

/-! ## Patterns that can match -/

/-- A pattern that can match has a kind with a rule for matching, and a name unless it matches
every segment. -/
structure SegmentPattern.CanMatch (pattern : SegmentPattern) : Prop where
  kind : pattern.kind.IsKnown
  name : pattern.name = none → pattern.kind = .universal

theorem SegmentPattern.Matches.canMatch (h : pattern.Matches environment segment) :
    pattern.CanMatch := by
  cases h with
  | universal => exact ⟨trivial, fun _ => rfl⟩
  | _ => exact ⟨trivial, nofun⟩

namespace Environment

/-- A name stands for itself: it is the value of its variable and a member of its set. -/
structure Fixes (environment : Environment) (name : String) : Prop where
  lookup : environment.lookup name = some name
  contains : environment.contains name name = true

/-- The environment in which one more name stands for itself. -/
def fixing (environment : Environment) (name : String) : Environment :=
  ⟨environment.bindings.put name name, environment.sets.put name [name]⟩

theorem fixes_fixing (environment : Environment) (name : String) :
    (environment.fixing name).Fixes name := by
  constructor
  · simp [fixing, Environment.lookup, Table.get?_put]
  · simp [fixing, Environment.contains, Table.get?_put]

theorem Fixes.fixing {name other : String} (h : environment.Fixes name) (hne : name ≠ other) :
    (environment.fixing other).Fixes name := by
  obtain ⟨hlookup, hcontains⟩ := h
  constructor
  · simpa [Environment.fixing, Environment.lookup, Table.get?_put, hne] using hlookup
  · simpa [Environment.fixing, Environment.contains, Table.get?_put, hne] using hcontains

/-- Any number of names stand for themselves in some environment. -/
theorem exists_fixes (names : List String) :
    ∃ environment : Environment, ∀ name ∈ names, environment.Fixes name := by
  induction names with
  | nil => exact ⟨.empty, by simp⟩
  | cons first rest ih =>
      obtain ⟨environment, hrest⟩ := ih
      refine ⟨environment.fixing first, fun name hname => ?_⟩
      by_cases heq : name = first
      · subst heq
        exact fixes_fixing environment name
      · have hmem : name ∈ rest := (List.mem_cons.1 hname).resolve_left heq
        exact (hrest name hmem).fixing heq

end Environment

/-- A pattern that can match does match its own name where the name stands for itself. -/
theorem SegmentPattern.CanMatch.matches (h : pattern.CanMatch)
    (fixes : ∀ name, pattern.name = some name → environment.Fixes name) :
    pattern.Matches environment (pattern.name.getD "") := by
  obtain ⟨held, written⟩ := pattern
  obtain ⟨hknown, hname⟩ := h
  cases written with
  | none =>
      obtain rfl : held = .universal := hname rfl
      exact .universal
  | some name =>
      have hfixes := fixes name rfl
      cases held with
      | literal => exact .literal
      | bound => exact .bound hfixes.lookup
      | member => exact .member hfixes.contains
      | universal => exact .universal
      | other missing => exact hknown.elim

/-! ## Patterns that can get stuck -/

/-- The first of several rules that answers other than no gets stuck. -/
def FirstStuck (environment : Environment) (rules : List PermissionRule) (resource : List String)
    (kind : UnknownKind) : Prop :=
  ∃ before rule after, rules = before ++ rule :: after ∧
    (∀ other ∈ before, ¬(other.effect = .allow ∧ Covers environment other.resource resource) ∧
      ∀ kind, ¬GetsStuck environment other.resource resource kind) ∧
    GetsStuck environment rule.resource resource kind

theorem FirstStuck.exists_mem {rules : List PermissionRule}
    (h : FirstStuck environment rules segments kind) :
    ∃ rule ∈ rules, GetsStuck environment rule.resource segments kind := by
  obtain ⟨before, rule, after, rfl, -, hstuck⟩ := h
  exact ⟨rule, by simp, hstuck⟩

/-- Patterns can get stuck: all patterns before one of an unknown kind can match. -/
inductive CanGetStuck : List SegmentPattern → Prop where
  | here {pattern : SegmentPattern} {patterns : List SegmentPattern}
      (h : ¬pattern.kind.IsKnown) : CanGetStuck (pattern :: patterns)
  | later {pattern : SegmentPattern} {patterns : List SegmentPattern} (h : pattern.CanMatch)
      (below : CanGetStuck patterns) : CanGetStuck (pattern :: patterns)

theorem SegmentKind.not_isKnown_iff {held : SegmentKind} :
    ¬held.IsKnown ↔ ∃ missing, held = .other missing := by
  cases held <;> simp [IsKnown]

theorem GetsStuck.canGetStuck (h : GetsStuck environment patterns segments kind) :
    CanGetStuck patterns := by
  induction h with
  | here hkind => exact .here (SegmentKind.not_isKnown_iff.2 ⟨_, hkind⟩)
  | later hmatches _ ih => exact .later hmatches.canMatch ih

/-- The names in the patterns make up a resource that they get stuck on, whatever comes after
it. -/
theorem CanGetStuck.exists_getsStuck_append (h : CanGetStuck patterns)
    (fixes : ∀ pattern ∈ patterns, ∀ name, pattern.name = some name → environment.Fixes name)
    (after : List String) :
    ∃ kind, GetsStuck environment patterns
      ((patterns.map fun pattern => pattern.name.getD "") ++ after) kind := by
  induction h with
  | @here pattern patterns hunknown =>
      obtain ⟨missing, hkind⟩ := SegmentKind.not_isKnown_iff.1 hunknown
      exact ⟨⟨missing⟩, .here hkind⟩
  | later hcan _ ih =>
      rw [List.forall_mem_cons] at fixes
      obtain ⟨kind, hbelow⟩ := ih fixes.2
      exact ⟨kind, .later (hcan.matches fixes.1) hbelow⟩

/-- Some environment lets patterns that can get stuck do so on a resource of any greater
length. -/
theorem CanGetStuck.exists_getsStuck (h : CanGetStuck patterns) (bound : Nat) :
    ∃ environment segments kind, bound < segments.length ∧
      GetsStuck environment patterns segments kind := by
  obtain ⟨environment, hfixes⟩ :=
    Environment.exists_fixes (patterns.filterMap SegmentPattern.name)
  have hnames : ∀ pattern ∈ patterns, ∀ name, pattern.name = some name →
      environment.Fixes name := fun pattern hpattern name hname =>
    hfixes name (List.mem_filterMap.2 ⟨pattern, hpattern, hname⟩)
  obtain ⟨kind, hstuck⟩ := h.exists_getsStuck_append hnames (List.replicate (bound + 1) "")
  refine ⟨environment, _, kind, ?_, hstuck⟩
  rw [List.length_append, List.length_replicate]
  omega

namespace Checker

variable {roleRules : List RoleRule} {permissionRules : List PermissionRule} {checker : Checker}
  {role : String} {resource : List String}

/-- A checker asks the rules of a role and its ancestors one after another. -/
theorem check_eq_askEach (built : ofRules roleRules permissionRules = .ok checker) :
    (checker.withEnvironment environment).check role resource =
      askEach (PermissionRule.answer environment resource)
        (searched permissionRules (checker.hierarchy.ancestors role)) := by
  have holds := Forest.holds_of_ofRules_eq_ok (ofRules_eq_ok_iff.1 built).2.1
  show checker.forest.grants (checker.hierarchy.ancestors role) resource environment = _
  rw [Forest.grants_eq_evaluate, holds.evaluate_eq]

/-- A query fails if the first rule with an answer other than no gets stuck on the resource. -/
theorem check_eq_error_iff (built : ofRules roleRules permissionRules = .ok checker) :
    (checker.withEnvironment environment).check role resource = .error kind ↔
      FirstStuck environment (searched permissionRules (checker.hierarchy.ancestors role))
        resource kind := by
  have holds := Forest.holds_of_ofRules_eq_ok (ofRules_eq_ok_iff.1 built).2.1
  rw [check_eq_askEach built, askEach_eq_iff (by simp)]
  refine exists_congr fun before => exists_congr fun rule => exists_congr fun after =>
    and_congr_right fun heq => and_congr ?_ PermissionRule.answer_eq_error_iff
  refine forall₂_congr fun other hother => PermissionRule.answer_eq_ok_false_iff ?_
  have hmem : other ∈ searched permissionRules (checker.hierarchy.ancestors role) := by
    rw [heq]
    exact List.mem_append_left _ hother
  exact holds.nonempty other (mem_searched_iff.1 hmem).1

/-- If a rule can get stuck, some query of its role fails. -/
theorem exists_check_eq_error (built : ofRules roleRules permissionRules = .ok checker)
    {rule : PermissionRule} (hrule : rule ∈ permissionRules) (hstuck : CanGetStuck rule.resource) :
    ∃ environment resource kind,
      (checker.withEnvironment environment).check rule.role resource = .error kind := by
  have holds := Forest.holds_of_ofRules_eq_ok (ofRules_eq_ok_iff.1 built).2.1
  obtain ⟨environment, resource, kind, hlength, hgets⟩ := hstuck.exists_getsStuck
    (permissionRules.map fun rule => rule.resource.length).sum
  refine ⟨environment, resource, ?_⟩
  have hancestor : rule.role ∈ checker.hierarchy.ancestors rule.role := by
    obtain ⟨above, hchain, -⟩ := checker.hierarchy.exists_ancestors_eq rule.role
    rw [hchain]
    exact List.mem_cons_self
  have hsearched := mem_searched_iff.2 ⟨hrule, hancestor⟩
  cases hcheck : (checker.withEnvironment environment).check rule.role resource with
  | error kind => exact ⟨kind, rfl⟩
  | ok verdict =>
      rw [check_eq_askEach built] at hcheck
      cases verdict with
      | false =>
          -- Every rule has been asked, this one too.
          have hanswer := askEach_eq_ok_false_iff.1 hcheck rule hsearched
          rw [PermissionRule.answer_eq_error_iff.2 hgets] at hanswer
          cases hanswer
      | true =>
          -- The resource is longer than the patterns of every rule.
          obtain ⟨other, hsearched, hyes⟩ := exists_mem_of_askEach_eq_ok_true hcheck
          have hother := (mem_searched_iff.1 hsearched).1
          have hcovers := ((PermissionRule.answer_eq_ok_true_iff
            (holds.nonempty other hother)).1 hyes).2
          have hbound : other.resource.length ≤
              (permissionRules.map fun rule => rule.resource.length).sum :=
            List.le_sum_of_mem (List.mem_map.2 ⟨other, hother, rfl⟩)
          have hequal := hcovers.length_eq
          omega

/-- A query fails exactly if, in the order of the search, the first rule that answers other
than no gets stuck on the resource. No query of a checker fails, whatever the environment,
exactly if none of its rules can get stuck. -/
theorem check_fails_iff_and_never_fails_iff
    (built : ofRules roleRules permissionRules = .ok checker) :
    (∀ environment role resource kind,
      (checker.withEnvironment environment).check role resource = .error kind ↔
        FirstStuck environment (searched permissionRules (checker.hierarchy.ancestors role))
          resource kind) ∧
      ((∀ environment role resource, ∃ verdict,
          (checker.withEnvironment environment).check role resource = .ok verdict) ↔
        ∀ rule ∈ permissionRules, ¬CanGetStuck rule.resource) := by
  refine ⟨fun environment role resource kind => check_eq_error_iff built, ?_, ?_⟩
  · intro hanswers rule hrule hstuck
    obtain ⟨environment, resource, kind, hfails⟩ := exists_check_eq_error built hrule hstuck
    obtain ⟨verdict, hverdict⟩ := hanswers environment rule.role resource
    rw [hfails] at hverdict
    cases hverdict
  · intro hnever environment role resource
    cases hcheck : (checker.withEnvironment environment).check role resource with
    | ok verdict => exact ⟨verdict, rfl⟩
    | error kind =>
        obtain ⟨rule, hrule, hstuck⟩ := ((check_eq_error_iff built).1 hcheck).exists_mem
        exact absurd hstuck.canGetStuck (hnever rule (mem_searched_iff.1 hrule).1)

/-- A pattern without the name that its kind refers to matches nothing, and so hides the
unknown kind after it from every query. -/
theorem check_never_fails_behind_nameless_pattern :
    ∃ checker, ofRules [] [⟨.allow, "ann", [⟨.literal, none⟩, ⟨.other "glob", some "docs"⟩]⟩] =
        .ok checker ∧
      ∀ environment role resource, ∃ verdict,
        (checker.withEnvironment environment).check role resource = .ok verdict := by
  obtain ⟨checker, built⟩ : ∃ checker,
      ofRules [] [⟨.allow, "ann", [⟨.literal, none⟩, ⟨.other "glob", some "docs"⟩]⟩] =
        .ok checker := ⟨_, rfl⟩
  refine ⟨checker, built, (check_fails_iff_and_never_fails_iff built).2.2 ?_⟩
  intro rule hrule hstuck
  obtain rfl := List.mem_singleton.1 hrule
  cases hstuck with
  | here hunknown => exact hunknown trivial
  | later hcan => cases hcan.name rfl

/-- A rule with an unknown kind is accepted, and a query fails on it. -/
theorem check_fails_on_unknown_kind :
    ∃ checker, ofRules [] [⟨.allow, "ann", [⟨.other "glob", some "docs"⟩]⟩] = .ok checker ∧
      (checker.withEnvironment .empty).check "ann" ["docs"] = .error ⟨"glob"⟩ := ⟨_, rfl, rfl⟩

end Checker

end RoleAccess

import Mathlib.Tactic.MkIffOfInductiveProp
import RoleAccess.Proofs.Fold
import RoleAccess.Rule.Admission

/-!
# Which values make a rule

Three values make a rule if the first is an effect, the second a text, and the third a
collection of segments; the rule has the segments in the order in which the collection gives
them. What other values are refused for is one thing (`IsRefused`): the effect before the role,
the role before the resource, and in the resource the first member that is no segment. A report
that shows a value without a text is replaced by that fault (`Reports`).

A resource is meant to be a sequence. Sets and mappings give members as well, in no order of
their own, and they are taken like sequences: `ofValues_decides` says exactly which values are
taken, and `ofValues_accepts_unordered` that those are more than the sequences.
-/

namespace RoleAccess

/-! ## Kinds of values -/

namespace Value

/-- A text, or an effect, which is a text too. -/
inductive IsText : Value → String → Prop where
  | text (value : String) : IsText (.text value) value
  | effect (value : Effect) : IsText (.effect value) value.keyword

/-- A value that is made of characters or bytes. -/
inductive IsTextual : Value → Prop where
  | text (value : String) : IsTextual (.text value)
  | bytes (value : List UInt8) : IsTextual (.bytes value)
  | effect (value : Effect) : IsTextual (.effect value)

/-- A sequence, and its items in their order. -/
inductive IsSequence : Value → List Value → Prop where
  | list (items : List Value) : IsSequence (.list items) items
  | tuple (items : List Value) : IsSequence (.tuple items) items

/-- A collection without an order of its own, and the members that it gives: a mapping gives
its keys. -/
inductive IsUnordered : Value → List Value → Prop where
  | set (members : List Value) : IsUnordered (.set members) members
  | frozenset (members : List Value) : IsUnordered (.frozenset members) members
  | map (entries : List (Value × Value)) : IsUnordered (.map entries) (entries.map Prod.fst)

/-- A value that gives members. -/
def Gives (value : Value) (members : List Value) : Prop :=
  value.IsSequence members ∨ value.IsUnordered members

/-- A value that is a segment. -/
def IsSegment (value : Value) : Prop := ∃ pattern, value = .segment pattern

variable {value : Value} {members : List Value} {name : String}

theorem characters?_eq_some_iff : value.characters? = some name ↔ value.IsText name := by
  constructor
  · intro h
    cases value with
    | text given => exact Option.some.inj h ▸ .text given
    | effect given => exact Option.some.inj h ▸ .effect given
    | _ => cases h
  · intro h
    cases h <;> rfl

theorem members?_eq_some_iff : value.members? = some members ↔ value.Gives members := by
  constructor
  · intro h
    cases value with
    | list items => exact Option.some.inj h ▸ .inl (.list items)
    | tuple items => exact Option.some.inj h ▸ .inl (.tuple items)
    | set given => exact Option.some.inj h ▸ .inr (.set given)
    | frozenset given => exact Option.some.inj h ▸ .inr (.frozenset given)
    | map entries => exact Option.some.inj h ▸ .inr (.map entries)
    | _ => cases h
  · rintro (h | h)
    · cases h <;> rfl
    · cases h <;> rfl

end Value

namespace PermissionRule

/-- What is reported for a fault whose wording shows some values. -/
@[mk_iff] inductive Reports (values : List Value) (fault : RuleFault) : RuleFault → Prop where
  | shown (h : ∀ value ∈ values, value.isWritable) : Reports values fault fault
  | hidden (h : ∃ value ∈ values, ¬value.isWritable) : Reports values fault .unwritable

/-- What is wrong with the members of a resource. -/
def IsBadMembers (role : Value) (members : List Value) (fault : RuleFault) : Prop :=
  ∃ before member after, members = before ++ member :: after ∧
    (∀ other ∈ before, other.IsSegment) ∧ ¬member.IsSegment ∧
      Reports [member] (.badSegment role member) fault

/-- What is wrong with a resource. -/
inductive IsBadResource (role resource : Value) : RuleFault → Prop where
  | text (h : resource.IsTextual) : IsBadResource role resource (.textResource role resource)
  | single (textless : ¬resource.IsTextual) (h : ∀ members, ¬resource.Gives members) :
      IsBadResource role resource (.badResource role resource)
  | members {members : List Value} {fault : RuleFault} (given : resource.Gives members)
      (h : IsBadMembers role members fault) : IsBadResource role resource fault

/-- What is wrong with three values that make no rule. -/
inductive IsRefused (effect role resource : Value) : RuleFault → Prop where
  | effect {fault : RuleFault} (h : ∀ decision, effect ≠ .effect decision)
      (reports : Reports [role, effect] (.badEffect role effect) fault) :
      IsRefused effect role resource fault
  | role {decision : Effect} (allowed : effect = .effect decision)
      (h : ∀ name, ¬role.IsText name) : IsRefused effect role resource (.badRole role)
  | resource {decision : Effect} {name : String} {fault : RuleFault}
      (allowed : effect = .effect decision) (named : role.IsText name)
      (h : IsBadResource role resource fault) : IsRefused effect role resource fault

variable {effect role resource value : Value} {name : String} {members rest : List Value}
  {patterns : List SegmentPattern} {fault shownFault : RuleFault} {rule : PermissionRule}

theorem showing_eq_iff {values : List Value} :
    RuleFault.showing values fault = shownFault ↔ Reports values fault shownFault := by
  rw [reports_iff, ← Value.areWritable_eq_false_iff, ← Value.areWritable_iff]
  unfold RuleFault.showing
  cases Value.areWritable values <;> simp [eq_comm]

/-! ## Members -/

/-- Segments are the values of patterns. -/
theorem exists_map_segment (h : ∀ member ∈ members, member.IsSegment) :
    ∃ patterns : List SegmentPattern, members = patterns.map Value.segment := by
  induction members with
  | nil => exact ⟨[], rfl⟩
  | cons member rest ih =>
      obtain ⟨⟨pattern, rfl⟩, hrest⟩ := List.forall_mem_cons.1 h
      obtain ⟨patterns, rfl⟩ := ih hrest
      exact ⟨pattern :: patterns, rfl⟩

theorem segmentsOf_cons_of_not_isSegment (h : ¬value.IsSegment) :
    segmentsOf role (value :: rest) = .error (.showing [value] (.badSegment role value)) := by
  cases value with
  | segment pattern => exact absurd ⟨pattern, rfl⟩ h
  | _ => rfl

/-- The segments are the members, in their order. -/
theorem segmentsOf_eq_ok_iff :
    segmentsOf role members = .ok patterns ↔ members = patterns.map Value.segment := by
  induction members generalizing patterns with
  | nil =>
      constructor
      · intro h
        cases h
        rfl
      · intro h
        rw [List.map_eq_nil_iff.1 h.symm]
        rfl
  | cons value rest ih =>
      by_cases hvalue : value.IsSegment
      · obtain ⟨pattern, rfl⟩ := hvalue
        rw [segmentsOf, Fold.bind_eq_ok_iff]
        simp only [ih]
        constructor
        · rintro ⟨others, rfl, h⟩
          cases h
          rfl
        · intro h
          obtain ⟨first, others, rfl, hfirst, rfl⟩ := List.map_eq_cons_iff.1 h.symm
          cases hfirst
          exact ⟨others, rfl, rfl⟩
      · rw [segmentsOf_cons_of_not_isSegment hvalue]
        simp only [reduceCtorEq, false_iff]
        intro h
        obtain ⟨first, others, -, hfirst, -⟩ := List.map_eq_cons_iff.1 h.symm
        exact hvalue ⟨first, hfirst.symm⟩

/-- Members are refused for the first of them that is no segment. -/
theorem segmentsOf_eq_error_iff :
    segmentsOf role members = .error fault ↔ IsBadMembers role members fault := by
  induction members with
  | nil =>
      constructor
      · intro h
        cases h
      · rintro ⟨before, member, after, h, -⟩
        simp at h
  | cons value rest ih =>
      by_cases hvalue : value.IsSegment
      · have hrest : segmentsOf role (value :: rest) = .error fault ↔
            segmentsOf role rest = .error fault := by
          obtain ⟨pattern, rfl⟩ := hvalue
          rw [segmentsOf, Fold.bind_eq_error_iff]
          simp [pure, Except.pure]
        rw [hrest, ih]
        constructor
        · rintro ⟨before, member, after, rfl, hbefore, hbad⟩
          exact ⟨value :: before, member, after, rfl, List.forall_mem_cons.2 ⟨hvalue, hbefore⟩,
            hbad⟩
        · rintro ⟨before, member, after, hsplit, hbefore, hmember, hreports⟩
          cases before with
          | nil =>
              cases hsplit
              exact absurd hvalue hmember
          | cons first before =>
              cases hsplit
              exact ⟨before, member, after, rfl, (List.forall_mem_cons.1 hbefore).2, hmember,
                hreports⟩
      · rw [segmentsOf_cons_of_not_isSegment hvalue, Except.error.injEq, showing_eq_iff]
        constructor
        · intro hreports
          exact ⟨[], value, rest, rfl, by simp, hvalue, hreports⟩
        · rintro ⟨before, member, after, hsplit, hbefore, -, hreports⟩
          cases before with
          | nil =>
              cases hsplit
              exact hreports
          | cons first before =>
              cases hsplit
              exact absurd (List.forall_mem_cons.1 hbefore).1 hvalue

/-! ## Resources -/

theorem resourceOf_of_isTextual (h : resource.IsTextual) :
    resourceOf role resource = .error (.textResource role resource) := by
  cases h <;> rfl

theorem resourceOf_of_gives (h : resource.Gives members) :
    resourceOf role resource = segmentsOf role members := by
  rcases h with h | h
  · cases h <;> rfl
  · cases h <;> rfl

theorem resourceOf_of_single (textless : ¬resource.IsTextual)
    (h : ∀ members, ¬resource.Gives members) :
    resourceOf role resource = .error (.badResource role resource) := by
  have hmembers : resource.members? = none := by
    rw [Option.eq_none_iff_forall_ne_some]
    intro members hsome
    exact h members (Value.members?_eq_some_iff.1 hsome)
  unfold resourceOf
  split
  · next given => exact absurd (.text given) textless
  · next given => exact absurd (.bytes given) textless
  · next given => exact absurd (.effect given) textless
  · rw [hmembers]

theorem resourceOf_eq_ok_iff :
    resourceOf role resource = .ok patterns ↔ resource.Gives (patterns.map Value.segment) := by
  by_cases hgives : ∃ members, resource.Gives members
  · obtain ⟨members, hmembers⟩ := hgives
    rw [resourceOf_of_gives hmembers, segmentsOf_eq_ok_iff, ← Value.members?_eq_some_iff,
      Value.members?_eq_some_iff.2 hmembers, Option.some.injEq]
  · have hnone := not_exists.1 hgives
    by_cases htext : resource.IsTextual
    · simp [resourceOf_of_isTextual htext, hnone]
    · simp [resourceOf_of_single htext hnone, hnone]

theorem resourceOf_eq_error_iff :
    resourceOf role resource = .error fault ↔ IsBadResource role resource fault := by
  constructor
  · intro h
    by_cases htext : resource.IsTextual
    · rw [resourceOf_of_isTextual htext] at h
      cases h
      exact .text htext
    · by_cases hgives : ∃ members, resource.Gives members
      · obtain ⟨members, hmembers⟩ := hgives
        rw [resourceOf_of_gives hmembers, segmentsOf_eq_error_iff] at h
        exact .members hmembers h
      · rw [resourceOf_of_single htext (not_exists.1 hgives)] at h
        cases h
        exact .single htext (not_exists.1 hgives)
  · intro h
    cases h with
    | text htext => exact resourceOf_of_isTextual htext
    | single htext hnone => exact resourceOf_of_single htext hnone
    | members hmembers hbad =>
        rw [resourceOf_of_gives hmembers]
        exact segmentsOf_eq_error_iff.2 hbad

/-! ## Rules -/

theorem ofValues_of_not_effect (h : ∀ decision, effect ≠ .effect decision) :
    ofValues effect role resource = .error (.showing [role, effect] (.badEffect role effect)) := by
  cases effect with
  | effect decision => exact absurd rfl (h decision)
  | _ => rfl

theorem ofValues_of_not_isText {decision : Effect} (h : ∀ name, ¬role.IsText name) :
    ofValues (.effect decision) role resource = .error (.badRole role) := by
  have hcharacters : role.characters? = none := by
    rw [Option.eq_none_iff_forall_ne_some]
    intro name hsome
    exact h name (Value.characters?_eq_some_iff.1 hsome)
  simp [ofValues, hcharacters]

theorem ofValues_of_isText {decision : Effect} (h : role.IsText name) :
    ofValues (.effect decision) role resource =
      (resourceOf role resource).map fun patterns => ⟨decision, name, patterns⟩ := by
  have hcharacters := Value.characters?_eq_some_iff.2 h
  simp only [ofValues, hcharacters]
  cases resourceOf role resource <;> rfl

/-- How far three values get: to the effect, to the role, or to the resource. -/
theorem effect_or_role_or_resource (effect role : Value) :
    (∀ decision, effect ≠ .effect decision) ∨
      (∃ decision, effect = .effect decision ∧ ∀ name, ¬role.IsText name) ∨
        ∃ decision name, effect = .effect decision ∧ role.IsText name := by
  by_cases heffect : ∃ decision, effect = .effect decision
  · obtain ⟨decision, rfl⟩ := heffect
    by_cases hrole : ∃ name, role.IsText name
    · obtain ⟨name, hname⟩ := hrole
      exact .inr (.inr ⟨decision, name, rfl, hname⟩)
    · exact .inr (.inl ⟨decision, rfl, not_exists.1 hrole⟩)
  · exact .inl (not_exists.1 heffect)

/-- A rule has the effect, the role and the segments that it is made of. -/
theorem ofValues_eq_ok_iff :
    ofValues effect role resource = .ok rule ↔
      effect = .effect rule.effect ∧ role.IsText rule.role ∧
        resource.Gives (rule.resource.map Value.segment) := by
  constructor
  · intro h
    rcases effect_or_role_or_resource effect role with
      heffect | ⟨decision, rfl, hrole⟩ | ⟨decision, name, rfl, hname⟩
    · rw [ofValues_of_not_effect heffect] at h
      cases h
    · rw [ofValues_of_not_isText hrole] at h
      cases h
    · rw [ofValues_of_isText hname] at h
      cases hresource : resourceOf role resource with
      | error fault =>
          rw [hresource] at h
          cases h
      | ok patterns =>
          rw [hresource] at h
          cases h
          exact ⟨rfl, hname, resourceOf_eq_ok_iff.1 hresource⟩
  · rintro ⟨rfl, hname, hgives⟩
    rw [ofValues_of_isText hname, resourceOf_eq_ok_iff.2 hgives]
    rfl

/-- Values that make no rule are refused for one thing. -/
theorem ofValues_eq_error_iff :
    ofValues effect role resource = .error fault ↔ IsRefused effect role resource fault := by
  constructor
  · intro h
    rcases effect_or_role_or_resource effect role with
      heffect | ⟨decision, rfl, hrole⟩ | ⟨decision, name, rfl, hname⟩
    · rw [ofValues_of_not_effect heffect, Except.error.injEq] at h
      exact .effect heffect (showing_eq_iff.1 h)
    · rw [ofValues_of_not_isText hrole] at h
      cases h
      exact .role rfl hrole
    · rw [ofValues_of_isText hname] at h
      cases hresource : resourceOf role resource with
      | error found =>
          rw [hresource] at h
          cases h
          exact .resource rfl hname (resourceOf_eq_error_iff.1 hresource)
      | ok patterns =>
          rw [hresource] at h
          cases h
  · intro h
    cases h with
    | effect heffect hreports =>
        rw [ofValues_of_not_effect heffect, showing_eq_iff.2 hreports]
    | role hallowed hrole =>
        subst hallowed
        exact ofValues_of_not_isText hrole
    | resource hallowed hname hbad =>
        subst hallowed
        rw [ofValues_of_isText hname, resourceOf_eq_error_iff.2 hbad]
        rfl

/-- A resource that is no set and no mapping makes a rule, of an effect and a role that are
allowed, exactly if it is a sequence of segments. -/
theorem exists_ofValues_eq_ok_iff (ordered : ∀ members, ¬resource.IsUnordered members) :
    (∃ rule, ofValues effect role resource = .ok rule) ↔
      (∃ decision, effect = .effect decision) ∧ (∃ name, role.IsText name) ∧
        ∃ items, resource.IsSequence items ∧ ∀ item ∈ items, item.IsSegment := by
  constructor
  · rintro ⟨rule, h⟩
    obtain ⟨heffect, hname, hsequence | hunordered⟩ := ofValues_eq_ok_iff.1 h
    · refine ⟨⟨_, heffect⟩, ⟨_, hname⟩, _, hsequence, ?_⟩
      intro item hitem
      obtain ⟨pattern, -, rfl⟩ := List.mem_map.1 hitem
      exact ⟨pattern, rfl⟩
    · exact absurd hunordered (ordered _)
  · rintro ⟨⟨decision, heffect⟩, ⟨name, hname⟩, items, hsequence, hitems⟩
    obtain ⟨patterns, rfl⟩ := exists_map_segment hitems
    exact ⟨⟨decision, name, patterns⟩, ofValues_eq_ok_iff.2 ⟨heffect, hname, .inl hsequence⟩⟩

/-- Three values make a rule exactly if the first is an effect, the second a text, and the third
a sequence of segments or, beyond what is meant, a set of segments or a mapping with segments as
keys; the rule has the segments in the order in which they are given. All other values are
refused, for the one thing that is wrong with them. -/
theorem ofValues_decides (effect role resource : Value) :
    (∀ rule, ofValues effect role resource = .ok rule ↔
      effect = .effect rule.effect ∧ role.IsText rule.role ∧
        (resource.IsSequence (rule.resource.map Value.segment) ∨
          resource.IsUnordered (rule.resource.map Value.segment))) ∧
    (∀ fault, ofValues effect role resource = .error fault ↔
      IsRefused effect role resource fault) ∧
    ((∀ members, ¬resource.IsUnordered members) →
      ((∃ rule, ofValues effect role resource = .ok rule) ↔
        (∃ decision, effect = .effect decision) ∧ (∃ name, role.IsText name) ∧
          ∃ items, resource.IsSequence items ∧ ∀ item ∈ items, item.IsSegment)) := by
  refine ⟨?_, ?_, exists_ofValues_eq_ok_iff⟩
  · intro rule
    exact ofValues_eq_ok_iff
  · intro fault
    exact ofValues_eq_error_iff

/-- A tuple with a pattern of an unknown kind makes a rule, because a segment is a segment
whatever its kind. -/
theorem ofValues_of_tuple :
    (∀ members, ¬(Value.tuple [.segment ⟨.other "glob", none⟩]).IsUnordered members) ∧
      ∃ rule, ofValues (.effect .deny) (.text "ann")
        (.tuple [.segment ⟨.other "glob", none⟩]) = .ok rule := by
  have ordered : ∀ members,
      ¬(Value.tuple [.segment ⟨.other "glob", none⟩]).IsUnordered members := by
    intro members h
    cases h
  refine ⟨ordered, ((ofValues_decides _ _ _).2.2 ordered).2
    ⟨⟨.deny, rfl⟩, ⟨"ann", .text "ann"⟩, _, .tuple _, fun item hitem => ?_⟩⟩
  rw [List.mem_singleton.1 hitem]
  exact ⟨_, rfl⟩

/-- A resource is meant to be a sequence, but a set of segments makes a rule, and so does a
mapping with segments as keys. -/
theorem ofValues_accepts_unordered :
    ¬((∃ rule, ofValues (.effect .allow) (.text "ann") (.set [.segment (.literal "docs")]) =
          .ok rule) ↔
        (∃ decision, Value.effect .allow = .effect decision) ∧
          (∃ name, (Value.text "ann").IsText name) ∧
            ∃ items, (Value.set [.segment (.literal "docs")]).IsSequence items ∧
              ∀ item ∈ items, item.IsSegment) ∧
      ofValues (.effect .allow) (.text "ann") (.map [(.segment (.literal "docs"), .null)]) =
        .ok ⟨.allow, "ann", [.literal "docs"]⟩ := by
  refine ⟨fun claimed => ?_, rfl⟩
  obtain ⟨-, -, items, hsequence, -⟩ := claimed.1 ⟨_, rfl⟩
  cases hsequence

end PermissionRule

end RoleAccess

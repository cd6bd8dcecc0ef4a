import Mathlib.Tactic.MkIffOfInductiveProp
import RoleAccess.Proofs.Environment.Bindings

/-!
# Which environments are refused, and what for

An environment is meant to hold scalars: one value for each variable, and collections of such
values for the sets (`HoldsScalars`). What the entries are refused for is said here entry by
entry (`IsBadVariable`, `IsBadSet`), and an environment is refused for its first bad entry,
where all variables come before all sets (`build_eq_error_iff`).

The members of a set are not examined, beyond that they need a text. So among the environments
that are built, those that hold more than scalars are exactly the ones with a null or a
collection among the members of a set (`build_refuses_iff`), and the text of such a member is
what segments are compared with (`build_accepts_null_member`).
-/

namespace RoleAccess

/-! ## Kinds of values -/

/-- A value that holds other values. -/
inductive Value.IsCollection : Value → Prop where
  | list (items : List Value) : IsCollection (.list items)
  | tuple (items : List Value) : IsCollection (.tuple items)
  | set (members : List Value) : IsCollection (.set members)
  | frozenset (members : List Value) : IsCollection (.frozenset members)
  | map (entries : List (Value × Value)) : IsCollection (.map entries)

/-- A value that is there and holds no others. -/
def Value.IsScalar (value : Value) : Prop := value ≠ .null ∧ ¬value.IsCollection

/-- A collection that is no mapping, and its members. -/
inductive Value.HasMembers : Value → List Value → Prop where
  | list (items : List Value) : HasMembers (.list items) items
  | tuple (items : List Value) : HasMembers (.tuple items) items
  | set (members : List Value) : HasMembers (.set members) members
  | frozenset (members : List Value) : HasMembers (.frozenset members) members

theorem Value.HasMembers.unique {value : Value} {members others : List Value}
    (h : value.HasMembers members) (hothers : value.HasMembers others) : members = others := by
  cases h <;> cases hothers <;> rfl

namespace Environment

variable {bound sets : List (Value × Value)} {entry : Value × Value} {value : Value}
  {members : List Value} {fault : EnvironmentFault} {environment : Environment}

theorem isSingle_iff : isSingle value = true ↔ value.IsScalar := by
  constructor
  · intro h
    refine ⟨?_, ?_⟩
    · rintro rfl
      cases h
    · intro hcollection
      cases hcollection <;> cases h
  · rintro ⟨hnull, hcollection⟩
    cases value with
    | null => exact absurd rfl hnull
    | list items => exact absurd (.list items) hcollection
    | tuple items => exact absurd (.tuple items) hcollection
    | set items => exact absurd (.set items) hcollection
    | frozenset items => exact absurd (.frozenset items) hcollection
    | map entries => exact absurd (.map entries) hcollection
    | _ => rfl

theorem membersOf?_eq_some_iff : membersOf? value = some members ↔ value.HasMembers members := by
  constructor
  · intro h
    cases value with
    | list items => exact Option.some.inj h ▸ .list items
    | tuple items => exact Option.some.inj h ▸ .tuple items
    | set items => exact Option.some.inj h ▸ .set items
    | frozenset items => exact Option.some.inj h ▸ .frozenset items
    | _ => cases h
  · intro h
    cases h <;> rfl

/-- The members of a value that is no collection to take members from. -/
theorem membersOf?_eq_none_iff :
    membersOf? value = none ↔ ∀ members, ¬value.HasMembers members := by
  simp only [← membersOf?_eq_some_iff, Option.eq_none_iff_forall_ne_some]

/-! ## Bad entries -/

/-- What is wrong with the entry of a variable. -/
@[mk_iff] inductive IsBadVariable (entry : Value × Value) : EnvironmentFault → Prop where
  | name (hidden : ¬entry.1.isWritable) : IsBadVariable entry .unwritable
  | value (named : entry.1.isWritable) (h : ¬entry.2.IsScalar) :
      IsBadVariable entry (.badVariable entry.1 entry.2)
  | text (scalar : entry.2.IsScalar) (hidden : ¬entry.2.isWritable) :
      IsBadVariable entry .unwritable

/-- What is wrong with the entry of a set. -/
@[mk_iff] inductive IsBadSet (entry : Value × Value) : EnvironmentFault → Prop where
  | name (hidden : ¬entry.1.isWritable) : IsBadSet entry .unwritable
  | value (named : entry.1.isWritable) (h : ∀ members, ¬entry.2.HasMembers members) :
      IsBadSet entry (.badSet entry.1 entry.2)
  | text {members : List Value} (has : entry.2.HasMembers members)
      (hidden : ∃ member ∈ members, ¬member.isWritable) : IsBadSet entry .unwritable

theorem bindVariable_eq_error_iff (bindings : Table String String) (entry : Value × Value)
    (fault : EnvironmentFault) :
    bindVariable bindings entry = .error fault ↔ IsBadVariable entry fault := by
  rw [isBadVariable_iff, ← isSingle_iff]
  unfold bindVariable
  cases entry.1.isWritable <;> cases isSingle entry.2 <;> cases entry.2.isWritable <;>
    simp [eq_comm]

theorem bindSet_eq_error_iff (named : Table String (List String)) (entry : Value × Value)
    (fault : EnvironmentFault) :
    bindSet named entry = .error fault ↔ IsBadSet entry fault := by
  rw [isBadSet_iff, ← membersOf?_eq_none_iff]
  simp only [← membersOf?_eq_some_iff, ← Value.areWritable_eq_false_iff]
  unfold bindSet
  cases entry.1.isWritable with
  | false => cases membersOf? entry.2 <;> simp [@eq_comm _ fault]
  | true =>
      cases membersOf? entry.2 with
      | none => simp [@eq_comm _ fault]
      | some members => cases h : Value.areWritable members <;> simp [h, @eq_comm _ fault]

theorem forall_not_isBadVariable_iff :
    (∀ fault, ¬IsBadVariable entry fault) ↔
      entry.1.isWritable ∧ entry.2.IsScalar ∧ entry.2.isWritable := by
  constructor
  · intro h
    have hname : entry.1.isWritable := by_contra fun hidden => h _ (.name hidden)
    have hscalar : entry.2.IsScalar := by_contra fun hbad => h _ (.value hname hbad)
    exact ⟨hname, hscalar, by_contra fun hidden => h _ (.text hscalar hidden)⟩
  · rintro ⟨hname, hscalar, htext⟩ fault hbad
    cases hbad with
    | name hidden => exact hidden hname
    | value _ hbad => exact hbad hscalar
    | text _ hidden => exact hidden htext

theorem forall_not_isBadSet_iff :
    (∀ fault, ¬IsBadSet entry fault) ↔
      entry.1.isWritable ∧ ∃ members, entry.2.HasMembers members ∧
        ∀ member ∈ members, member.isWritable := by
  constructor
  · intro h
    have hname : entry.1.isWritable := by_contra fun hidden => h _ (.name hidden)
    have hmembers : ∃ members, entry.2.HasMembers members := by
      by_contra hnone
      exact h _ (.value hname (not_exists.1 hnone))
    obtain ⟨members, has⟩ := hmembers
    refine ⟨hname, members, has, fun member hmember => ?_⟩
    by_contra hidden
    exact h _ (.text has ⟨member, hmember, hidden⟩)
  · rintro ⟨hname, members, has, htexts⟩ fault hbad
    cases hbad with
    | name hidden => exact hidden hname
    | value _ hnone => exact hnone members has
    | text others hidden =>
        obtain ⟨member, hmember, hidden⟩ := hidden
        rw [others.unique has] at hmember
        exact hidden (htexts member hmember)

/-! ## All entries -/

/-- What an environment is meant to be made of: each variable is bound to a scalar, and each set
is given by a collection of scalars. -/
structure HoldsScalars (bound sets : List (Value × Value)) : Prop where
  ofVariables : ∀ entry ∈ bound, entry.2.IsScalar
  ofSets : ∀ entry ∈ sets, ∃ members, entry.2.HasMembers members ∧
    ∀ member ∈ members, member.IsScalar

/-- All that an environment takes texts of has one. -/
structure HasTexts (bound sets : List (Value × Value)) : Prop where
  ofVariables : ∀ entry ∈ bound, entry.1.isWritable ∧ entry.2.isWritable
  ofSets : ∀ entry ∈ sets, entry.1.isWritable ∧
    ∀ members, entry.2.HasMembers members → ∀ member ∈ members, member.isWritable

/-- An environment is refused for its first bad variable, or else for its first bad set. -/
theorem build_eq_error_iff :
    build bound sets = .error fault ↔
      Fold.IsFirstFault IsBadVariable bound fault ∨
        (∀ entry ∈ bound, ∀ fault, ¬IsBadVariable entry fault) ∧
          Fold.IsFirstFault IsBadSet sets fault := by
  have hfold : build bound sets = .error fault ↔
      bound.foldlM bindVariable Table.empty = .error fault ∨
        (∃ bindings, bound.foldlM bindVariable Table.empty = .ok bindings) ∧
          sets.foldlM bindSet Table.empty = .error fault := by
    simp only [build, Fold.bind_eq_error_iff]
    simp [pure, Except.pure]
  rw [hfold, Fold.foldlM_eq_error_iff_isFirstFault bindVariable_eq_error_iff,
    Fold.exists_foldlM_eq_ok_iff bindVariable_eq_error_iff,
    Fold.foldlM_eq_error_iff_isFirstFault bindSet_eq_error_iff]

/-- An environment is built from entries none of which is bad. -/
theorem exists_build_eq_ok_iff :
    (∃ environment, build bound sets = .ok environment) ↔
      (∀ entry ∈ bound, entry.1.isWritable ∧ entry.2.IsScalar ∧ entry.2.isWritable) ∧
        ∀ entry ∈ sets, entry.1.isWritable ∧ ∃ members, entry.2.HasMembers members ∧
          ∀ member ∈ members, member.isWritable := by
  have hfolds : (∃ environment, build bound sets = .ok environment) ↔
      (∃ bindings, bound.foldlM bindVariable Table.empty = .ok bindings) ∧
        ∃ named, sets.foldlM bindSet Table.empty = .ok named := by
    constructor
    · rintro ⟨environment, h⟩
      obtain ⟨hbindings, hnamed⟩ := build_eq_ok_iff.1 h
      exact ⟨⟨_, hbindings⟩, _, hnamed⟩
    · rintro ⟨⟨bindings, hbindings⟩, named, hnamed⟩
      exact ⟨⟨bindings, named⟩, build_eq_ok_iff.2 ⟨hbindings, hnamed⟩⟩
  rw [hfolds, Fold.exists_foldlM_eq_ok_iff bindVariable_eq_error_iff,
    Fold.exists_foldlM_eq_ok_iff bindSet_eq_error_iff]
  simp only [forall_not_isBadVariable_iff, forall_not_isBadSet_iff]

/-- Where all texts are there, no environment is refused for a missing one. -/
theorem HasTexts.ne_unwritable (texts : HasTexts bound sets)
    (h : build bound sets = .error fault) : fault ≠ .unwritable := by
  rintro rfl
  rcases build_eq_error_iff.1 h with hfirst | ⟨-, hfirst⟩
  · obtain ⟨entry, hentry, hbad⟩ := hfirst.exists_mem
    obtain ⟨hname, htext⟩ := texts.ofVariables entry hentry
    cases hbad with
    | name hidden => exact hidden hname
    | text _ hidden => exact hidden htext
  · obtain ⟨entry, hentry, hbad⟩ := hfirst.exists_mem
    obtain ⟨hname, htexts⟩ := texts.ofSets entry hentry
    cases hbad with
    | name hidden => exact hidden hname
    | text has hidden =>
        obtain ⟨member, hmember, hidden⟩ := hidden
        exact hidden (htexts _ has member hmember)

/-- What is refused for more than a missing text is a variable without a scalar or a set without
members to take. -/
theorem exists_bad_of_build_eq_error (h : build bound sets = .error fault)
    (shape : fault ≠ .unwritable) :
    (∃ entry ∈ bound, ¬entry.2.IsScalar) ∨
      ∃ entry ∈ sets, ∀ members, ¬entry.2.HasMembers members := by
  rcases build_eq_error_iff.1 h with hfirst | ⟨-, hfirst⟩
  · obtain ⟨entry, hentry, hbad⟩ := hfirst.exists_mem
    cases hbad with
    | value _ hscalar => exact .inl ⟨entry, hentry, hscalar⟩
    | name | text => exact absurd rfl shape
  · obtain ⟨entry, hentry, hbad⟩ := hfirst.exists_mem
    cases hbad with
    | value _ hnone => exact .inr ⟨entry, hentry, hnone⟩
    | name | text => exact absurd rfl shape

/-- Where all texts are there, what an environment is refused for is the shape of a value. -/
theorem HasTexts.exists_build_eq_error_iff (texts : HasTexts bound sets) :
    (∃ fault, fault ≠ .unwritable ∧ build bound sets = .error fault) ↔
      (∃ entry ∈ bound, ¬entry.2.IsScalar) ∨
        ∃ entry ∈ sets, ∀ members, ¬entry.2.HasMembers members := by
  constructor
  · rintro ⟨fault, hshape, h⟩
    exact exists_bad_of_build_eq_error h hshape
  · intro hbad
    cases h : build bound sets with
    | error fault => exact ⟨fault, texts.ne_unwritable h, rfl⟩
    | ok environment =>
        -- Nothing is wrong with the entries of an environment that is built.
        obtain ⟨hvariables, hsets⟩ := exists_build_eq_ok_iff.1 ⟨environment, h⟩
        rcases hbad with ⟨entry, hentry, hscalar⟩ | ⟨entry, hentry, hnone⟩
        · exact absurd (hvariables entry hentry).2.1 hscalar
        · obtain ⟨-, members, has, -⟩ := hsets entry hentry
          exact absurd has (hnone members)

/-- Of what an environment is meant to be made of, only the members of the sets can be missing
when it is built. -/
theorem holdsScalars_iff_of_build (built : build bound sets = .ok environment) :
    HoldsScalars bound sets ↔ ∀ entry ∈ sets, ∀ members, entry.2.HasMembers members →
      ∀ member ∈ members, member.IsScalar := by
  constructor
  · intro holds entry hentry members has
    obtain ⟨others, hothers, hscalars⟩ := holds.ofSets entry hentry
    rwa [has.unique hothers]
  · intro scalars
    obtain ⟨hvariables, hsets⟩ := exists_build_eq_ok_iff.1 ⟨environment, built⟩
    constructor
    · intro entry hentry
      exact (hvariables entry hentry).2.1
    · intro entry hentry
      obtain ⟨-, members, has, -⟩ := hsets entry hentry
      exact ⟨members, has, scalars entry hentry members has⟩

/-- An environment is refused for the first entry that is bad, and built if there is none. Where
all texts are there it is refused exactly for a variable without a scalar or a set that is no
collection to take members from; the members have no part in that. So an environment that is
built holds more than scalars exactly if a member of a set does. -/
theorem build_refuses_iff (bound sets : List (Value × Value)) :
    (∀ fault, build bound sets = .error fault ↔
      Fold.IsFirstFault IsBadVariable bound fault ∨
        (∀ entry ∈ bound, ∀ fault, ¬IsBadVariable entry fault) ∧
          Fold.IsFirstFault IsBadSet sets fault) ∧
    ((∃ environment, build bound sets = .ok environment) ↔
      (∀ entry ∈ bound, entry.1.isWritable ∧ entry.2.IsScalar ∧ entry.2.isWritable) ∧
        ∀ entry ∈ sets, entry.1.isWritable ∧ ∃ members, entry.2.HasMembers members ∧
          ∀ member ∈ members, member.isWritable) ∧
    (HasTexts bound sets →
      ((∃ fault, fault ≠ .unwritable ∧ build bound sets = .error fault) ↔
        (∃ entry ∈ bound, ¬entry.2.IsScalar) ∨
          ∃ entry ∈ sets, ∀ members, ¬entry.2.HasMembers members)) ∧
    ∀ environment, build bound sets = .ok environment →
      (HoldsScalars bound sets ↔ ∀ entry ∈ sets, ∀ members, entry.2.HasMembers members →
        ∀ member ∈ members, member.IsScalar) := by
  refine ⟨?_, exists_build_eq_ok_iff, ?_, ?_⟩
  · intro fault
    exact build_eq_error_iff
  · intro texts
    exact texts.exists_build_eq_error_iff
  · intro environment built
    exact holdsScalars_iff_of_build built

/-- A set with a null among its members is accepted, and the environment is refused for the set
after it, which is given by a text. -/
theorem build_refuses_text_after_null_member :
    HasTexts [] [(.text "staff", .list [.null]), (.text "guests", .text "ann")] ∧
      ∃ fault, fault ≠ .unwritable ∧
        build [] [(.text "staff", .list [.null]), (.text "guests", .text "ann")] =
          .error fault := by
  have texts : HasTexts [] [(.text "staff", .list [.null]), (.text "guests", .text "ann")] := by
    refine ⟨by simp, ?_⟩
    simp only [List.forall_mem_cons, Value.isWritable_text, true_and]
    refine ⟨fun members has member hmember => ?_, fun members has => ?_, by simp⟩
    · cases has
      obtain rfl := List.mem_singleton.1 hmember
      simp [Value.isWritable]
    · cases has
  refine ⟨texts, ((build_refuses_iff _ _).2.2.1 texts).2 (.inr ⟨(.text "guests", .text "ann"),
    by simp, fun members has => ?_⟩)⟩
  cases has

/-- A set is not meant to have a null among its members; the environment is built all the same,
and a segment that reads like the null is a member. -/
theorem build_accepts_null_member :
    ¬((∃ fault, fault ≠ .unwritable ∧
        build [] [(.text "staff", .list [.null])] = .error fault) ↔
      ¬HoldsScalars [] [(.text "staff", .list [.null])]) ∧
    ∃ environment, build [] [(.text "staff", .list [.null])] = .ok environment ∧
      environment.contains "staff" "None" = true := by
  have hbuilt : ∃ environment, build [] [(.text "staff", .list [.null])] = .ok environment ∧
      environment.contains "staff" "None" = true := ⟨_, rfl, rfl⟩
  refine ⟨fun claimed => ?_, hbuilt⟩
  have hfalls : ¬HoldsScalars [] [(.text "staff", .list [.null])] := by
    intro holds
    obtain ⟨members, has, hscalars⟩ := holds.ofSets _ List.mem_cons_self
    cases has
    exact (hscalars .null List.mem_cons_self).1 rfl
  obtain ⟨fault, -, hrefused⟩ := claimed.2 hfalls
  obtain ⟨environment, hok, -⟩ := hbuilt
  rw [hok] at hrefused
  cases hrefused

end Environment

end RoleAccess

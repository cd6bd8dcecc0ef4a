import RoleAccess.Environment
import RoleAccess.Proofs.Fold

/-!
# Where the bindings of an environment come from

An environment that is built binds a name to what the last entry with that name gives
it, and nothing else (`lookup_of_build`, `contains_iff_of_build`): names count as equal
if their plain texts are, and a later entry replaces an earlier one as a whole. The
environment of a document is the one that its two sections give
(`build_of_ofDocument_eq_ok`).
-/

namespace RoleAccess.Environment

variable {bound sets entries seen : List (Value × Value)} {entry : Value × Value}
  {environment : Environment} {document : Value} {name value : String}

/-- The value of the last entry whose name has a given plain text. -/
def lastNamed (name : String) (entries : List (Value × Value)) : Option Value :=
  (entries.filter fun entry => entry.1.plain = name).getLast?.map Prod.snd

/-- The entries in a section of a document; a section that is no mapping has none. -/
def sectionEntries (name : String) (document : Value) : List (Value × Value) :=
  ((Value.lookup name document.entries).getD .null).entries

theorem lastNamed_append_singleton :
    lastNamed name (seen ++ [entry]) =
      if entry.1.plain = name then some entry.2 else lastNamed name seen := by
  by_cases h : entry.1.plain = name
  · simp [lastNamed, h]
  · simp [lastNamed, h]

theorem exists_mem_of_lastNamed_eq_some {given : Value} (h : lastNamed name entries = some given) :
    ∃ entry ∈ entries, entry.1.plain = name ∧ entry.2 = given := by
  obtain ⟨entry, hlast, rfl⟩ := Option.map_eq_some_iff.1 h
  have hmem := List.mem_of_getLast? hlast
  rw [List.mem_filter, decide_eq_true_eq] at hmem
  exact ⟨entry, hmem.1, hmem.2, rfl⟩

/-! ## One entry -/

theorem bindVariable_eq_ok_iff {bindings next : Table String String} :
    bindVariable bindings entry = .ok next ↔
      entry.1.isWritable ∧ isSingle entry.2 ∧ entry.2.isWritable ∧
        next = bindings.put entry.1.plain entry.2.plain := by
  unfold bindVariable
  cases entry.1.isWritable <;> cases isSingle entry.2 <;> cases entry.2.isWritable <;>
    simp [eq_comm]

theorem bindSet_eq_ok_iff {named next : Table String (List String)} :
    bindSet named entry = .ok next ↔
      entry.1.isWritable ∧ ∃ members, membersOf? entry.2 = some members ∧
        Value.areWritable members ∧
          next = named.put entry.1.plain (members.map Value.plain).eraseDups := by
  unfold bindSet
  cases entry.1.isWritable with
  | false => simp
  | true =>
      cases membersOf? entry.2 with
      | none => simp
      | some members =>
          cases hwritable : Value.areWritable members with
          | false => simp [hwritable]
          | true => simp [hwritable, @eq_comm _ next]

/-! ## All entries -/

theorem build_eq_ok_iff :
    build bound sets = .ok environment ↔
      bound.foldlM bindVariable Table.empty = .ok environment.bindings ∧
        sets.foldlM bindSet Table.empty = .ok environment.sets := by
  obtain ⟨bindings, named⟩ := environment
  simp only [build, Fold.bind_eq_ok_iff]
  constructor
  · rintro ⟨bindings', hbindings, named', hnamed, heq⟩
    cases heq
    exact ⟨hbindings, hnamed⟩
  · rintro ⟨hbindings, hnamed⟩
    exact ⟨bindings, hbindings, named, hnamed, rfl⟩

/-- A variable has the value of its last entry. -/
theorem lookup_of_build (h : build bound sets = .ok environment) (name : String) :
    environment.lookup name = (lastNamed name bound).map Value.plain := by
  -- The fold keeps the statement for the entries bound so far.
  refine Fold.foldlM_ok_induction (fun seen bindings => ∀ name,
    bindings.get? name = (lastNamed name seen).map Value.plain) (fun name => rfl) ?_
    (build_eq_ok_iff.1 h).1 name
  intro seen entry bindings next hseen hstep name
  obtain ⟨-, -, -, rfl⟩ := bindVariable_eq_ok_iff.1 hstep
  rw [Table.get?_put, lastNamed_append_singleton, hseen name]
  by_cases hname : entry.1.plain = name
  · simp [hname]
  · simp [hname, Ne.symm hname]

theorem sets_get?_of_build (h : build bound sets = .ok environment) (name : String) :
    environment.sets.get? name =
      ((lastNamed name sets).bind membersOf?).map fun members =>
        (members.map Value.plain).eraseDups := by
  refine Fold.foldlM_ok_induction (fun seen (named : Table String (List String)) => ∀ name,
    named.get? name = ((lastNamed name seen).bind membersOf?).map fun members =>
      (members.map Value.plain).eraseDups) (fun name => rfl) ?_ (build_eq_ok_iff.1 h).2 name
  intro seen entry named next hseen hstep name
  obtain ⟨-, members, hmembers, -, rfl⟩ := bindSet_eq_ok_iff.1 hstep
  rw [Table.get?_put, lastNamed_append_singleton, hseen name]
  by_cases hname : entry.1.plain = name
  · simp [hname, hmembers]
  · simp [hname, Ne.symm hname]

/-- A set has the members of its last entry. -/
theorem contains_iff_of_build (h : build bound sets = .ok environment) (name value : String) :
    environment.contains name value = true ↔
      ∃ members, (lastNamed name sets).bind membersOf? = some members ∧
        value ∈ members.map Value.plain := by
  unfold contains
  rw [sets_get?_of_build h]
  cases (lastNamed name sets).bind membersOf? with
  | none => simp
  | some members => simp

/-! ## Documents -/

theorem sectionOf_eq_ok {fields : List (Value × Value)} {given : List (Value × Value)}
    (h : sectionOf name fields = .ok given) : given = sectionEntries name (.map fields) := by
  simp only [sectionOf] at h
  split at h
  · cases h
  · exact (Except.ok.inj h).symm

/-- The environment of a document is the one that its sections give. -/
theorem build_of_ofDocument_eq_ok (h : ofDocument document = .ok environment) :
    build (sectionEntries "variables" document) (sectionEntries "sets" document) =
      .ok environment := by
  cases document with
  | null => exact h
  | map fields =>
      simp only [ofDocument] at h
      -- Neither names without a text nor other sections are there.
      split at h
      · cases h
      · split at h
        · cases h
        · obtain ⟨bound, hbound, hrest⟩ := Fold.bind_eq_ok_iff.1 h
          obtain ⟨sets, hsets, hbuild⟩ := Fold.bind_eq_ok_iff.1 hrest
          rw [← sectionOf_eq_ok hbound, ← sectionOf_eq_ok hsets]
          exact hbuild
  | _ => cases h

end RoleAccess.Environment

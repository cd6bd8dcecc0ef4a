import Mathlib.Data.List.Permutation
import RoleAccess.Proofs.Environment.Refusal

/-!
# What an environment binds

Names are compared by their plain texts, so different names of a mapping can be one name of the
environment. Then the last of their entries counts and hides the others (`IsLastNamed`): a
variable has the text of its last value, and a set has the texts of the members of its last
collection and none of the earlier ones. A document of two sections describes the environment
that is built from them, in whatever order they stand (`ofDocument_of_sections`).

Main statement: `build_binds_last_entries`.
-/

namespace RoleAccess.Environment

variable {bound sets entries fields : List (Value × Value)} {environment : Environment}
  {name text : String} {value : Value}

/-- The last of the entries whose names have a given plain text has this value. -/
def IsLastNamed (entries : List (Value × Value)) (name : String) (value : Value) : Prop :=
  ∃ before key after, entries = before ++ (key, value) :: after ∧ key.plain = name ∧
    ∀ entry ∈ after, entry.1.plain ≠ name

theorem lastNamed_eq_some_iff :
    lastNamed name entries = some value ↔ IsLastNamed entries name value := by
  rw [lastNamed, List.getLast?_filter, Option.map_eq_some_iff]
  simp only [List.find?_eq_some_iff_append, decide_eq_true_eq, Bool.not_eq_true',
    decide_eq_false_iff_not]
  constructor
  · rintro ⟨⟨key, value⟩, ⟨hname, after, before, hsplit, hafter⟩, rfl⟩
    -- The first entry from the end is the last one.
    refine ⟨before.reverse, key, after.reverse, ?_, hname, fun entry hentry => ?_⟩
    · rw [← List.reverse_reverse entries, hsplit]
      simp
    · exact hafter entry (List.mem_reverse.1 hentry)
  · rintro ⟨before, key, after, rfl, hname, hafter⟩
    refine ⟨(key, value), ⟨hname, after.reverse, before.reverse, by simp, fun entry hentry => ?_⟩,
      rfl⟩
    exact hafter entry (List.mem_reverse.1 hentry)

theorem lastNamed_eq_none_iff :
    lastNamed name entries = none ↔ ∀ entry ∈ entries, entry.1.plain ≠ name := by
  simp [lastNamed]

/-- A variable has the text of its last value. -/
theorem lookup_eq_some_iff_of_build (built : build bound sets = .ok environment) :
    environment.lookup name = some text ↔
      ∃ value, IsLastNamed bound name value ∧ value.plain = text := by
  rw [lookup_of_build built, Option.map_eq_some_iff]
  simp only [lastNamed_eq_some_iff]

/-- A variable without an entry is not bound. -/
theorem lookup_eq_none_iff_of_build (built : build bound sets = .ok environment) :
    environment.lookup name = none ↔ ∀ entry ∈ bound, entry.1.plain ≠ name := by
  rw [lookup_of_build built, Option.map_eq_none_iff, lastNamed_eq_none_iff]

/-- A set has the texts of the members of its last collection. -/
theorem contains_iff_isLastNamed_of_build (built : build bound sets = .ok environment) :
    environment.contains name text = true ↔
      ∃ value members, IsLastNamed sets name value ∧ value.HasMembers members ∧
        ∃ member ∈ members, member.plain = text := by
  rw [contains_iff_of_build built]
  simp only [Option.bind_eq_some_iff, lastNamed_eq_some_iff, membersOf?_eq_some_iff, List.mem_map]
  constructor
  · rintro ⟨members, ⟨value, hlast, has⟩, hmember⟩
    exact ⟨value, members, hlast, has, hmember⟩
  · rintro ⟨value, members, hlast, has, hmember⟩
    exact ⟨members, ⟨value, hlast, has⟩, hmember⟩

/-! ## Documents -/

theorem sectionOf_of_lookup {given : List (Value × Value)}
    (h : Value.lookup name fields = some (.map given)) : sectionOf name fields = .ok given := by
  simp [sectionOf, h, Value.isMap, Value.entries]

/-- A document of two sections describes what is built from them, or fails as that does. -/
theorem ofDocument_of_sections
    (h : fields.Perm [(.text "variables", .map bound), (.text "sets", .map sets)]) :
    ofDocument (.map fields) = build bound sets := by
  have hsections : Value.lookup "variables" fields = some (.map bound) ∧
      Value.lookup "sets" fields = some (.map sets) ∧
        ((fields.map Prod.fst).filter (!isSectionName ·)) = [] := by
    rcases List.perm_pair.1 h with rfl | rfl
    · exact ⟨rfl, rfl, rfl⟩
    · exact ⟨rfl, rfl, rfl⟩
  obtain ⟨hbound, hsets, hunknown⟩ := hsections
  simp only [ofDocument, hunknown, sectionOf_of_lookup hbound, sectionOf_of_lookup hsets]
  rfl

/-- An environment binds a variable to the text of its last value and no other variable, and
the members of a set are the texts of the members of its last collection, where entries belong
together if the plain texts of their names are equal. The document of the two sections describes
the same environment. -/
theorem build_binds_last_entries (built : build bound sets = .ok environment) :
    (∀ name text, environment.lookup name = some text ↔
      ∃ value, IsLastNamed bound name value ∧ value.plain = text) ∧
    (∀ name, environment.lookup name = none ↔ ∀ entry ∈ bound, entry.1.plain ≠ name) ∧
    (∀ name text, environment.contains name text = true ↔
      ∃ value members, IsLastNamed sets name value ∧ value.HasMembers members ∧
        ∃ member ∈ members, member.plain = text) ∧
    ∀ fields : List (Value × Value),
      fields.Perm [(.text "variables", .map bound), (.text "sets", .map sets)] →
        ofDocument (.map fields) = .ok environment := by
  refine ⟨fun name text => lookup_eq_some_iff_of_build built,
    fun name => lookup_eq_none_iff_of_build built,
    fun name text => contains_iff_isLastNamed_of_build built, fun fields hfields => ?_⟩
  rw [ofDocument_of_sections hfields, built]

/-- A truth value and its text are one name, and so are the null and its text: the last variable
and the last set count, and the set is not joined with the one before it. -/
theorem build_binds_one_name_once :
    ∃ environment, build [(.bool true, .text "ann"), (.text "True", .bool false)]
        [(.null, .list [.text "ann"]), (.text "None", .set [.text "bob"])] = .ok environment ∧
      environment.lookup "True" = some "False" ∧ environment.contains "None" "bob" = true ∧
        ¬environment.contains "None" "ann" = true ∧
          ofDocument (.map [(.text "sets",
              .map [(.null, .list [.text "ann"]), (.text "None", .set [.text "bob"])]),
            (.text "variables", .map [(.bool true, .text "ann"), (.text "True", .bool false)])]) =
              .ok environment := by
  obtain ⟨environment, built⟩ :
      ∃ environment, build [(.bool true, .text "ann"), (.text "True", .bool false)]
        [(.null, .list [.text "ann"]), (.text "None", .set [.text "bob"])] = .ok environment :=
    ⟨_, rfl⟩
  obtain ⟨hlookup, -, hcontains, hdocument⟩ := build_binds_last_entries built
  refine ⟨environment, built, ?_, ?_, ?_, hdocument _ (.swap _ _ _)⟩
  · exact (hlookup "True" "False").2 ⟨_, ⟨[_], .text "True", [], rfl, rfl, by simp⟩, rfl⟩
  · exact (hcontains "None" "bob").2 ⟨_, _, ⟨[_], .text "None", [], rfl, rfl, by simp⟩, .set _,
      .text "bob", List.mem_singleton_self _, rfl⟩
  · intro hann
    obtain ⟨value, members, hlast, has, member, hmember, hplain⟩ :=
      (hcontains "None" "ann").1 hann
    -- The last set of the name is the one with the other member.
    have hvalue : lastNamed "None"
        [(.null, .list [.text "ann"]), (.text "None", .set [.text "bob"])] = some value :=
      lastNamed_eq_some_iff.2 hlast
    cases hvalue
    cases has
    obtain rfl := List.mem_singleton.1 hmember
    exact absurd hplain (by decide)

end RoleAccess.Environment

import RoleAccess.Proofs.Environment.Bindings
import RoleAccess.Settings.Basic

/-!
# What documents are refused for

Settings and environments are each read from a document with two sections. What stands under the
name of a section is meant to be a mapping or null, if anything stands there at all
(`Value.IsSection`); any other value is malformed. But both readers replace what counts as false
by an empty section before they look at what it is. So the malformed values that are refused are
the ones that do not count as false (`Value.asSection_eq_error_iff`), and blank ones, such as an
empty list or a zero, are read as empty sections (`blank_sections_accepted`).

An environment document may have no other keys than its sections, and is refused for those first,
then for its sections in their order, and last for an entry of a section
(`Environment.IsRefused`). Main statement: `sections_refused_unless_blank`.
-/

namespace RoleAccess

/-! ## Sections -/

namespace Value

/-- What is meant to stand under the name of a section, and the entries that it gives. -/
inductive IsSection : Option Value → List (Value × Value) → Prop where
  | absent : IsSection none []
  | null : IsSection (some .null) []
  | map (entries : List (Value × Value)) : IsSection (some (.map entries)) entries

/-- A value that is not meant to stand under the name of a section. -/
def IsMalformed (value : Value) : Prop := value ≠ .null ∧ ∀ entries, value ≠ .map entries

/-- A malformed value that counts as false. -/
inductive IsBlank : Value → Prop where
  | bool : IsBlank (.bool false)
  | int : IsBlank (.int 0)
  | float (negative : Bool) (unit : Nat) : IsBlank (.float (.finite negative 0 unit))
  | text : IsBlank (.text "")
  | bytes : IsBlank (.bytes [])
  | list : IsBlank (.list [])
  | tuple : IsBlank (.tuple [])
  | set : IsBlank (.set [])
  | frozenset : IsBlank (.frozenset [])

/-- What is read as a section, and the entries that it gives; blank values give none. -/
inductive IsReadAs : Option Value → List (Value × Value) → Prop where
  | meant {found : Option Value} {entries : List (Value × Value)} (h : IsSection found entries) :
      IsReadAs found entries
  | blank {value : Value} (h : value.IsBlank) : IsReadAs (some value) []

/-- A value that is refused as a section. -/
def IsNoSection (value : Value) : Prop := value.IsMalformed ∧ ¬value.IsBlank

/-- The entries that are read from what stands under the name of a section, or the value that is
refused. -/
def asSection (found : Option Value) : Except Value (List (Value × Value)) :=
  let value := found.getD .null
  if value.isTruthy && !value.isMap then .error value else .ok value.entries

variable {found : Option Value} {value other : Value} {entries : List (Value × Value)}

/-- The blank values are the malformed ones that count as false. -/
theorem isBlank_iff : value.IsBlank ↔ value.IsMalformed ∧ value.isTruthy = false := by
  constructor
  · intro h
    cases h <;> exact ⟨⟨by simp, by simp⟩, rfl⟩
  · rintro ⟨⟨hnull, hmap⟩, hfalse⟩
    cases value with
    | null => exact absurd rfl hnull
    | bool value =>
        obtain rfl : value = false := hfalse
        exact .bool
    | int value =>
        obtain rfl : value = 0 := by simpa [isTruthy] using hfalse
        exact .int
    | float value =>
        cases value with
        | finite negative significand unit =>
            obtain rfl : significand = 0 := by simpa [isTruthy, Binary64.isZero] using hfalse
            exact .float negative unit
        | _ => cases hfalse
    | text value =>
        obtain rfl : value = "" := by simpa [isTruthy] using hfalse
        exact .text
    | bytes value =>
        obtain rfl : value = [] := by simpa [isTruthy] using hfalse
        exact .bytes
    | list items =>
        obtain rfl : items = [] := by simpa [isTruthy] using hfalse
        exact .list
    | tuple items =>
        obtain rfl : items = [] := by simpa [isTruthy] using hfalse
        exact .tuple
    | set members =>
        obtain rfl : members = [] := by simpa [isTruthy] using hfalse
        exact .set
    | frozenset members =>
        obtain rfl : members = [] := by simpa [isTruthy] using hfalse
        exact .frozenset
    | map entries => exact absurd rfl (hmap entries)
    | date | stamp | effect | segment => cases hfalse

theorem IsMalformed.isMap_eq_false (h : value.IsMalformed) : value.isMap = false := by
  cases value with
  | map entries => exact absurd rfl (h.2 entries)
  | _ => rfl

theorem asSection_of_isReadAs (h : IsReadAs found entries) : asSection found = .ok entries := by
  cases h with
  | meant h =>
      cases h with
      | absent => rfl
      | null => rfl
      | map => simp [asSection, isMap, Value.entries]
  | blank h => cases h <;> rfl

theorem asSection_of_isNoSection (h : value.IsNoSection) :
    asSection (some value) = .error value := by
  obtain ⟨malformed, hblank⟩ := h
  have htruthy : value.isTruthy = true := by
    by_contra hfalse
    exact hblank (isBlank_iff.2 ⟨malformed, Bool.eq_false_iff.2 hfalse⟩)
  simp [asSection, htruthy, malformed.isMap_eq_false]

/-- What stands under a name is read as a section or refused. -/
theorem isReadAs_or_isNoSection (found : Option Value) :
    (∃ entries, IsReadAs found entries) ∨ ∃ value, found = some value ∧ value.IsNoSection := by
  cases found with
  | none => exact .inl ⟨[], .meant .absent⟩
  | some value =>
      by_cases hblank : value.IsBlank
      · exact .inl ⟨[], .blank hblank⟩
      · cases value with
        | null => exact .inl ⟨[], .meant .null⟩
        | map entries => exact .inl ⟨entries, .meant (.map entries)⟩
        | _ => exact .inr ⟨_, rfl, ⟨by simp, by simp⟩, hblank⟩

theorem IsNoSection.not_isReadAs (h : value.IsNoSection) (entries : List (Value × Value)) :
    ¬IsReadAs (some value) entries := by
  intro hread
  have hok := asSection_of_isReadAs hread
  rw [asSection_of_isNoSection h] at hok
  cases hok

theorem asSection_eq_ok_iff : asSection found = .ok entries ↔ IsReadAs found entries := by
  refine ⟨fun h => ?_, asSection_of_isReadAs⟩
  rcases isReadAs_or_isNoSection found with ⟨others, hread⟩ | ⟨value, rfl, hno⟩
  · rw [asSection_of_isReadAs hread] at h
    cases h
    exact hread
  · rw [asSection_of_isNoSection hno] at h
    cases h

theorem asSection_eq_error_iff :
    asSection found = .error value ↔ found = some value ∧ value.IsNoSection := by
  constructor
  · intro h
    rcases isReadAs_or_isNoSection found with ⟨entries, hread⟩ | ⟨other, rfl, hno⟩
    · rw [asSection_of_isReadAs hread] at h
      cases h
    · rw [asSection_of_isNoSection hno] at h
      cases h
      exact ⟨rfl, hno⟩
  · rintro ⟨rfl, hno⟩
    exact asSection_of_isNoSection hno

end Value

variable {document bound sets : List (Value × Value)} {name : String}

/-! ## Environments -/

namespace Environment

variable {fault : EnvironmentFault} {environment : Environment}

theorem sectionOf_eq_asSection (name : String) (document : List (Value × Value)) :
    sectionOf name document =
      (Value.asSection (Value.lookup name document)).mapError (.badSection name) := by
  unfold sectionOf Value.asSection
  dsimp only
  split <;> rfl

theorem sectionOf_eq_ok_iff {entries : List (Value × Value)} :
    sectionOf name document = .ok entries ↔
      Value.IsReadAs (Value.lookup name document) entries := by
  rw [sectionOf_eq_asSection, Fold.mapError_eq_ok_iff, Value.asSection_eq_ok_iff]

theorem sectionOf_eq_error_iff :
    sectionOf name document = .error fault ↔
      ∃ value, (Value.lookup name document = some value ∧ value.IsNoSection) ∧
        fault = .badSection name value := by
  rw [sectionOf_eq_asSection, Fold.mapError_eq_error_iff]
  simp only [Value.asSection_eq_error_iff]

/-- The keys of a document that are the name of no section. -/
def otherKeys (document : List (Value × Value)) : List Value :=
  (document.map Prod.fst).filter (!isSectionName ·)

/-- All keys of a document are the names of sections. -/
def HasKnownKeys (document : List (Value × Value)) : Prop :=
  ∀ entry ∈ document, entry.1 = .text "variables" ∨ entry.1 = .text "sets"

theorem isSectionName_iff {key : Value} :
    isSectionName key = true ↔ key = .text "variables" ∨ key = .text "sets" := by
  cases key <;> simp [isSectionName]

theorem otherKeys_eq_nil_iff : otherKeys document = [] ↔ HasKnownKeys document := by
  simp only [otherKeys, List.filter_eq_nil_iff, List.forall_mem_map, Bool.not_eq_true',
    Bool.not_eq_false, isSectionName_iff]
  rfl

/-- What is wrong with a document of an environment. -/
inductive IsRefused (document : List (Value × Value)) : EnvironmentFault → Prop where
  | hiddenKey {key : Value} (other : key ∈ otherKeys document) (h : ¬key.isWritable) :
      IsRefused document .unwritable
  | otherKey (h : ¬HasKnownKeys document) (shown : ∀ key ∈ otherKeys document, key.isWritable) :
      IsRefused document (.unknownSections (otherKeys document))
  | bindings {value : Value} (known : HasKnownKeys document)
      (found : Value.lookup "variables" document = some value) (h : value.IsNoSection) :
      IsRefused document (.badSection "variables" value)
  | members {bound : List (Value × Value)} {value : Value} (known : HasKnownKeys document)
      (read : Value.IsReadAs (Value.lookup "variables" document) bound)
      (found : Value.lookup "sets" document = some value) (h : value.IsNoSection) :
      IsRefused document (.badSection "sets" value)
  | entry {bound sets : List (Value × Value)} {fault : EnvironmentFault}
      (known : HasKnownKeys document)
      (bindings : Value.IsReadAs (Value.lookup "variables" document) bound)
      (members : Value.IsReadAs (Value.lookup "sets" document) sets)
      (h : build bound sets = .error fault) : IsRefused document fault

theorem ofDocument_of_hidden {key : Value} (other : key ∈ otherKeys document)
    (h : ¬key.isWritable) : ofDocument (.map document) = .error .unwritable := by
  have hunwritable : Value.areWritable (otherKeys document) = false :=
    (Value.areWritable_eq_false_iff _).2 ⟨key, other, h⟩
  rw [otherKeys] at hunwritable
  simp only [ofDocument, hunwritable]
  rfl

theorem ofDocument_of_shown (h : ¬HasKnownKeys document)
    (shown : ∀ key ∈ otherKeys document, key.isWritable) :
    ofDocument (.map document) = .error (.unknownSections (otherKeys document)) := by
  have hwritable := (Value.areWritable_iff _).2 shown
  have hsome : (otherKeys document).isEmpty = false := by
    simpa [otherKeys_eq_nil_iff] using h
  rw [otherKeys] at hwritable hsome ⊢
  simp only [ofDocument, hwritable, hsome]
  rfl

theorem ofDocument_of_known (known : HasKnownKeys document) :
    ofDocument (.map document) =
      (sectionOf "variables" document >>= fun bound =>
        sectionOf "sets" document >>= fun sets => build bound sets) := by
  rw [← otherKeys_eq_nil_iff, otherKeys] at known
  simp only [ofDocument, known]
  rfl

/-- A document with other keys than its sections is refused for them. -/
theorem exists_isRefused_of_not_hasKnownKeys (h : ¬HasKnownKeys document) :
    ∃ fault, ofDocument (.map document) = .error fault ∧ IsRefused document fault := by
  by_cases shown : ∀ key ∈ otherKeys document, key.isWritable
  · exact ⟨_, ofDocument_of_shown h shown, .otherKey h shown⟩
  · obtain ⟨key, hkey, hidden⟩ : ∃ key ∈ otherKeys document, ¬key.isWritable := by
      simpa using shown
    exact ⟨_, ofDocument_of_hidden hkey hidden, .hiddenKey hkey hidden⟩

/-- An environment document is refused for one thing. -/
theorem ofDocument_eq_error_iff :
    ofDocument (.map document) = .error fault ↔ IsRefused document fault := by
  constructor
  · intro h
    by_cases known : HasKnownKeys document
    · -- The sections are read in their order, and the entries after both.
      rw [ofDocument_of_known known, Fold.bind_eq_error_iff] at h
      rcases h with h | ⟨bound, hbound, h⟩
      · obtain ⟨value, ⟨found, hno⟩, rfl⟩ := sectionOf_eq_error_iff.1 h
        exact .bindings known found hno
      · rw [sectionOf_eq_ok_iff] at hbound
        rcases Fold.bind_eq_error_iff.1 h with h | ⟨sets, hsets, h⟩
        · obtain ⟨value, ⟨found, hno⟩, rfl⟩ := sectionOf_eq_error_iff.1 h
          exact .members known hbound found hno
        · exact .entry known hbound (sectionOf_eq_ok_iff.1 hsets) h
    · obtain ⟨other, hother, hrefused⟩ := exists_isRefused_of_not_hasKnownKeys known
      rw [hother] at h
      cases h
      exact hrefused
  · intro h
    cases h with
    | hiddenKey other hidden => exact ofDocument_of_hidden other hidden
    | otherKey hsome shown => exact ofDocument_of_shown hsome shown
    | bindings known found hno =>
        rw [ofDocument_of_known known, Fold.bind_eq_error_iff]
        exact .inl (sectionOf_eq_error_iff.2 ⟨_, ⟨found, hno⟩, rfl⟩)
    | members known read found hno =>
        rw [ofDocument_of_known known, Fold.bind_eq_error_iff]
        refine .inr ⟨_, sectionOf_eq_ok_iff.2 read, Fold.bind_eq_error_iff.2 (.inl ?_)⟩
        exact sectionOf_eq_error_iff.2 ⟨_, ⟨found, hno⟩, rfl⟩
    | entry known bindings members hbuild =>
        rw [ofDocument_of_known known, sectionOf_eq_ok_iff.2 bindings,
          sectionOf_eq_ok_iff.2 members]
        exact hbuild

/-- An environment is built from what is read as its sections. -/
theorem ofDocument_eq_ok_iff :
    ofDocument (.map document) = .ok environment ↔
      HasKnownKeys document ∧
        ∃ bound sets, Value.IsReadAs (Value.lookup "variables" document) bound ∧
          Value.IsReadAs (Value.lookup "sets" document) sets ∧
            build bound sets = .ok environment := by
  by_cases known : HasKnownKeys document
  · simp only [ofDocument_of_known known, Fold.bind_eq_ok_iff, sectionOf_eq_ok_iff, known, true_and]
    constructor
    · rintro ⟨bound, hbound, sets, hsets, h⟩
      exact ⟨bound, sets, hbound, hsets, h⟩
    · rintro ⟨bound, sets, hbound, hsets, h⟩
      exact ⟨bound, hbound, sets, hsets, h⟩
  · obtain ⟨fault, hfault, -⟩ := exists_isRefused_of_not_hasKnownKeys known
    simp [hfault, known]

/-- With other keys, or with a section that is refused, an environment document is invalid, if
its keys have texts. -/
theorem exists_fault_of_not_known_or_isNoSection
    (shown : ∀ entry ∈ document, entry.1.isWritable)
    (h : ¬HasKnownKeys document ∨ ∃ name ∈ ["variables", "sets"], ∃ value,
      Value.lookup name document = some value ∧ value.IsNoSection) :
    ∃ fault, fault ≠ .unwritable ∧ ofDocument (.map document) = .error fault := by
  simp only [ofDocument_eq_error_iff]
  by_cases known : HasKnownKeys document
  · rcases h with hsome | ⟨name, hname, value, found, hno⟩
    · exact absurd known hsome
    · rcases Value.isReadAs_or_isNoSection (Value.lookup "variables" document) with
        ⟨bound, hread⟩ | ⟨first, hfirst, hrefused⟩
      · -- The first section is read, so it is the second one that is refused.
        simp only [List.mem_cons, List.not_mem_nil, or_false] at hname
        rcases hname with rfl | rfl
        · rw [found] at hread
          exact absurd hread (hno.not_isReadAs bound)
        · exact ⟨_, by simp, .members known hread found hno⟩
      · exact ⟨_, by simp, .bindings known hfirst hrefused⟩
  · refine ⟨_, by simp, .otherKey known fun key hkey => ?_⟩
    obtain ⟨entry, hentry, rfl⟩ := List.mem_map.1 (List.mem_filter.1 hkey).1
    exact shown entry hentry

end Environment

/-! ## Settings -/

namespace Settings

variable {error : LoadError} {settings : Settings}

theorem sectionOf_eq_asSection (name : String) (document : List (Value × Value)) :
    sectionOf name document =
      (Value.asSection (Value.lookup name document)).mapError (.badSection name) := by
  unfold sectionOf Value.asSection
  dsimp only
  split <;> rfl

theorem sectionOf_eq_ok_iff {entries : List (Value × Value)} :
    sectionOf name document = .ok entries ↔
      Value.IsReadAs (Value.lookup name document) entries := by
  rw [sectionOf_eq_asSection, Fold.mapError_eq_ok_iff, Value.asSection_eq_ok_iff]

theorem sectionOf_eq_error_iff :
    sectionOf name document = .error error ↔
      ∃ value, (Value.lookup name document = some value ∧ value.IsNoSection) ∧
        error = .badSection name value := by
  rw [sectionOf_eq_asSection, Fold.mapError_eq_error_iff]
  simp only [Value.asSection_eq_error_iff]

/-- What is wrong with a document of settings. -/
inductive IsRefused (document : List (Value × Value)) : LoadError → Prop where
  | logging {value : Value} (found : Value.lookup "logging" document = some value)
      (h : value.IsNoSection) : IsRefused document (.badSection "logging" value)
  | environment {logging : List (Value × Value)} {value : Value}
      (read : Value.IsReadAs (Value.lookup "logging" document) logging)
      (found : Value.lookup "environment" document = some value) (h : value.IsNoSection) :
      IsRefused document (.badSection "environment" value)

/-- A settings document is refused for one of its sections. -/
theorem ofDocument_eq_error_iff :
    ofDocument document = .error error ↔ IsRefused document error := by
  unfold ofDocument
  rw [Fold.bind_eq_error_iff]
  constructor
  · rintro (h | ⟨logging, hlogging, h⟩)
    · obtain ⟨value, ⟨found, hno⟩, rfl⟩ := sectionOf_eq_error_iff.1 h
      exact .logging found hno
    · rcases Fold.bind_eq_error_iff.1 h with h | ⟨environment, -, h⟩
      · obtain ⟨value, ⟨found, hno⟩, rfl⟩ := sectionOf_eq_error_iff.1 h
        exact .environment (sectionOf_eq_ok_iff.1 hlogging) found hno
      · cases h
  · intro h
    cases h with
    | logging found hno => exact .inl (sectionOf_eq_error_iff.2 ⟨_, ⟨found, hno⟩, rfl⟩)
    | environment read found hno =>
        refine .inr ⟨_, sectionOf_eq_ok_iff.2 read, Fold.bind_eq_error_iff.2 (.inl ?_)⟩
        exact sectionOf_eq_error_iff.2 ⟨_, ⟨found, hno⟩, rfl⟩

/-- Settings have what is read as their sections. -/
theorem ofDocument_eq_ok_iff :
    ofDocument document = .ok settings ↔
      ∃ logging, Value.IsReadAs (Value.lookup "logging" document) logging ∧
        settings.logging = .ofEntries logging ∧
          Value.IsReadAs (Value.lookup "environment" document) settings.environment := by
  unfold ofDocument
  simp only [Fold.bind_eq_ok_iff, sectionOf_eq_ok_iff]
  constructor
  · rintro ⟨logging, hlogging, environment, henvironment, h⟩
    cases h
    exact ⟨logging, hlogging, rfl, henvironment⟩
  · rintro ⟨logging, hlogging, hsettings, henvironment⟩
    exact ⟨logging, hlogging, settings.environment, henvironment, by rw [← hsettings]; rfl⟩

theorem exists_error_of_isNoSection
    (h : ∃ name ∈ ["logging", "environment"], ∃ value,
      Value.lookup name document = some value ∧ value.IsNoSection) :
    ∃ error, ofDocument document = .error error := by
  cases hdocument : ofDocument document with
  | error error => exact ⟨error, rfl⟩
  | ok settings =>
      -- Both sections of settings have been read.
      obtain ⟨logging, hlogging, -, henvironment⟩ := ofDocument_eq_ok_iff.1 hdocument
      obtain ⟨name, hname, value, found, hno⟩ := h
      simp only [List.mem_cons, List.not_mem_nil, or_false] at hname
      rcases hname with rfl | rfl
      · rw [found] at hlogging
        exact absurd hlogging (hno.not_isReadAs _)
      · rw [found] at henvironment
        exact absurd henvironment (hno.not_isReadAs _)

end Settings

/-! ## Both readers -/

/-- Each reader of documents says exactly what it refuses, and otherwise takes what is read as
the sections: a mapping, nothing for null or for a section that is not there, and nothing for a
blank value, which is not meant to be there. Any other value under the name of a section, or a
key of an environment document that is the name of none, is refused; only for a key that has no
text the fault is another one. -/
theorem sections_refused_unless_blank (document : List (Value × Value)) :
    (∀ fault, Environment.ofDocument (.map document) = .error fault ↔
      Environment.IsRefused document fault) ∧
    (∀ environment, Environment.ofDocument (.map document) = .ok environment ↔
      Environment.HasKnownKeys document ∧
        ∃ bound sets, Value.IsReadAs (Value.lookup "variables" document) bound ∧
          Value.IsReadAs (Value.lookup "sets" document) sets ∧
            Environment.build bound sets = .ok environment) ∧
    (∀ error, Settings.ofDocument document = .error error ↔ Settings.IsRefused document error) ∧
    (∀ settings, Settings.ofDocument document = .ok settings ↔
      ∃ logging, Value.IsReadAs (Value.lookup "logging" document) logging ∧
        settings.logging = .ofEntries logging ∧
          Value.IsReadAs (Value.lookup "environment" document) settings.environment) ∧
    ((∀ entry ∈ document, entry.1.isWritable) →
      (¬Environment.HasKnownKeys document ∨ ∃ name ∈ ["variables", "sets"], ∃ value,
        Value.lookup name document = some value ∧ value.IsMalformed ∧ ¬value.IsBlank) →
      ∃ fault, fault ≠ .unwritable ∧ Environment.ofDocument (.map document) = .error fault) ∧
    ((∃ name ∈ ["logging", "environment"], ∃ value,
        Value.lookup name document = some value ∧ value.IsMalformed ∧ ¬value.IsBlank) →
      ∃ error, Settings.ofDocument document = .error error) := by
  refine ⟨?_, ?_, ?_, ?_, ?_, Settings.exists_error_of_isNoSection⟩
  · intro fault
    exact Environment.ofDocument_eq_error_iff
  · intro environment
    exact Environment.ofDocument_eq_ok_iff
  · intro error
    exact Settings.ofDocument_eq_error_iff
  · intro settings
    exact Settings.ofDocument_eq_ok_iff
  · intro shown h
    exact Environment.exists_fault_of_not_known_or_isNoSection shown h

/-- A truth value is no section of an environment, and a text is none of settings, unless they
count as false. -/
theorem sections_refused_of_text_and_truth_value :
    (∃ fault, fault ≠ .unwritable ∧
      Environment.ofDocument (.map [(.text "variables", .null), (.text "sets", .bool true)]) =
        .error fault) ∧
      ∃ error, Settings.ofDocument [(.text "logging", .text "DEBUG")] = .error error := by
  constructor
  · obtain ⟨-, -, -, -, hrefused, -⟩ :=
      sections_refused_unless_blank [(.text "variables", .null), (.text "sets", .bool true)]
    have hvalue : (Value.bool true).IsNoSection :=
      ⟨⟨by simp, by simp⟩, fun h => absurd (Value.isBlank_iff.1 h).2 (by decide)⟩
    exact hrefused (by simp) (.inr ⟨"sets", by simp, _, rfl, hvalue⟩)
  · obtain ⟨-, -, -, -, -, hrefused⟩ :=
      sections_refused_unless_blank [(.text "logging", .text "DEBUG")]
    have hvalue : (Value.text "DEBUG").IsNoSection :=
      ⟨⟨by simp, by simp⟩, fun h => absurd (Value.isBlank_iff.1 h).2 (by decide)⟩
    exact hrefused ⟨"logging", by simp, _, rfl, hvalue⟩

/-- An empty list is not meant to be a section, but both readers accept it. -/
theorem blank_sections_accepted :
    ¬((Value.list []).IsMalformed → ∃ fault, fault ≠ .unwritable ∧
        Environment.ofDocument (.map [(.text "variables", .list [])]) = .error fault) ∧
      ¬((Value.list []).IsMalformed → ∃ error,
        Settings.ofDocument [(.text "logging", .list [])] = .error error) := by
  have malformed : (Value.list []).IsMalformed := ⟨by simp, by simp⟩
  refine ⟨fun claimed => ?_, fun claimed => ?_⟩
  · obtain ⟨fault, -, hfault⟩ := claimed malformed
    cases hfault
  · obtain ⟨error, herror⟩ := claimed malformed
    cases herror

end RoleAccess

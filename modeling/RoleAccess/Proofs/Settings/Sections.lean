import RoleAccess.Proofs.Fold
import RoleAccess.Settings.Basic

/-!
# Sections of an expanded document

The environment section of a settings document is the same after expansion
(`lookup_expandDocument_environment`), and any other section is the expansion of the one
that was written (`lookup_expandDocument`). Whether that can be a section is not changed by
expansion unless it is a text (`isSection_expand`). A document is read as settings if both
sections are mappings or count as false, and then its logging section has been expanded and
its environment section has not (`ofDocument_expandDocument_eq_ok_iff`).
-/

namespace RoleAccess.Settings

variable {process : Table String String} {document : List (Value × Value)} {name : String}

/-- Policy data is not expanded. -/
theorem lookup_expandDocument_environment (process : Table String String)
    (document : List (Value × Value)) :
    Value.lookup "environment" (expandDocument process document) =
      Value.lookup "environment" document := by
  induction document with
  | nil => rfl
  | cons entry rest ih =>
      obtain ⟨key, value⟩ := entry
      show Value.lookup "environment" (_ :: expandDocument process rest) = _
      cases key with
      | text name =>
          by_cases hname : name = "environment"
          · simp [Value.lookup, isVerbatim, hname]
          · simp only [Value.lookup, hname, if_false, ih]
      | _ => exact ih

/-- Any other section is expanded. -/
theorem lookup_expandDocument (process : Table String String)
    (document : List (Value × Value)) (hname : name ≠ "environment") :
    Value.lookup name (expandDocument process document) =
      (Value.lookup name document).map (expand process) := by
  induction document with
  | nil => rfl
  | cons entry rest ih =>
      obtain ⟨key, value⟩ := entry
      show Value.lookup name (_ :: expandDocument process rest) = _
      cases key with
      | text key =>
          by_cases hkey : key = name
          · subst hkey
            simp [Value.lookup, isVerbatim, hname]
          · simp only [Value.lookup, hkey, if_false, ih]
      | _ => exact ih

theorem sectionOf_expandDocument_environment (process : Table String String)
    (document : List (Value × Value)) :
    sectionOf "environment" (expandDocument process document) =
      sectionOf "environment" document := by
  unfold sectionOf
  rw [lookup_expandDocument_environment]

/-- Whether a value can be a section does not depend on the process unless it is a text. -/
theorem isSection_expand {value : Value} (htext : ∀ text, value ≠ .text text) :
    ((expand process value).isTruthy && !(expand process value).isMap) =
      (value.isTruthy && !value.isMap) := by
  cases value with
  | text text => exact absurd rfl (htext text)
  | list items => cases items <;> rfl
  | map entries => simp [expand, Value.isMap]
  | _ => rfl

/-- A section is a mapping or counts as false. -/
theorem exists_sectionOf_eq_ok_iff :
    (∃ entries, sectionOf name document = .ok entries) ↔
      (((Value.lookup name document).getD .null).isTruthy &&
        !((Value.lookup name document).getD .null).isMap) = false := by
  unfold sectionOf
  dsimp only
  split
  · next h => simp [h]
  · next h => simp [h]

theorem sectionOf_eq_error_cases {error : LoadError} (h : sectionOf name document = .error error) :
    ∃ value, error = .badSection name value := by
  unfold sectionOf at h
  dsimp only at h
  split at h
  · cases h
    exact ⟨_, rfl⟩
  · cases h

theorem ofDocument_eq_error_cases {error : LoadError} (h : ofDocument document = .error error) :
    ∃ name value, error = .badSection name value := by
  rcases Fold.bind_eq_error_iff.1 h with h | ⟨logging, -, h⟩
  · exact ⟨_, sectionOf_eq_error_cases h⟩
  · rcases Fold.bind_eq_error_iff.1 h with h | ⟨environment, -, h⟩
    · exact ⟨_, sectionOf_eq_error_cases h⟩
    · cases h

/-- The settings in a document, with its environment section as it was written. -/
theorem ofDocument_expandDocument_eq_ok_iff {settings : Settings} :
    ofDocument (expandDocument process document) = .ok settings ↔
      ∃ logging environment,
        sectionOf "logging" (expandDocument process document) = .ok logging ∧
          sectionOf "environment" document = .ok environment ∧
          settings = ⟨.ofEntries logging, environment⟩ := by
  unfold ofDocument
  rw [sectionOf_expandDocument_environment, Fold.bind_eq_ok_iff]
  constructor
  · rintro ⟨logging, hlogging, h⟩
    obtain ⟨environment, henvironment, h⟩ := Fold.bind_eq_ok_iff.1 h
    cases h
    exact ⟨logging, environment, hlogging, henvironment, rfl⟩
  · rintro ⟨logging, environment, hlogging, henvironment, rfl⟩
    exact ⟨logging, hlogging, Fold.bind_eq_ok_iff.2 ⟨environment, henvironment, rfl⟩⟩

end RoleAccess.Settings

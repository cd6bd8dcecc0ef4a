import RoleAccess.Command
import RoleAccess.Proofs.Files.Tree
import RoleAccess.Proofs.Settings.Sections

/-!
# What a run is configured with

A settings file has to be a mapping whose two sections are mappings too. Its logging section
is read with the variables of the process in place of their references, its environment
section as it was written (`Configured.file`); without a settings file the settings are the
default ones (`Configured.default`). These are the only two ways to settings
(`loadSettings_eq_ok_iff`).
-/

namespace RoleAccess

open Files (Tree)

namespace Command

variable {read : Reader} {situation : Situation} {settings : Settings} {error : LoadError}

/-- The settings of a run: those in its settings file, or the default ones if there is no such
file. -/
inductive Configured (read : Reader) (situation : Situation) : Settings → Prop where
  | default (h : situation.files.Lacks (Settings.defaultPath situation.process)) :
      Configured read situation {}
  | file {document logging environment : List (Value × Value)}
      (hload : situation.files.loadMap read .configuration
        (Settings.defaultPath situation.process) = .ok document)
      (hlogging : Settings.sectionOf "logging"
        (Settings.expandDocument situation.process document) = .ok logging)
      (henvironment : Settings.sectionOf "environment" document = .ok environment) :
      Configured read situation ⟨.ofEntries logging, environment⟩

theorem load_eq_bind (read : Reader) (situation : Situation) :
    Settings.load read situation.files situation.process none =
      (situation.files.loadMap read .configuration (Settings.defaultPath situation.process) >>=
        fun document => Settings.ofDocument
          (Settings.expandDocument situation.process document)) := by
  unfold Settings.load Settings.loadDocument Settings.pathOr
  dsimp only
  cases situation.files.loadMap read .configuration (Settings.defaultPath situation.process) <;>
    rfl

/-- Settings are missing exactly if there is nothing at their path. -/
theorem load_eq_notFound_iff {subject : Subject} {path : String} :
    Settings.load read situation.files situation.process none =
        .error (.notFound subject path) ↔
      situation.files.loadMap read .configuration (Settings.defaultPath situation.process) =
        .error (.notFound subject path) := by
  rw [load_eq_bind, Fold.bind_eq_error_iff]
  constructor
  · rintro (h | ⟨document, -, h⟩)
    · exact h
    · obtain ⟨name, value, heq⟩ := Settings.ofDocument_eq_error_cases h
      cases heq
  · exact .inl

theorem loadSettings_eq_ok_iff :
    loadSettings read situation = .ok settings ↔ Configured read situation settings := by
  constructor
  · intro h
    unfold loadSettings at h
    split at h
    · next subject path hnone =>
        cases h
        exact .default (Files.Tree.loadMap_eq_notFound_iff.1 (load_eq_notFound_iff.1 hnone)).1
    · rw [load_eq_bind] at h
      obtain ⟨document, hload, h⟩ := Fold.bind_eq_ok_iff.1 h
      obtain ⟨logging, environment, hlogging, henvironment, rfl⟩ :=
        Settings.ofDocument_expandDocument_eq_ok_iff.1 h
      exact .file hload hlogging henvironment
  · intro h
    cases h with
    | default hlacks =>
        have hnone : Settings.load read situation.files situation.process none =
            .error (.notFound .configuration (Settings.defaultPath situation.process)) :=
          load_eq_notFound_iff.2 (Files.Tree.loadMap_eq_notFound_iff.2 ⟨hlacks, rfl, rfl⟩)
        unfold loadSettings
        rw [hnone]
    | @file document logging environment hload hlogging henvironment =>
        have hsome : Settings.load read situation.files situation.process none =
            .ok ⟨.ofEntries logging, environment⟩ := by
          rw [load_eq_bind]
          exact Fold.bind_eq_ok_iff.2 ⟨document, hload,
            Settings.ofDocument_expandDocument_eq_ok_iff.2
              ⟨logging, environment, hlogging, henvironment, rfl⟩⟩
        unfold loadSettings
        rw [hsome]

end Command

end RoleAccess

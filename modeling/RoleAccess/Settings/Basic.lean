import RoleAccess.Files.Loading
import RoleAccess.Settings.Expansion

/-!
# Settings

Settings come from a document with two sections, both of which may be left out:
`logging`, and `environment`, which holds policy data. What counts as false
counts as an empty section, and anything else has to be a mapping. The values of
the logging section are taken as they are, and examined when logging is set up.
-/

namespace RoleAccess

/-- How a run logs, as it was written. -/
structure LoggingSettings where
  level : Value := .text "INFO"
  directory : Value := .text "/var/log/rolegate"
  toFile : Value := .bool false
  toConsole : Value := .bool true

/-- The settings of a run. -/
structure Settings where
  logging : LoggingSettings := {}
  /-- The entries of the environment section. -/
  environment : List (Value × Value) := []

/-- The logging settings in a mapping; what is not there has its default. -/
def LoggingSettings.ofEntries (entries : List (Value × Value)) : LoggingSettings where
  level := (Value.lookup "level" entries).getD (.text "INFO")
  directory := (Value.lookup "log_dir" entries).getD (.text "/var/log/rolegate")
  toFile := (Value.lookup "file_logging" entries).getD (.bool false)
  toConsole := (Value.lookup "console_logging" entries).getD (.bool true)

namespace Settings

/-- A section of a settings document. -/
def sectionOf (name : String) (document : List (Value × Value)) :
    Except LoadError (List (Value × Value)) :=
  let value := (Value.lookup name document).getD .null
  if value.isTruthy && !value.isMap then .error (.badSection name value) else .ok value.entries

/-- The settings in a document. -/
def ofDocument (document : List (Value × Value)) : Except LoadError Settings := do
  let logging ← sectionOf "logging" document
  let environment ← sectionOf "environment" document
  return ⟨.ofEntries logging, environment⟩

/-- The process variable that may give the path of the settings file. -/
def pathVariable : String := "ROLEGATE_CONFIG"

/-- The path of the settings file: given by a process variable, or the one of the
system. -/
def defaultPath (process : Table String String) : String :=
  (process.get? pathVariable).getD "/etc/rolegate/config.yaml"

/-- The path that settings are loaded from; an empty path counts as none. -/
def pathOr (path : Option String) (process : Table String String) : String :=
  match path with
  | none | some "" => defaultPath process
  | some path => path

/-- The document of the settings file, with its values expanded. -/
def loadDocument (read : Reader) (files : Files.Tree) (process : Table String String)
    (path : Option String) : Except LoadError (List (Value × Value)) :=
  (files.loadMap read .configuration (pathOr path process)).map (expandDocument process)

/-- The settings in the settings file. -/
def load (read : Reader) (files : Files.Tree) (process : Table String String)
    (path : Option String) : Except LoadError Settings := do
  ofDocument (← loadDocument read files process path)

end Settings

end RoleAccess

import RoleAccess.Log.Loggers
import RoleAccess.Settings.Basic

/-!
# The command line

A run is given a policy file, a role and a path, and perhaps an environment
file. It loads its settings, sets logging up, builds the checker of the policy
and answers whether the role may access the path, on the standard output and by
its exit code. The environment is that of the environment file, if one is given,
and otherwise the one in the settings; the one in the settings has to be valid
in any case. How a document is read from its text is given to the run.

A run that cannot be carried out ends with exit code 2 and a message on the
standard error. Files that are there but have no text, and documents that end
their reader in another way than by being none, are not among the causes that a
run reports; such an error ends the run without an exit code of its own.
-/

namespace RoleAccess.Command

/-- What a run sees of the world. -/
structure Situation where
  arguments : List String
  files : Files.Tree := {}
  process : Table String String := Table.empty

/-- An error that a run does not report. -/
inductive Escape where
  | load (error : LoadError)
  | setup (error : Log.SetupError)
  | kind (kind : UnknownKind)

/-- The wording of an error that a run does not report. -/
def Escape.message : Escape → String
  | load error => error.message
  | setup error => error.message
  | kind unknown => unknown.message

/-- How a run ends. -/
inductive Ending where
  | exit (code : Nat)
  | escaped (error : Escape)

/-- What a run leaves behind. -/
structure Completion where
  ending : Ending
  output : String := ""
  errors : String := ""
  files : Files.Tree

/-- The exit code of a run whose answer is that access is allowed. -/
def exitAllowed : Nat := 0

/-- The exit code of a run whose answer is that access is denied. -/
def exitDenied : Nat := 1

/-- The exit code of a run without an answer. -/
def exitFailed : Nat := 2

/-- How to call the program. -/
def usage : String :=
  "Usage: python -m src.policy <policy-file> <role> <path> [<environment.yaml>]"

/-- The name of the logger that is set up. -/
def loggerName : String := "rolegate"

/-- The logger of this module. -/
def logger : String := "rolegate.cli"

/-- The arguments of a run. -/
structure Request where
  policy : String
  role : String
  path : String
  environment : Option String := none

/-- The request that arguments make, if they are as many as they should be. -/
def Request.ofArguments : List String → Option Request
  | [policy, role, path] => some { policy, role, path }
  | [policy, role, path, environment] =>
      some { policy, role, path, environment := some environment }
  | _ => none

/-- The paths that a request names. -/
def Request.paths (request : Request) : List String :=
  request.policy :: request.environment.toList

/-- The settings of a run; without a settings file there are the default ones. -/
def loadSettings (read : Reader) (situation : Situation) : Except LoadError Settings :=
  match Settings.load read situation.files situation.process none with
  | .error (.notFound ..) => .ok {}
  | result => result

/-- Whether an error in a settings file is reported. -/
def reportsSettings : LoadError → Bool
  | .badRoot .. | .badSection .. | .document (.fault _) => true
  | _ => false

/-- Whether an error while the checker is built is reported. -/
def reportsPolicy : LoadError → Bool
  | .policy (.environment .unwritable) => false
  | .policy _ | .notFound .. | .badRoot .. | .badSection .. | .document (.fault _) => true
  | .files _ | .noText _ | .document (.failure ..) => false

/-- Whether an error while logging is set up is reported. -/
def reportsSetup : Log.SetupError → Bool
  | .badDirectory _ | .noTemplate _ | .badSize _ => false
  | _ => true

/-- What logging is set up with. -/
def loggingOptions (settings : LoggingSettings) : Log.Options where
  level := settings.level
  directory := settings.directory
  toFile := settings.toFile
  toConsole := settings.toConsole

/-- The path of the log file that settings ask for. -/
def logPath? (settings : LoggingSettings) : Option String :=
  match settings.directory with
  | .text directory =>
      if settings.toFile.isTruthy then some (Files.joinPaths directory (loggerName ++ ".log"))
      else none
  | _ => none

/-- The place of the log file that settings ask for. -/
def logLocation? (settings : LoggingSettings) : Option Files.Location :=
  (logPath? settings).map Files.Tree.normalLocation

/-- The number of backups that are kept of a log file. -/
def logBackups (settings : LoggingSettings) : Nat :=
  (Log.backups? (loggingOptions settings).backupCount).getD 0

/-- The environment that a document describes. -/
def environmentOf (document : Value) : Log.Journal LoadError Environment :=
  .silent ((Environment.ofDocument document).mapError fun fault => .policy (.environment fault))

/-- The checker of a request, with the report of its construction. Reports may be
written to a file, so the files are those that there are after what has been
reported. -/
def buildReported (read : Reader) (request : Request) (settings : Settings)
    (filesAfter : List Log.Record → Files.Tree) : Log.Journal LoadError Checker := do
  let loading := Policy.loadReported filesAfter request.policy
  let checker ← loading
  let environment ← environmentOf (.map settings.environment)
  match request.environment with
  | none => return checker.withEnvironment environment
  | some path =>
      let document ←
        Log.Journal.silent (Environment.loadDocument read (filesAfter loading.records) path)
      return checker.withEnvironment (← environmentOf document)

/-- The answer to a request whose logging is set up. -/
def answer (read : Reader) (now : Log.Moment) (request : Request) (settings : Settings)
    (state : Log.State) : Completion :=
  let filesAfter (records : List Log.Record) := (state.log now records).1.files
  let journal := buildReported read request settings filesAfter
  let (state, errors) := state.log now journal.records
  match journal.outcome with
  | .error error =>
      if reportsPolicy error then
        let (state, more) := state.log now
          [⟨.error, logger, "Failed to build policy: " ++ error.message⟩]
        { ending := .exit exitFailed
          errors := errors ++ more ++ "Error: " ++ error.message ++ "\n"
          files := state.files }
      else { ending := .escaped (.load error), errors, files := state.files }
  | .ok checker =>
      let journal := checker.checkReported request.role (Path.segments request.path)
      let (state, more) := state.log now journal.records
      let errors := errors ++ more
      match journal.outcome with
      | .error kind => { ending := .escaped (.kind kind), errors, files := state.files }
      | .ok true =>
          { ending := .exit exitAllowed, output := "allow\n", errors, files := state.files }
      | .ok false =>
          { ending := .exit exitDenied, output := "deny\n", errors, files := state.files }

/-- Carries a request out. -/
def perform (read : Reader) (now : Log.Moment) (situation : Situation) (request : Request) :
    Completion :=
  let files := situation.files
  match loadSettings read situation with
  | .error error =>
      if reportsSettings error then
        { ending := .exit exitFailed
          errors := "Error: invalid configuration: " ++ error.message ++ "\n"
          files }
      else { ending := .escaped (.load error), files }
  | .ok settings =>
      match Log.State.setup { files } loggerName (loggingOptions settings.logging) with
      | (.error error, state) =>
          if reportsSetup error then
            { ending := .exit exitFailed
              errors := "Error: invalid logging configuration: " ++ error.message ++ "\n"
              files := state.files }
          else { ending := .escaped (.setup error), files := state.files }
      | (.ok (), state) => answer read now request settings state

/-- Runs the program at a moment, with a reader for documents. -/
def run (read : Reader) (now : Log.Moment) (situation : Situation) : Completion :=
  match Request.ofArguments situation.arguments with
  | none =>
      { ending := .exit exitFailed, errors := usage ++ "\n", files := situation.files }
  | some request => perform read now situation request

end RoleAccess.Command

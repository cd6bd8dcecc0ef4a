import RoleAccess.Files.Rollover
import RoleAccess.Log.Layout
import RoleAccess.Log.Lineage
import RoleAccess.Text.Capital
import RoleAccess.Value.Text

/-!
# Loggers

Loggers have names of parts with points between them, and stand below one
another accordingly (`Lineage`); all stand below the root logger. A logger may
have a level of its own, or go by the nearest one above it. A record passes if its
level is not below the one that counts for its logger; it then goes to the
handlers of that logger and of every logger above it. Where there is no handler at
all, the bare message of a warning or worse goes to the console.

Setting a logger up gives it the wanted level in any case, and handlers only if
it has none. The level is set before the handlers are made, and keeps its new
value if they cannot be made.

A handler for a file rolls the file over before a line that would bring it to its
greatest size. If that fails, the line is lost, and nothing else ends. No two
handlers of a state are meant to have one file.
-/

namespace RoleAccess.Log

/-- Where records go. -/
inductive Handler where
  | console (layout : Layout)
  | file (location : Files.Location) (maxBytes backupCount : Value) (layout : Layout)

/-- The layout of a handler. -/
def Handler.layout : Handler → Layout
  | .console layout => layout
  | .file _ _ _ layout => layout

/-- A logger: its own level, and its handlers in the order of their making. -/
structure Logger where
  level : Option Level := none
  handlers : List Handler := []

/-- The root logger to begin with. -/
def Logger.root : Logger := { level := some .warning }

/-- The loggers that have been set up, by name, and the lineage of all that are
known. -/
structure Registry where
  loggers : Table String Logger := Table.empty
  lineage : Lineage := {}

namespace Registry

/-- The name under which a logger is kept; the root logger has a name too. -/
def keyOf (name : String) : String := if name = "root" then "" else name

/-- The logger of a name. -/
def logger (registry : Registry) (name : String) : Logger :=
  let key := keyOf name
  (registry.loggers.get? key).getD (if key = "" then .root else {})

/-- Makes the logger of a name known. -/
def know (registry : Registry) (name : String) : Registry :=
  { registry with lineage := registry.lineage.add (keyOf name) }

/-- Replaces the logger of a name. -/
def put (registry : Registry) (name : String) (logger : Logger) : Registry :=
  { registry with loggers := registry.loggers.put (keyOf name) logger }

/-- The loggers that a name stands for and stands below, nearest first. -/
def chain (registry : Registry) (name : String) : List Logger :=
  (registry.lineage.chain (keyOf name)).map registry.logger

/-- The number of the level that counts for a logger. -/
def effectiveLevel (registry : Registry) (name : String) : Nat :=
  (((registry.chain name).filterMap Logger.level).head?.map Level.number).getD 0

/-- The handlers that a record of a logger goes to. -/
def handlersFor (registry : Registry) (name : String) : List Handler :=
  (registry.chain name).flatMap Logger.handlers

end Registry

/-- A piece of text written for a record. -/
inductive Output where
  | console (text : String)
  /-- Text for a file that is rolled over at a size and keeps a number of backups. -/
  | file (location : Files.Location) (maxBytes backupCount : Value) (text : String)

/-- What a handler writes for a record, if its layout has a line for it. -/
def Handler.output? (now : Moment) (record : Record) (handler : Handler) :
    Option Output :=
  (handler.layout.render? now record).map fun line =>
    match handler with
    | .console _ => .console (line ++ "\n")
    | .file location maxBytes backupCount _ =>
        .file location maxBytes backupCount (line ++ "\n")

/-- What the loggers write for a record that is made at a moment. -/
def Registry.outputs (registry : Registry) (now : Moment) (record : Record) :
    List Output :=
  if record.level.number < registry.effectiveLevel record.logger then []
  else
    match registry.handlersFor record.logger with
    | [] =>
        if record.level.number < Level.warning.number then []
        else [.console (record.message ++ "\n")]
    | handlers => handlers.filterMap (Handler.output? now record)

/-! ## Setting up -/

/-- Why a logger could not be set up. -/
inductive SetupError where
  /-- The value is not the name of a level. -/
  | badLevel (value : Value)
  /-- The value that should name a level has no text. -/
  | unwritableLevel
  /-- The template has no directive. -/
  | badTemplate (template : String)
  /-- The template is not a text. -/
  | noTemplate (value : Value)
  /-- The directory is not given by a text. -/
  | badDirectory (value : Value)
  /-- The greatest size of a file is not a number. -/
  | badSize (value : Value)
  | files (fault : Files.Fault)

/-- The wording of an error. -/
def SetupError.message : SetupError → String
  | .badLevel value =>
      "Invalid log level: " ++ value.plain ++ ". Must be one of: " ++
        ", ".intercalate (Level.all.map Level.name)
  | .unwritableLevel => Number.limitMessage none
  | .badTemplate template => "Invalid format '" ++ template ++ "' for '%' style"
  | .noTemplate value => "expected string or bytes-like object, got '" ++ value.typeName ++ "'"
  | .badSize value =>
      "'>' not supported between instances of '" ++ value.typeName ++ "' and 'int'"
  | .badDirectory value => "expected str, bytes or os.PathLike object, not " ++ value.typeName
  | .files fault => fault.message

/-- The level that a value names, in letters of either case. -/
def Level.ofValue (value : Value) : Except SetupError Level :=
  if !value.isWritable then .error .unwritableLevel
  else
    match Level.ofName? (Text.capitals value.plain) with
    | some level => .ok level
    | none => .error (.badLevel value)

/-- What a logger is set up with. -/
structure Options where
  level : Value := .text "INFO"
  directory : Value := .text "/var/log/rolegate"
  /-- The template for lines; what counts as false stands for the usual one. -/
  line : Value := .null
  /-- The template for the time; what counts as false stands for the usual one. -/
  date : Value := .null
  toFile : Value := .bool true
  toConsole : Value := .bool true
  maxBytes : Value := .int 10485760
  backupCount : Value := .int 5

/-- A value, or a text if the value counts as false. -/
def orText (value : Value) (text : String) : Value := if value.isTruthy then value else .text text

/-- The layout that options ask for. -/
def Options.layout (options : Options) : Except SetupError Layout :=
  match orText options.line Layout.standardLine with
  | .text line =>
      if Layout.hasDirective line.toList then
        .ok ⟨line, orText options.date Layout.standardDate⟩
      else .error (.badTemplate line)
  | value => .error (.noTemplate value)

/-- Whether a value can be compared with a number. -/
def isSize : Value → Bool
  | .bool _ | .int _ | .float _ => true
  | _ => false

/-! ## Writing -/

/-- Whether a size is not below a greatest size. Only one above zero counts. -/
def isReached (greatest : Value) (size : Nat) : Bool :=
  match greatest with
  | .bool value => value && 0 < size
  | .int value => 0 < value && value ≤ size
  | .float value => value.isReachedBy size
  | _ => false

/-- The number of backups that a value stands for; only whole numbers can count them,
but a number that is not above zero need not be whole. -/
def backups? : Value → Option Nat
  | .bool value => some value.toNat
  | .int value => some value.toNat
  | .float value => if value.isPositive then none else some 0
  | _ => none

/-- Whether a line would bring a file to its greatest size. -/
def isFilledBy (files : Files.Tree) (location : Files.Location) (maxBytes : Value)
    (text : String) : Bool :=
  match files.entryAt location with
  | some .directory => false
  | some (.file content) => isReached maxBytes (content.size + text.length)
  | none => isReached maxBytes text.length

/-- Writes a line to a file, which is rolled over first if the line would fill it. -/
def writeLine (files : Files.Tree) (location : Files.Location) (maxBytes backupCount : Value)
    (text : String) : Files.Tree :=
  if isFilledBy files location maxBytes text then
    match backups? backupCount with
    | none => files
    | some backups =>
        match files.rollOver location backups with
        | (.error _, files) => files
        | (.ok (), files) => files.append location text
  else files.append location text

/-- The loggers and the files that they write to. -/
structure State where
  registry : Registry := {}
  files : Files.Tree := {}

namespace State

/-- Makes the directory that a value gives, and before it the directories that it
is in. Bytes give one too, but no name can be put behind them. -/
def makeDirectories (files : Files.Tree) : Value → Except SetupError String × Files.Tree
  | .text directory =>
      let (outcome, files) := files.ensureDirectories directory
      ((outcome.mapError SetupError.files).map fun _ => directory, files)
  | .bytes bytes =>
      match String.fromUTF8? ⟨bytes.toArray⟩ with
      | none => (.error (.badDirectory (.bytes bytes)), files)
      | some directory =>
          let (outcome, files) := files.ensureDirectories directory
          (outcome.mapError SetupError.files >>= fun _ => .error (.badDirectory (.bytes bytes)),
            files)
  | value => (.error (.badDirectory value), files)

/-- Opens the log file of a logger, which has the logger's name, in a directory
that is made first. -/
def openLogFile (files : Files.Tree) (name : String) (options : Options) :
    Except SetupError Files.Location × Files.Tree :=
  match makeDirectories files options.directory with
  | (.error error, files) => (.error error, files)
  | (.ok directory, files) =>
      if !isSize options.maxBytes then (.error (.badSize options.maxBytes), files)
      else
        let location := Files.Tree.normalLocation (Files.joinPaths directory (name ++ ".log"))
        match files.openFile location with
        | .error fault => (.error (.files fault), files)
        | .ok files => (.ok location, files)

/-- Makes the handlers that options ask for, the one for the file first. -/
def makeHandlers (files : Files.Tree) (name : String) (options : Options) :
    Except SetupError (List Handler) × Files.Tree :=
  match options.layout with
  | .error error => (.error error, files)
  | .ok layout =>
      let console := if options.toConsole.isTruthy then [Handler.console layout] else []
      if options.toFile.isTruthy then
        match openLogFile files name options with
        | (.error error, files) => (.error error, files)
        | (.ok location, files) =>
            (.ok (.file location options.maxBytes options.backupCount layout :: console), files)
      else (.ok console, files)

/-- Makes the logger of a name known. -/
def know (state : State) (name : String) : State :=
  { state with registry := state.registry.know name }

/-- Replaces the logger of a name. -/
def putLogger (state : State) (name : String) (logger : Logger) : State :=
  { state with registry := state.registry.put name logger }

/-- Sets a logger up, which makes it known in any case. -/
def setup (state : State) (name : String) (options : Options) :
    Except SetupError Unit × State :=
  let state := state.know name
  match Level.ofValue options.level with
  | .error error => (.error error, state)
  | .ok level =>
      let logger := { state.registry.logger name with level := some level }
      let state := state.putLogger name logger
      if logger.handlers.isEmpty then
        match makeHandlers state.files name options with
        | (.error error, files) => (.error error, { state with files })
        | (.ok handlers, files) =>
            (.ok (), { state.putLogger name { logger with handlers } with files })
      else (.ok (), state)

/-- Writes a piece of text where it belongs; text for the console is returned. -/
def write (state : State) : Output → State × String
  | .console text => (state, text)
  | .file location maxBytes backupCount text =>
      ({ state with files := writeLine state.files location maxBytes backupCount text }, "")

/-- Writes pieces of text in order; returned is what the console gets. -/
def writeAll (state : State) : List Output → State × String
  | [] => (state, "")
  | output :: rest =>
      let (state, text) := state.write output
      let (state, more) := writeAll state rest
      (state, text ++ more)

/-- Logs records in order at a moment; returned is what the console gets. -/
def log (state : State) (now : Moment) (records : List Record) : State × String :=
  state.writeAll (records.flatMap (state.registry.outputs now))

end State

end RoleAccess.Log

import RoleAccess.Command
import RoleAccess.Yaml.Document
import Std.Time.Format

/-!
# The program

The outer layer of the command line. It reads what stands along the paths that a
run looks at, and the process variables that the settings refer to, hands both
to `Command.run` together with a reader for YAML, and carries the completion out:
what is no longer there is taken away, new and changed files are written, and then
the output and the errors. What is inside a directory that stands in the place of a
backup of the log file is not looked at, and such a directory cannot be moved.

An error that a run does not report is written to the standard error, and the
exit code is then 1.
-/

namespace RoleAccess.Main

open Command

/-- The reader of documents: they are in YAML. -/
def read : Reader := fun text =>
  (Yaml.read text).mapError fun
    | .fault fault => .fault fault.message
    | .unreadable cause => .failure cause.kind cause.message

/-- What stands at a path. -/
def entryAt (path : String) : IO (Option Files.Entry) := do
  try
    return some (.file (← IO.FS.readBinFile path))
  catch
    | .inappropriateType .. => return some .directory
    | _ => return none

/-- A tree with what stands along a path added to it. -/
def survey (tree : Files.Tree) (path : String) : IO Files.Tree := do
  let steps := Files.steps path
  let front := if (Files.start path).anchor = .root then "/" else ""
  (List.range steps.length).foldlM (fun tree count => do
    let part := front ++ "/".intercalate (steps.take (count + 1))
    match ← entryAt part with
    | some entry => return tree.put (Files.Tree.normalLocation part) entry
    | none => return tree) tree

/-- A table with the value of a process variable added to it. -/
def consult (process : Table String String) (name : String) : IO (Table String String) := do
  match ← IO.getEnv name with
  | some value => return process.put name value
  | none => return process

/-- The moment that a date and a time of day are. -/
def momentOf (now : Std.Time.PlainDateTime) : Log.Moment :=
  let part (form : String) := (form.toNat?).getD 0
  { year := part (now.format "uuuu"), month := part (now.format "MM")
    day := part (now.format "dd"), hour := part (now.format "HH")
    minute := part (now.format "mm"), second := part (now.format "ss") }

/-- What a run with the given arguments looks at. -/
def situationOf (arguments : List String) : IO Situation := do
  let process ← consult Table.empty Settings.pathVariable
  let files ← survey {} (Settings.defaultPath process)
  let names :=
    match files.loadMap read .configuration (Settings.defaultPath process) with
    | .ok entries => Settings.entryNames entries
    | .error _ => []
  let process ← names.foldlM consult process
  let logs :=
    match Settings.load read files process none with
    | .ok { logging, .. } =>
        (logLocation? logging).toList.flatMap fun location =>
          (location :: location.backups (logBackups logging)).map Files.Location.path
    | .error _ => []
  let requested := ((Request.ofArguments arguments).map Request.paths).getD []
  return { arguments, process, files := ← (requested ++ logs).foldlM survey files }

/-- Takes away what a run has moved, the inside of a directory before it. -/
def clear (before after : Files.Tree) : IO Unit :=
  before.entries.entries.reverse.forM fun (location, entry) =>
    match entry, after.entryAt location with
    | .directory, some .directory | .file _, some (.file _) => pure ()
    | .directory, _ => IO.FS.removeDir location.path
    | .file _, _ => IO.FS.removeFile location.path

/-- Writes the directories and files that a run has made or changed. -/
def store (before after : Files.Tree) : IO Unit :=
  after.entries.entries.forM fun (location, entry) =>
    match entry, before.entryAt location with
    | .directory, some .directory => pure ()
    | .directory, _ => IO.FS.createDirAll location.path
    | .file content, some (.file known) =>
        if content.data = known.data then pure () else IO.FS.writeBinFile location.path content
    | .file content, _ => IO.FS.writeBinFile location.path content

/-- Carries a completion out, and gives its exit code. -/
def conclude (before : Files.Tree) (completion : Completion) : IO UInt32 := do
  clear before completion.files
  store before completion.files
  IO.print completion.output
  IO.eprint completion.errors
  match completion.ending with
  | .exit code => return code.toUInt32
  | .escaped error =>
      IO.eprintln error.message
      return 1

end RoleAccess.Main

/-- Answers the request that the arguments make. -/
def main (arguments : List String) : IO UInt32 := do
  try
    let now := RoleAccess.Main.momentOf (← Std.Time.PlainDateTime.now)
    let situation ← RoleAccess.Main.situationOf arguments
    RoleAccess.Main.conclude situation.files
      (RoleAccess.Command.run RoleAccess.Main.read now situation)
  catch error =>
    IO.eprintln ("Error: " ++ toString error)
    return RoleAccess.Command.exitFailed.toUInt32

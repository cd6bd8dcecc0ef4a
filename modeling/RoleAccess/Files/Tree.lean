import RoleAccess.Table
import RoleAccess.Text.Lines
import RoleAccess.Text.Quoted

/-!
# File trees

A `Tree` holds the directories and files that a run can see. Paths are read one
component at a time from the working directory or from the root; a component
can only be followed inside a directory, a point stays where it is, and two
points go up. Nothing is known of the directories above the working directory
but that they are there. A component has at most 255 bytes, a path fewer than
4096, and neither holds a null character.
-/

namespace RoleAccess.Files

/-- Where a location is counted from. -/
inductive Anchor where
  | root
  /-- So many directories above the working directory. -/
  | working (above : Nat)
  deriving DecidableEq, Repr

/-- A place for a directory or a file: names below an anchor. -/
structure Location where
  anchor : Anchor := .working 0
  names : List String := []
  deriving DecidableEq, Repr

namespace Location

/-- The directory that a location is in. -/
def parent (location : Location) : Location :=
  match location.names, location.anchor with
  | [], .working above => ⟨.working (above + 1), []⟩
  | [], .root => location
  | names, anchor => ⟨anchor, names.dropLast⟩

/-- A name inside a directory. -/
def child (location : Location) (name : String) : Location :=
  { location with names := location.names ++ [name] }

/-- The path of a location. -/
def path (location : Location) : String :=
  match location.anchor with
  | .root => "/" ++ "/".intercalate location.names
  | .working above =>
      match List.replicate above ".." ++ location.names with
      | [] => "."
      | steps => "/".intercalate steps

end Location

/-- The components of a path; repeated slashes and a slash at the end add none. -/
def steps (path : String) : List String :=
  ((path.toList.splitOn '/').filter (!·.isEmpty)).map String.ofList

/-- The location that a path is counted from. -/
def start (path : String) : Location :=
  if path.toList.head? = some '/' then ⟨.root, []⟩ else {}

/-- A path counted from a directory. A path that starts at the root is counted from
there. -/
def joinPaths (directory path : String) : String :=
  if path.toList.head? = some '/' then path
  else if directory = "" || directory.toList.getLast? = some '/' then directory ++ path
  else directory ++ "/" ++ path

/-- A path as it is shown: without points, repeated slashes and a slash at the
end. Exactly two slashes at the start are kept. -/
def tidy (path : String) : String :=
  let shown := "/".intercalate ((steps path).filter (· ≠ "."))
  let slashes := (path.toList.takeWhile (· = '/')).length
  if slashes = 0 then (if shown = "" then "." else shown)
  else (if slashes = 2 then "//" else "/") ++ shown

/-- A directory, or a file with its bytes. -/
inductive Entry where
  | directory
  | file (content : ByteArray)

/-- Whether an entry is a directory. -/
def Entry.isDirectory : Entry → Bool
  | directory => true
  | file _ => false

/-- The directories and files that a run can see. -/
structure Tree where
  entries : Table Location Entry := Table.empty

/-- What can be wrong with using a path. -/
inductive Problem where
  | missing
  | exists
  | notDirectory
  | isDirectory
  | tooLong
  | nullCharacter
  deriving DecidableEq, Repr

/-- The number and the words of a problem. A null character is found before the
path is used, and has no number. -/
def Problem.words : Problem → Option Nat × String
  | missing => (some 2, "No such file or directory")
  | .exists => (some 17, "File exists")
  | notDirectory => (some 20, "Not a directory")
  | isDirectory => (some 21, "Is a directory")
  | tooLong => (some 36, "File name too long")
  | nullCharacter => (none, "embedded null byte")

/-- A problem and the path that has it. -/
structure Fault where
  problem : Problem
  path : String
  deriving DecidableEq, Repr

/-- The wording of a fault. -/
def Fault.message (fault : Fault) : String :=
  match fault.problem.words with
  | (none, words) => words
  | (some number, words) =>
      "[Errno " ++ toString number ++ "] " ++ words ++ ": " ++ Text.quoted fault.path

namespace Tree

/-- What is at a location. The anchors are directories. -/
def entryAt (tree : Tree) (location : Location) : Option Entry :=
  if location.names.isEmpty then some .directory else tree.entries.get? location

/-- Puts a directory or a file at a location. -/
def put (tree : Tree) (location : Location) (entry : Entry) : Tree :=
  if location.names.isEmpty then tree else ⟨tree.entries.put location entry⟩

/-- Follows components from a location. -/
def follow (tree : Tree) : Location → List String → Except Problem Location
  | here, [] => .ok here
  | here, step :: rest =>
      match tree.entryAt here with
      | none => .error .missing
      | some (.file _) => .error .notDirectory
      | some .directory =>
          if 255 < step.utf8ByteSize then .error .tooLong
          else
            follow tree
              (if step = "." then here else if step = ".." then here.parent else here.child step)
              rest

/-- The location that a path leads to, whether or not something is there. -/
def locate (tree : Tree) (path : String) : Except Problem Location :=
  if path.toList.contains '\x00' then .error .nullCharacter
  else if 4096 ≤ path.utf8ByteSize then .error .tooLong
  else tree.follow (start path) (steps path)

/-- What a path leads to. -/
def find? (tree : Tree) (path : String) : Option Entry :=
  match tree.locate path with
  | .ok location => tree.entryAt location
  | .error _ => none

/-- Whether a path leads to a directory or a file. -/
def contains (tree : Tree) (path : String) : Bool := (tree.find? path).isSome

/-- Whether a path leads to a directory. -/
def isDirectory (tree : Tree) (path : String) : Bool :=
  (tree.find? path).any Entry.isDirectory

/-! ## Making directories -/

/-- Makes one directory; the directory that it is in has to be there. -/
def makeDirectory (tree : Tree) (path : String) : Except Fault Tree :=
  if path = "" then .error ⟨.missing, path⟩
  else
    match tree.locate path with
    | .error problem => .error ⟨problem, path⟩
    | .ok location =>
        match tree.entryAt location with
        | some _ => .error ⟨.exists, path⟩
        | none => .ok (tree.put location .directory)

/-- Makes a directory unless it is there already. -/
def ensureDirectory (tree : Tree) (path : String) : Except Fault Unit × Tree :=
  match tree.makeDirectory path with
  | .ok tree => (.ok (), tree)
  | .error fault =>
      if path ≠ "" && tree.isDirectory path then (.ok (), tree) else (.error fault, tree)

/-- Cuts a path before its last component. Slashes at the end of the front are
left out unless they are all of it. -/
def cutLast (path : List Char) : List Char × List Char :=
  let back := (path.reverse.takeWhile (· ≠ '/')).reverse
  let front := path.take (path.length - back.length)
  if front.all (· = '/') then (front, back)
  else ((front.reverse.dropWhile (· = '/')).reverse, back)

/-- Cuts a path before its last component; a slash at the end is left out
first. -/
def cutPath (path : List Char) : List Char × List Char :=
  match cutLast path with
  | (front, []) => cutLast front
  | cut => cut

/-- Whether the way to a directory ends with a fault. That something is in the
place of a directory on the way does not end it: the next step will tell. -/
def stops : Except Fault Unit → Bool
  | .error fault => fault.problem ≠ .exists
  | .ok () => false

/-- Makes a directory and, before it, the directories that it is in; `fuel`
bounds their number. What has been made before a fault stays. -/
def ensureAll (fuel : Nat) (tree : Tree) (path : List Char) : Except Fault Unit × Tree :=
  match fuel with
  | 0 => (.ok (), tree)
  | fuel + 1 =>
      let (front, back) := cutPath path
      if !front.isEmpty && !back.isEmpty && !tree.contains (String.ofList front) then
        let (outcome, tree) := ensureAll fuel tree front
        if stops outcome then (outcome, tree)
        else if back = ['.'] then (.ok (), tree)
        else tree.ensureDirectory (String.ofList path)
      else tree.ensureDirectory (String.ofList path)

/-- Makes a directory and, before it, the directories that it is in. -/
def ensureDirectories (tree : Tree) (path : String) : Except Fault Unit × Tree :=
  ensureAll (path.length + 1) tree path.toList

/-! ## Appending to files -/

/-- The location that a path names when its points are worked out on the
components alone. -/
def normalLocation (path : String) : Location :=
  (steps path).foldl
    (fun here step =>
      if step = "." then here else if step = ".." then here.parent else here.child step)
    (start path)

/-- Opens a file for appending, which makes it unless it is there. -/
def openFile (tree : Tree) (location : Location) : Except Fault Tree :=
  match tree.locate location.path with
  | .error problem => .error ⟨problem, location.path⟩
  | .ok location =>
      match tree.entryAt location with
      | some .directory => .error ⟨.isDirectory, location.path⟩
      | some (.file _) => .ok tree
      | none => .ok (tree.put location (.file .empty))

/-- Appends text to a file. -/
def append (tree : Tree) (location : Location) (text : String) : Tree :=
  match tree.entryAt location with
  | some (.file content) => tree.put location (.file (content ++ text.toUTF8))
  | some .directory => tree
  | none => tree.put location (.file text.toUTF8)

/-- Puts a file or a directory at a path and directories above it. -/
def place (tree : Tree) (path : String) (entry : Entry) : Tree :=
  let location := normalLocation path
  let above : List Location := (List.range location.names.length).map fun count =>
    { location with names := location.names.take count }
  (above.foldl (fun tree location =>
    match tree.entryAt location with
    | some _ => tree
    | none => tree.put location .directory) tree).put location entry

end Tree

/-- Why the text of a file could not be read. -/
inductive TextProblem where
  | isDirectory
  /-- The bytes are not the UTF-8 form of a text. -/
  | notText
  deriving DecidableEq, Repr

/-- The text of a file, with one kind of line end. -/
def Entry.text : Entry → Except TextProblem String
  | directory => .error .isDirectory
  | file content =>
      match String.fromUTF8? content with
      | some text => .ok (Text.unifyLineEndsOf text)
      | none => .error .notText

end RoleAccess.Files

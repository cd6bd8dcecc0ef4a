import RoleAccess.Files.Tree

/-!
# Rolling files over

A file that is rolled over is put by as its first backup, and an empty file is
opened in its place. The backups that there are move up by one before that, from
the last but one on; the last one gives way. A backup has the name of the file with
a point and its number behind it. Whatever stands under such a name is moved,
directories with everything in them; but only a file gives way, and nothing can be
moved to a name or a path that is too long.
-/

namespace RoleAccess.Files

namespace Location

/-- Whether a location is that of a directory or inside it. -/
def isIn (location directory : Location) : Bool :=
  location.anchor = directory.anchor && directory.names.isPrefixOf location.names

/-- The place that a location inside a directory has once the directory is moved. -/
def moved (location source target : Location) : Location :=
  ⟨target.anchor, target.names ++ location.names.drop source.names.length⟩

/-- The place for a backup of a file. -/
def backup (location : Location) (number : Nat) : Location :=
  { location with
    names := location.names.dropLast ++
      [location.names.getLast?.getD "" ++ "." ++ toString number] }

/-- The places of so many backups of a file. -/
def backups (location : Location) (count : Nat) : List Location :=
  (List.range count).map fun number => location.backup (number + 1)

end Location

namespace Tree

/-- Takes away what is at a location. -/
def remove (tree : Tree) (location : Location) : Tree :=
  ⟨tree.entries.filter (· ≠ location)⟩

/-- Moves what is at a location, with everything inside it, to another location. -/
def move (tree : Tree) (source target : Location) : Tree :=
  (tree.entries.entries.filter (·.1.isIn source)).foldl
    (fun tree entry => tree.put (entry.1.moved source target) entry.2)
    ⟨tree.entries.filter (!·.isIn source)⟩

/-- Moves what is at a location to another one in the same directory. A file that is
there gives way; that nothing is to be moved is no fault. -/
def replace (tree : Tree) (source target : Location) : Except Fault Tree :=
  match tree.entryAt source, tree.entryAt target with
  | none, _ => .ok tree
  | some _, some .directory => .error ⟨.isDirectory, target.path⟩
  | some _, some (.file _) => .ok ((tree.remove target).move source target)
  | some _, none =>
      match tree.locate target.path with
      | .error problem => .error ⟨problem, source.path⟩
      | .ok _ => .ok (tree.move source target)

/-- Moves the backups of a file with numbers up to a given one up by one. What has been
moved before a fault stays. -/
def moveBackups (tree : Tree) (location : Location) : (number : Nat) → Except Fault Unit × Tree
  | 0 => (.ok (), tree)
  | number + 1 =>
      match tree.replace (location.backup (number + 1)) (location.backup (number + 2)) with
      | .error fault => (.error fault, tree)
      | .ok tree => tree.moveBackups location number

/-- Puts a file by as its first backup, of which there are at most so many, and opens an
empty one in its place. Without backups the file stays. -/
def rollOver (tree : Tree) (location : Location) : (backups : Nat) → Except Fault Unit × Tree
  | 0 => (.ok (), tree)
  | number + 1 =>
      match tree.moveBackups location number with
      | (.error fault, tree) => (.error fault, tree)
      | (.ok (), tree) =>
          match tree.replace location (location.backup 1) with
          | .error fault => (.error fault, tree)
          | .ok tree => (.ok (), tree.put location (.file .empty))

end Tree

end RoleAccess.Files

import RoleAccess.Files.Tree
import RoleAccess.Policy.Text

/-!
# Loading documents

Policies, settings and environments are loaded from files. A file that is not
there is an error of its own, and comes before everything that can be wrong with
its content.

Settings and environments are documents, and how a document is read from its text
is no matter of this library: all that loads one is given a `Reader`. A reader may
have a value of any kind for a text, may find that the text is no document, and
may end in another way, as readers do at scalars that are written as numbers or
dates and are none.
-/

namespace RoleAccess

/-- Why a reader has no value for a text. -/
inductive ReadError where
  /-- The text is no document. -/
  | fault (wording : String)
  /-- The reader ends with an error of another kind. -/
  | failure (kind wording : String)
  deriving DecidableEq, Repr

/-- A reader of documents: it has the value of the document in a text. -/
abbrev Reader := String → Except ReadError Value

/-- What a file is loaded as. -/
inductive Subject where
  | policy
  | configuration
  | environment
  deriving DecidableEq, Repr

/-- The word for a subject at the start of a message. -/
def Subject.word : Subject → String
  | policy => "Policy"
  | configuration => "Configuration"
  | environment => "Environment"

/-- Why something could not be loaded. -/
inductive LoadError where
  /-- There is nothing at the path. -/
  | notFound (subject : Subject) (path : String)
  /-- The path is of no use. -/
  | files (fault : Files.Fault)
  /-- What is at the path has no text. -/
  | noText (problem : Files.TextProblem)
  /-- What is at the path could not be read as a document. -/
  | document (error : ReadError)
  /-- A document is not a mapping. -/
  | badRoot (subject : Subject) (root : Value)
  /-- A section of the settings is not a mapping. -/
  | badSection (name : String) (value : Value)
  | policy (error : PolicyError)

namespace LoadError

/-- The wording of an error; what is wrong with files and documents has wordings of
its own. -/
def message : LoadError → String
  | notFound subject path => subject.word ++ " file not found: " ++ path
  | files fault => fault.message
  | noText .isDirectory => "the path leads to a directory"
  | noText .notText => "the file does not hold UTF-8 text"
  | document (.fault wording) | document (.failure _ wording) => wording
  | badRoot subject root => subject.word ++ " root must be a mapping, got " ++ root.typeName
  | badSection name value =>
      "'" ++ name ++ "' section must be a mapping, got " ++ value.typeName
  | policy error => error.message

end LoadError

namespace Files

/-- What is at a path; points in the path lead nowhere and do not matter. There is
nothing at a path that cannot be followed, but a path that is too long is a fault
of its own. -/
def Tree.entryFor (tree : Tree) (subject : Subject) (path : String) : Except LoadError Entry :=
  match tree.locate (tidy path) with
  | .error .tooLong => .error (.files ⟨.tooLong, tidy path⟩)
  | .error _ => .error (.notFound subject path)
  | .ok location =>
      match tree.entryAt location with
      | none => .error (.notFound subject path)
      | some entry => .ok entry

/-- The text of the file at a path. -/
def Tree.load (tree : Tree) (subject : Subject) (path : String) : Except LoadError String := do
  (← tree.entryFor subject path).text.mapError LoadError.noText

/-- The mapping that the document at a path is; an empty document is an empty
mapping. -/
def Tree.loadMap (tree : Tree) (read : Reader) (subject : Subject) (path : String) :
    Except LoadError (List (Value × Value)) := do
  let text ← tree.load subject path
  match ← (read text).mapError LoadError.document with
  | .null => return []
  | .map entries => return entries
  | root => throw (.badRoot subject root)

end Files

namespace Policy

/-- The checker for the policy file at a path. -/
def load (files : Files.Tree) (path : String) : Except LoadError Checker := do
  let text ← files.load .policy path
  (parse text).mapError LoadError.policy

/-- What is reported before a policy file is read: that loading begins, once the
file is known to be there. -/
def announcement (files : Files.Tree) (path : String) : List Log.Record :=
  let shown := Files.tidy path
  if files.contains shown then [⟨.info, logger, "Loading policy from " ++ shown⟩] else []

/-- The checker for the policy file at a path, with the report of loading it.
Reports may be written to files, so the files are those that there are after what
has been reported. -/
def loadReported (filesAfter : List Log.Record → Files.Tree) (path : String) :
    Log.Journal LoadError Checker := do
  let announced := announcement (filesAfter []) path
  Log.Journal.report announced
  let text ← Log.Journal.silent ((filesAfter announced).load .policy path)
  (parseReported text).mapError LoadError.policy

end Policy

/-- The document of the environment file at a path. -/
def Environment.loadDocument (read : Reader) (files : Files.Tree) (path : String) :
    Except LoadError Value :=
  (files.loadMap read .environment path).map Value.map

end RoleAccess

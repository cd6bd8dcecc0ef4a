/-!
# Faults of YAML documents

A document that cannot be read has a problem at a line. What the library reads
is a subset of YAML 1.1: directives, anchors, aliases, tags, block scalars and
merge keys are problems as well.
-/

namespace RoleAccess.Yaml

/-- What is wrong with a document. -/
inductive Problem where
  /-- A character that no document may contain. -/
  | forbiddenCharacter
  /-- A character that nothing starts with. -/
  | strayCharacter (c : Char)
  /-- A feature outside the subset. -/
  | unsupported (feature : String)
  | unclosedQuote
  | unknownEscape
  /-- An escape with a number that is no code point. -/
  | noCharacter (code : Nat)
  | markerInQuotes
  /-- A line that has to be a mapping entry and has no colon. -/
  | missingColon
  | misplacedEntry
  | misplacedKey
  | misplacedValue
  | unmatchedBracket
  /-- Something else is expected here. -/
  | unexpected (expected : String)
  | secondDocument
  /-- A collection that changes cannot be a key. -/
  | collectionKey
  /-- A plain scalar that stands for nothing readable. -/
  | unreadableScalar (text : String)
  deriving DecidableEq, Repr

/-- The wording of a problem. -/
def Problem.message : Problem → String
  | forbiddenCharacter => "special characters are not allowed"
  | strayCharacter c => "nothing can start with the character " ++ String.ofList [c]
  | unsupported feature => feature ++ " are not supported"
  | unclosedQuote => "a quoted scalar is not closed"
  | unknownEscape => "unknown escape in a quoted scalar"
  | noCharacter code => "the escape of the number " ++ toString code ++ " is no character"
  | markerInQuotes => "document marker inside a quoted scalar"
  | missingColon => "could not find the colon after a key"
  | misplacedEntry => "sequence entries are not allowed here"
  | misplacedKey => "mapping keys are not allowed here"
  | misplacedValue => "mapping values are not allowed here"
  | unmatchedBracket => "a closing bracket without an opening one"
  | unexpected expected => "expected " ++ expected
  | secondDocument => "expected a single document"
  | collectionKey => "a collection cannot be a key"
  | unreadableScalar text => "the scalar " ++ text ++ " has no value"

/-- A problem and the number of its line, counted from one; a problem that only
shows at the end of the text has no line. -/
structure Fault where
  problem : Problem
  line : Option Nat := none
  deriving DecidableEq, Repr

/-- The wording of a fault. -/
def Fault.message (fault : Fault) : String :=
  match fault.line with
  | none => fault.problem.message
  | some line => "line " ++ toString line ++ ": " ++ fault.problem.message

end RoleAccess.Yaml

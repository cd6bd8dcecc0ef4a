import RoleAccess.Value.Text

/-!
# Errors of policy construction

Each error names its cause and what it was about; the wording is in the
`message` functions alone. A cause `stated` by a caller has the caller's words.
-/

namespace RoleAccess

/-- What is wrong with a piece of policy text. -/
inductive ParseFault where
  | emptySegment
  | variableWithoutName
  | setWithoutName
  | noSegments
  /-- A rule has three words. -/
  | wordCount (count : Nat)
  | unknownKeyword (word : String)
  | stated (reason : String)
  deriving DecidableEq, Repr

/-- The wording of a fault. -/
def ParseFault.message : ParseFault → String
  | .emptySegment => "Empty resource segment"
  | .variableWithoutName => "Variable segment needs a name"
  | .setWithoutName => "Set segment needs a name"
  | .noSegments => "Resource pattern has no segments"
  | .wordCount count => "Expected 3 tokens, got " ++ toString count
  | .unknownKeyword word =>
      "Unknown permission keyword '" ++ word ++ "', expected 'allow' or 'deny'"
  | .stated reason => reason

/-- A fault, where it is, and the part of the text that has it. -/
structure ParseError where
  fault : ParseFault
  lineNumber : Option Int := none
  line : Option String := none
  token : Option String := none
  deriving DecidableEq, Repr

/-- The wording of an error, with the number of its line if that is known. -/
def ParseError.message (error : ParseError) : String :=
  match error.lineNumber with
  | none => error.fault.message
  | some number => "line " ++ toString number ++ ": " ++ error.fault.message

/-- The same error, found on a given line. -/
def ParseError.onLine (error : ParseError) (line : String) (lineNumber : Option Int) :
    ParseError :=
  ⟨error.fault, lineNumber, some line, error.token⟩

/-- What is wrong with a rule put together by a caller. The role is kept as it was
given, as long as there is no rule. -/
inductive RuleFault where
  | badEffect (role effect : Value)
  | badRole (role : Value)
  /-- A text stands where the segments should be. -/
  | textResource (role resource : Value)
  | badResource (role resource : Value)
  | badSegment (role segment : Value)
  | emptyResource (role : String)
  /-- A value that the wording would show has no text. -/
  | unwritable
  | stated (reason : String)

/-- The wording of a fault. -/
def RuleFault.message : RuleFault → String
  | .badEffect role effect =>
      "Permission rule for role '" ++ role.plain ++ "' has invalid effect " ++ effect.display
  | .badRole role => "Role name must be a string, got " ++ role.typeName
  | .textResource role resource =>
      "Resource for role '" ++ role.plain ++
        "' must be a sequence of segments, not the string " ++ resource.display
  | .badResource role resource =>
      "Resource for role '" ++ role.plain ++ "' must be a sequence of segments, got " ++
        resource.typeName
  | .badSegment role segment =>
      "Resource segment " ++ segment.display ++ " for role '" ++ role.plain ++
        "' is not a PermissionKind"
  | .emptyResource role => "Permission rule for role '" ++ role ++ "' has an empty resource"
  | .unwritable => Number.limitMessage none
  | .stated reason => reason

/-- What is wrong with an environment. -/
inductive EnvironmentFault where
  /-- A variable is bound to no value or to a collection. -/
  | badVariable (name value : Value)
  /-- A set is not given by a collection of members. -/
  | badSet (name value : Value)
  | badDocument (document : Value)
  /-- The document has sections under other names. -/
  | unknownSections (names : List Value)
  | badSection (name : String) (value : Value)
  /-- A name or a value has no text. -/
  | unwritable
  | stated (reason : String)

/-- The wording of a fault; unknown sections are listed in order. -/
def EnvironmentFault.message : EnvironmentFault → String
  | .badVariable name value =>
      "Variable '" ++ name.plain ++ "' must be bound to a single value, got " ++ value.typeName
  | .badSet name value =>
      "Set '" ++ name.plain ++ "' must be a list of values, got " ++ value.typeName
  | .badDocument document => "Environment must be a mapping, got " ++ document.typeName
  | .unknownSections names =>
      "Unknown environment sections: " ++
        ", ".intercalate ((names.map Value.plain).mergeSort fun a b => a ≤ b)
  | .badSection name value =>
      "Environment '" ++ name ++ "' must be a mapping, got " ++ value.typeName
  | .unwritable => Number.limitMessage none
  | .stated reason => reason

/-- Why a policy could not be built. -/
inductive PolicyError where
  /-- A role was put under two different parents. -/
  | duplicateParent (child existing proposed : String)
  /-- Roles that inherit from one another in a circle; the first is also the last. -/
  | cycle (roles : List String)
  | rule (fault : RuleFault)
  | environment (fault : EnvironmentFault)
  | parse (error : ParseError)
  | stated (reason : String)

/-- The wording of an error. -/
def PolicyError.message : PolicyError → String
  | .duplicateParent child existing proposed =>
      "Role '" ++ child ++ "' already inherits from '" ++ existing ++
        "', cannot also inherit from '" ++ proposed ++ "'"
  | .cycle roles => "Role inheritance cycle: " ++ " > ".intercalate roles
  | .rule fault => fault.message
  | .environment fault => fault.message
  | .parse error => error.message
  | .stated reason => reason

/-- A segment kind that has no rule for matching. -/
structure UnknownKind where
  name : String
  deriving DecidableEq, Repr

/-- The wording of the error. -/
def UnknownKind.message (kind : UnknownKind) : String := "Unknown segment kind: " ++ kind.name

end RoleAccess

/-!
# Log records

What the library reports about its work is a list of records, returned beside
the result. Whether and where a record is written is decided later, by the
loggers that it reaches.
-/

namespace RoleAccess.Log

/-- How much a record matters. -/
inductive Level where
  | debug
  | info
  | warning
  | error
  | critical
  deriving DecidableEq, Repr

namespace Level

/-- Levels are compared by their numbers. -/
def number : Level → Nat
  | debug => 10
  | info => 20
  | warning => 30
  | error => 40
  | critical => 50

/-- The name of a level, in capitals. -/
def name : Level → String
  | debug => "DEBUG"
  | info => "INFO"
  | warning => "WARNING"
  | error => "ERROR"
  | critical => "CRITICAL"

/-- All levels, from the least to the greatest. -/
def all : List Level := [debug, info, warning, error, critical]

/-- The level with a given name. -/
def ofName? (text : String) : Option Level := all.find? (·.name = text)

end Level

/-- One thing reported, by the logger of that name. -/
structure Record where
  level : Level
  logger : String
  message : String
  deriving DecidableEq, Repr

end RoleAccess.Log

import RoleAccess.Log.Clock
import RoleAccess.Log.Directive
import RoleAccess.Log.Record
import RoleAccess.Text.Word
import RoleAccess.Value.Basic

/-!
# Layouts of log lines

A layout is a template in which directives stand for the fields of a record. A
template in which nothing has the outline of a directive is no layout, because
its lines would say nothing of the record (`hasDirective`). The outline is
examined without regard to fields and forms: a name in parentheses, flags, a width
and a precision, which may be stars, and a letter of some form in either case. A
record that a layout has no line for, since it has no such field or no such form
of it, is not written.
-/

namespace RoleAccess.Log

/-- A template for lines and one for the time in them. Lines that show no time can
do without a text there. -/
structure Layout where
  line : String
  date : Value

namespace Layout

/-- The usual template for lines: time, level, logger and message. -/
def standardLine : String := "%(asctime)s [%(levelname)s] [%(name)s] %(message)s"

/-- The usual template for the time. -/
def standardDate : String := "%Y-%m-%dT%H:%M:%S"

/-! ## Outlines -/

/-- Takes a star or digits of any script off the front, if there are any. -/
def dropCount? : List Char → Option (List Char)
  | '*' :: rest => some rest
  | text =>
      let rest := text.dropWhile Text.isDecimalDigit
      if rest.length < text.length then some rest else none

/-- Takes a point and a count off the front, if they are there. -/
def dropPrecision : List Char → List Char
  | '.' :: rest => (dropCount? rest).getD ('.' :: rest)
  | text => text

/-- Whether a character is the letter of a form, in either case; three letters
outside ASCII have `i` or `s` as their other case. -/
def isForm (c : Char) : Bool :=
  "diouxefgcrsa%".toList.contains c.toLower || c = 'İ' || c = 'ı' || c = 'ſ'

/-- Whether a text starts with the outline of a directive, its percent sign left
out. -/
def isOutline : List Char → Bool
  | '(' :: rest =>
      let field := rest.takeWhile Text.isWord
      match rest.drop field.length with
      | ')' :: rest =>
          let rest := rest.dropWhile Directive.flagCharacters.contains
          let rest := dropPrecision ((dropCount? rest).getD rest)
          !field.isEmpty && rest.head?.any isForm
      | _ => false
  | _ => false

/-- Whether something in a template has the outline of a directive. -/
def hasDirective : List Char → Bool
  | [] => false
  | c :: rest => (c = '%' && isOutline rest) || hasDirective rest

/-! ## Lines -/

/-- How the display of a whole record starts, which is a mapping of its fields; the
path that comes next is not known. -/
def recordStart (quote : String → String) (record : Record) : String :=
  "\x7b'name': " ++ quote record.logger ++ ", 'msg': " ++ quote record.message ++
    ", 'args': (), 'levelname': " ++ quote record.level.name ++
    ", 'levelno': " ++ toString record.level.number ++ ", 'pathname': '/"

/-- A whole record as a value. -/
def wholeValue (record : Record) : FieldValue :=
  let start := recordStart Text.quoted record
  .opening start start (recordStart Text.quotedAscii record)

/-- The value of a field of a record that is made at a moment. Of where it is made, and
of the process and the thread, no more is known than that a path starts at the
root, and the number of a thread with a one; of the time, no more than the
seconds. -/
def fieldValue (now : Moment) (layout : Layout) (record : Record) :
    String → Option FieldValue
  | "asctime" =>
      match layout.date with
      | .text template => some (.text (Clock.render now template))
      | _ => none
  | "levelname" => some (.text record.level.name)
  | "levelno" => some (.number record.level.number)
  | "name" => some (.text record.logger)
  | "message" | "msg" => some (.text record.message)
  | "threadName" => some (.text "MainThread")
  | "processName" => some (.text "MainProcess")
  | "args" => some (.sign "()")
  | "exc_info" | "exc_text" | "stack_info" | "taskName" => some (.sign "None")
  | "pathname" => some (.opening "/" "'/" "'/")
  | "filename" | "module" | "funcName" => some (.opening "" "'" "'")
  | "created" =>
      let seconds := toString now.seconds
      some (.opening seconds seconds seconds)
  | "thread" => some (.opening "1" "1" "1")
  | "lineno" | "msecs" | "relativeCreated" | "process" => some (.opening "" "" "")
  | _ => none

/-- Replaces directives; `left` is the value that one without a field would use,
and `skip` counts the characters of one that has been replaced already. -/
def renderFrom (value : String → Option FieldValue) :
    (left : Option FieldValue) → (skip : Nat) → List Char → Option (List Char)
  | _, _, [] => some []
  | left, skip + 1, _ :: rest => renderFrom value left skip rest
  | left, 0, c :: rest =>
      if c ≠ '%' then (renderFrom value left 0 rest).map (c :: ·)
      else
        match Directive.ofChars? rest with
        | none => none
        | some (directive, length) =>
            let found :=
              match directive.field with
              | none => some left
              | some field => (value field).map some
            match found.bind directive.render? with
            | none => none
            | some (content, left) => (renderFrom value left length rest).map (content ++ ·)

/-- The line of a record that is made at a moment, if the layout has one. -/
def render? (now : Moment) (layout : Layout) (record : Record) : Option String :=
  (renderFrom (fieldValue now layout record) (some (wholeValue record)) 0
    layout.line.toList).map String.ofList

end Layout

end RoleAccess.Log

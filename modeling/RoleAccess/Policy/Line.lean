import RoleAccess.Policy.Error
import RoleAccess.Rule.Path
import RoleAccess.Text.Blank

/-!
# Lines of a policy text

A line without words, or whose first word starts with `#`, says nothing. Any
other line has three words. With `>` in the middle it puts the third word, a
role, under the first one; otherwise it allows or denies the second word, a
role, the resource pattern in the third.

A pattern is cut like a path and must have a segment. A segment in square
brackets names a variable, one in braces a set, a lone star matches everything,
and any other text stands for itself; no segment and no name may be empty.
-/

namespace RoleAccess

/-- A rule of either kind. -/
inductive Rule where
  | role (rule : RoleRule)
  | permission (rule : PermissionRule)
  deriving DecidableEq, Repr

/-- The line of a rule. -/
def Rule.render : Rule → String
  | role rule => rule.render
  | permission rule => rule.render

namespace Policy

/-- What stands between an opening and a closing character. -/
def bracketed (opening closing : Char) : List Char → Option (List Char)
  | [] => none
  | first :: rest =>
      if first = opening && rest.getLast? = some closing then some rest.dropLast else none

/-- The pattern that a segment of a policy text stands for. -/
def segmentOf (segment : List Char) : Except ParseFault SegmentPattern :=
  if segment.isEmpty then .error .emptySegment
  else
    match bracketed '[' ']' segment with
    | some [] => .error .variableWithoutName
    | some name => .ok (.bound (String.ofList name))
    | none =>
        match bracketed '{' '}' segment with
        | some [] => .error .setWithoutName
        | some name => .ok (.member (String.ofList name))
        | none =>
            if segment = ['*'] then .ok .universal
            else .ok (.literal (String.ofList segment))

/-- Reads one segment; an error names it. -/
def parseSegment (segment : String) : Except ParseError SegmentPattern :=
  match segmentOf segment.toList with
  | .ok pattern => .ok pattern
  | .error fault => .error { fault, token := some segment }

/-- Reads segments from the first to the last; the first bad one is the error. -/
def parseSegments : List String → Except ParseError (List SegmentPattern)
  | [] => .ok []
  | segment :: rest => return (← parseSegment segment) :: (← parseSegments rest)

/-- Reads a resource pattern. -/
def parseResource (pattern : String) : Except ParseError (List SegmentPattern) :=
  match Path.segments pattern with
  | [] => .error { fault := .noSegments, token := some pattern }
  | segments => parseSegments segments

/-- Whether a word begins a comment. -/
def startsComment (word : String) : Bool := word.toList.head? = some '#'

/-- The word between the roles of a role rule. -/
def inheritsWord : String := ">"

/-- Reads a rule from its three words. -/
def ruleOfWords (first second third : String) : Except ParseError Rule :=
  if second = inheritsWord then .ok (.role ⟨first, third⟩)
  else
    match Effect.ofKeyword? first with
    | none => .error { fault := .unknownKeyword first, token := some first }
    | some effect => return .permission ⟨effect, second, ← parseResource third⟩

/-- Reads a line that is neither blank nor a comment from its words. -/
def ruleOf : List String → Except ParseError Rule
  | [first, second, third] => ruleOfWords first second third
  | words => .error { fault := .wordCount words.length, token := words[3]? }

/-- Reads one line; an error carries the line and its number. -/
def parseLine (line : String) (lineNumber : Option Int := none) :
    Except ParseError (Option Rule) :=
  match Text.wordsOf line with
  | [] => .ok none
  | first :: rest =>
      if startsComment first then .ok none
      else
        match ruleOf (first :: rest) with
        | .ok rule => .ok (some rule)
        | .error error => .error (error.onLine line lineNumber)

end Policy

end RoleAccess

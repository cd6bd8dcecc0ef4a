/-!
# Lines of a text

A line ends at a line break, at a form feed or vertical tab, at one of the
three information separators, or at one of the Unicode line separators; a
carriage return followed by a line feed ends one line, not two. A final line
end adds no empty line.

Text read from a file has its carriage returns replaced first
(`unifyLineEnds`), which leaves every line feed and every other line end alone.
-/

namespace RoleAccess.Text

/-- Characters that end a line on their own. -/
def isLineEnd (c : Char) : Bool :=
  c = '\n' || c = '\r' || c = '\x0b' || c = '\x0c' || c = '\x1c' || c = '\x1d' || c = '\x1e' ||
    c = '\u0085' || c = '\u2028' || c = '\u2029'

/-- Puts a character in front of the first line. -/
def extendFirst (c : Char) : List (List Char) → List (List Char)
  | [] => [[c]]
  | line :: rest => (c :: line) :: rest

/-- The lines of a text, without their line ends. -/
def lines : List Char → List (List Char)
  | [] => []
  | [c] => if isLineEnd c then [[]] else [[c]]
  | c :: d :: rest =>
      if c = '\r' && d = '\n' then [] :: lines rest
      else if isLineEnd c then [] :: lines (d :: rest)
      else extendFirst c (lines (d :: rest))

/-- The lines of a text, as strings. -/
def linesOf (text : String) : List String :=
  (lines text.toList).map String.ofList

/-- Writes a line feed for each carriage return, alone or before a line feed. -/
def unifyLineEnds : List Char → List Char
  | [] => []
  | [c] => [if c = '\r' then '\n' else c]
  | c :: d :: rest =>
      if c = '\r' && d = '\n' then '\n' :: unifyLineEnds rest
      else (if c = '\r' then '\n' else c) :: unifyLineEnds (d :: rest)

/-- `unifyLineEnds` on strings. -/
def unifyLineEndsOf (text : String) : String :=
  String.ofList (unifyLineEnds text.toList)

theorem lines_nil : lines [] = [] := rfl

theorem unifyLineEnds_nil : unifyLineEnds [] = [] := rfl

end RoleAccess.Text

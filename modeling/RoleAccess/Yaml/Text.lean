import RoleAccess.Yaml.Fault

/-!
# Characters of a YAML text and their places

Layout decides what a YAML text means, so every character is read together with
its line, its column and its index. A byte order mark takes no column. The end
of the text ends a word just as a blank does.
-/

namespace RoleAccess.Yaml

/-- A character and its place; lines and columns are counted from zero. -/
structure Placed where
  char : Char
  index : Nat
  line : Nat
  column : Nat
  deriving DecidableEq, Repr

/-- Characters that end a line. -/
def isBreak (c : Char) : Bool :=
  c = '\r' || c = '\n' || c = '\u0085' || c = '\u2028' || c = '\u2029'

/-- Characters that end a word. -/
def isGap (c : Char) : Bool := c = ' ' || c = '\t' || isBreak c

/-- Characters that a document may contain. -/
def isAllowed (c : Char) : Bool :=
  c = '\t' || c = '\n' || c = '\r' || (' ' ≤ c && c ≤ '~') || c = '\u0085' ||
    ('\u00a0' ≤ c && c ≤ '\ufffd') || 0x10000 ≤ c.toNat

/-- The characters of a text with their places, the first of which is given. -/
def placeFrom (index line column : Nat) : List Char → List Placed
  | [] => []
  | c :: rest =>
      let endsLine := isBreak c && !(c = '\r' && rest.head? = some '\n')
      ⟨c, index, line, column⟩ ::
        placeFrom (index + 1) (if endsLine then line + 1 else line)
          (if endsLine then 0 else if c = '\ufeff' then column else column + 1) rest

/-- The characters of a text with their places; a byte order mark at its start
is left out. -/
def place (text : List Char) : List Placed :=
  match text with
  | '\ufeff' :: rest => placeFrom 1 0 0 rest
  | _ => placeFrom 0 0 0 text

/-- The fault of a problem at a place. -/
def Placed.fault (here : Placed) (problem : Problem) : Fault := ⟨problem, some (here.line + 1)⟩

/-- The fault of a problem at the start of the rest of a text. -/
def faultAt (rest : List Placed) (problem : Problem) : Fault :=
  match rest with
  | [] => ⟨problem, none⟩
  | here :: _ => here.fault problem

/-- Whether the text ends here or goes on with a character that satisfies a
test. -/
def endsOr (test : Char → Bool) : List Placed → Bool
  | [] => true
  | here :: _ => test here.char

/-- Whether a word ends here. -/
def atGap (rest : List Placed) : Bool := endsOr isGap rest

/-- The characters without their places. -/
def chars (placed : List Placed) : List Char := placed.map Placed.char

/-- Whether a document marker, three hyphens or three points, stands here as a
word of its own. -/
def atMarker (rest : List Placed) : Bool :=
  (chars (rest.take 3) = ['-', '-', '-'] || chars (rest.take 3) = ['.', '.', '.']) &&
    atGap (rest.drop 3)

/-- Takes one line break off the front. What it stands for is a line feed, or
itself if it is one of the two separators. -/
def takeBreak : List Placed → Option (Char × List Placed)
  | [] => none
  | here :: rest =>
      if here.char = '\r' then
        match rest with
        | [] => some ('\n', [])
        | next :: after => some ('\n', if next.char = '\n' then after else rest)
      else if here.char = '\n' || here.char = '\u0085' then some ('\n', rest)
      else if here.char = '\u2028' || here.char = '\u2029' then some (here.char, rest)
      else none

/-- What the break of a line and the empty lines after it stand for inside a
scalar: a lone line feed becomes a space, and empty lines their breaks. -/
def fold (first : Char) (empty : List Char) : List Char :=
  (if first ≠ '\n' then [first] else if empty.isEmpty then [' '] else []) ++ empty

end RoleAccess.Yaml

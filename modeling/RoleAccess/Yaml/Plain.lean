import RoleAccess.Yaml.Text

/-!
# Plain scalars

A plain scalar has no quotes. It runs up to a colon that ends a word, a comment,
or, inside brackets, a character that has a meaning there; blanks at its end do
not belong to it. It may go on over line breaks as long as the next line is
indented deeper than the block around it.
-/

namespace RoleAccess.Yaml

/-- Characters that end a plain scalar inside brackets. -/
def endsInBrackets (c : Char) : Bool :=
  c = ',' || c = '?' || c = '[' || c = ']' || c = '\x7b' || c = '\x7d'

/-- Characters that end a word inside brackets. -/
def isFlowMark (c : Char) : Bool :=
  c = ',' || c = '[' || c = ']' || c = '\x7b' || c = '\x7d'

/-- Cuts the text before the first character that ends a run of a plain scalar. -/
def plainRun (inBrackets : Bool) : List Placed → List Char × List Placed
  | [] => ([], [])
  | here :: rest =>
      if isGap here.char ||
          (here.char = ':' && endsOr (fun c => isGap c || (inBrackets && isFlowMark c)) rest) ||
          (inBrackets && endsInBrackets here.char) then
        ([], here :: rest)
      else
        let (run, after) := plainRun inBrackets rest
        (here.char :: run, after)

/-- What lies between two runs of a plain scalar. -/
structure PlainGap where
  /-- What the gap stands for; nothing if the scalar ends. -/
  text : List Char
  /-- The text after the gap. -/
  rest : List Placed
  /-- Whether the gap has a line break. -/
  broken : Bool

/-- Spaces and breaks at the start of a text, up to a document marker at the
start of a line; without a result at such a marker. -/
def plainBreaks : (fuel : Nat) → List Char → List Placed → Option (List Char) × List Placed
  | 0, empty, rest => (some empty, rest)
  | fuel + 1, empty, rest =>
      match rest with
      | [] => (some empty, [])
      | here :: after =>
          if here.char = ' ' then plainBreaks fuel empty after
          else
            match takeBreak rest with
            | none => (some empty, rest)
            | some (c, after) =>
                if atMarker after then (none, after) else plainBreaks fuel (empty ++ [c]) after

/-- The gap at the start of a text. -/
def plainGap (text : List Placed) : PlainGap :=
  let spaces := text.takeWhile (·.char = ' ')
  let rest := text.dropWhile (·.char = ' ')
  match takeBreak rest with
  | none => ⟨chars spaces, rest, false⟩
  | some (first, after) =>
      if atMarker after then ⟨[], after, true⟩
      else
        match plainBreaks after.length [] after with
        | (none, rest) => ⟨[], rest, true⟩
        | (some empty, rest) => ⟨fold first empty, rest, true⟩

/-- The text of a plain scalar, the text after it, and whether the last thing
passed was a line break. -/
structure PlainScalar where
  text : List Char
  rest : List Placed
  broken : Bool

/-- Reads runs and gaps of a plain scalar, which has to stay at `indent` or
deeper outside brackets. -/
def plainFrom (inBrackets : Bool) (indent : Nat) :
    (fuel : Nat) → (text gap : List Char) → (broken : Bool) → List Placed → PlainScalar
  | 0, text, _, broken, rest => ⟨text, rest, broken⟩
  | fuel + 1, text, gap, broken, rest =>
      match plainRun inBrackets rest with
      | ([], _) => ⟨text, rest, broken⟩
      | (run, after) =>
          let text := text ++ gap ++ run
          let next := plainGap after
          match next.rest with
          | [] => ⟨text, [], next.broken⟩
          | here :: _ =>
              if next.text.isEmpty || here.char = '#' || (!inBrackets && here.column < indent) then
                ⟨text, next.rest, next.broken⟩
              else plainFrom inBrackets indent fuel text next.text next.broken next.rest

/-- Reads the plain scalar at the start of a text. -/
def plainScalar (inBrackets : Bool) (indent : Nat) (text : List Placed) : PlainScalar :=
  plainFrom inBrackets indent (text.length + 1) [] [] false text

/-- Characters that no plain scalar starts with by themselves. -/
def isIndicator (c : Char) : Bool :=
  "-?:,[]\x7b\x7d#&*!|>'\"%@`".toList.contains c

/-- Whether a plain scalar starts with a character, before the given rest. -/
def startsPlain (inBrackets : Bool) (c : Char) (rest : List Placed) : Bool :=
  !(isGap c || isIndicator c) ||
    (!atGap rest && (c = '-' || (!inBrackets && (c = '?' || c = ':'))))

end RoleAccess.Yaml

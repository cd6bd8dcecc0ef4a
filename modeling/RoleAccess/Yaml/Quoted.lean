import RoleAccess.Number.Digits
import RoleAccess.Yaml.Text

/-!
# Quoted scalars

Between apostrophes, an apostrophe is written twice and everything else stands
for itself. Between double quotes, a backslash starts an escape: a letter or
mark for one character, or a code point in two, four or eight hexadecimal
digits; before a line break it joins the lines. A character can be escaped in two
halves, and a number that is no code point is a problem of its own. Line breaks fold as they do in
plain scalars, and the blanks around them are left out.
-/

namespace RoleAccess.Yaml

/-- The character that an escape of one letter or mark stands for. -/
def simpleEscape : Char → Option Char
  | '0' => some '\x00'
  | 'a' => some '\x07'
  | 'b' => some '\x08'
  | 't' => some '\t'
  | '\t' => some '\t'
  | 'n' => some '\n'
  | 'v' => some '\x0b'
  | 'f' => some '\x0c'
  | 'r' => some '\r'
  | 'e' => some '\x1b'
  | ' ' => some ' '
  | '"' => some '"'
  | '\\' => some '\\'
  | '/' => some '/'
  | 'N' => some '\u0085'
  | '_' => some '\u00a0'
  | 'L' => some '\u2028'
  | 'P' => some '\u2029'
  | _ => none

/-- The number of digits after the letter of a code point escape. -/
def codeLength : Char → Option Nat
  | 'x' => some 2
  | 'u' => some 4
  | 'U' => some 8
  | _ => none

/-- Breaks at the start of a text, with the blanks around them left out; a
document marker at the start of a line is a problem. -/
def quotedBreaks : (fuel : Nat) → List Char → List Placed → Except Fault (List Char × List Placed)
  | 0, empty, text => .ok (empty, text)
  | fuel + 1, empty, text =>
      if atMarker text then .error (faultAt text .markerInQuotes)
      else
        let rest := text.dropWhile fun here => here.char = ' ' || here.char = '\t'
        match takeBreak rest with
        | none => .ok (empty, rest)
        | some (c, after) => quotedBreaks fuel (empty ++ [c]) after

/-- The code point in a number of hexadecimal digits at the start of a text, and
the text after it. -/
def codePoint? (length : Nat) (text : List Placed) : Option (Nat × List Placed) :=
  let digits := chars (text.take length)
  if digits.length = length && digits.all Number.isHexDigit then
    some (Number.ofDigits 16 digits, text.drop length)
  else none

/-- The character whose two halves are the given code point and an escape at the
start of a text, and the text after it. Characters above the first 65536 can be
written in halves. -/
def joinHalves? (code : Nat) (text : List Placed) : Option (Char × List Placed) := do
  guard (0xd800 ≤ code && code < 0xdc00)
  match text with
  | slash :: letter :: rest =>
      guard (slash.char = '\\')
      let length ← codeLength letter.char
      let (other, after) ← codePoint? length rest
      guard (0xdc00 ≤ other && other < 0xe000)
      return (Char.ofNat (0x10000 + (code - 0xd800) * 0x400 + (other - 0xdc00)), after)
  | _ => none

/-- The escape after a backslash: what it stands for and the text after it. -/
def escape (text : List Placed) : Except Fault (List Char × List Placed) :=
  match text with
  | [] => .error ⟨.unknownEscape, none⟩
  | here :: rest =>
      match simpleEscape here.char, codeLength here.char with
      | some c, _ => .ok ([c], rest)
      | none, some length =>
          match codePoint? length rest with
          | none => .error (here.fault .unknownEscape)
          | some (code, after) =>
              if 0x110000 ≤ code then .error (here.fault (.noCharacter code))
              else
                match joinHalves? code after with
                | some (c, after) => .ok ([c], after)
                | none => .ok ([Char.ofNat code], after)
      | none, none =>
          match takeBreak text with
          | some (_, after) => quotedBreaks (after.length + 1) [] after
          | none => .error (here.fault .unknownEscape)

/-- Reads the rest of a quoted scalar after its opening quote: its text and the
text after the closing quote. -/
def quotedFrom (quote : Char) :
    (fuel : Nat) → List Placed → Except Fault (List Char × List Placed)
  | 0, _ => .error ⟨.unclosedQuote, none⟩
  | fuel + 1, text => do
      match text with
      | [] => throw ⟨.unclosedQuote, none⟩
      | here :: rest =>
          let doubled := quote = '\'' && (rest.head?.any fun next => next.char = '\'')
          if here.char = quote && !doubled then return ([], rest)
          let (read, after) ←
            if here.char = quote then pure (['\''], rest.drop 1)
            else if quote = '"' && here.char = '\\' then escape rest
            else if isGap here.char then
              let blanks := text.takeWhile fun here => here.char = ' ' || here.char = '\t'
              let after := text.drop blanks.length
              match takeBreak after with
              | none => pure (chars blanks, after)
              | some (first, after) =>
                  (quotedBreaks (after.length + 1) [] after).map fun (empty, after) =>
                    (fold first empty, after)
            else pure ([here.char], rest)
          let (more, after) ← quotedFrom quote fuel after
          return (read ++ more, after)

/-- Reads the quoted scalar after its opening quote. -/
def quotedScalar (quote : Char) (text : List Placed) :
    Except Fault (List Char × List Placed) :=
  quotedFrom quote (text.length + 1) text

end RoleAccess.Yaml

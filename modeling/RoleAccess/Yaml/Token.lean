import RoleAccess.Yaml.Plain
import RoleAccess.Yaml.Quoted

/-!
# Tokens of a YAML text

Tokens make the layout of a text explicit: where a block of entries starts and
ends, and which scalars are keys. A block is open from the column of its first
entry until a token stands further to the left. Whether a scalar or a collection
is a key only shows at the colon after it; until then it is a candidate, and the
colon puts the key token in front of it. A candidate has to be on the line of
its colon and at most 1024 characters before it; one at the column of a block
outside brackets can be nothing but a key.
-/

namespace RoleAccess.Yaml

/-- A token. -/
inductive Token where
  | scalar (text : List Char) (plain : Bool)
  | key
  | value
  | entry
  | sequenceStart
  | mappingStart
  | blockEnd
  | openBracket
  | closeBracket
  | openBrace
  | closeBrace
  | comma
  | documentStart
  | documentEnd
  deriving DecidableEq, Repr

/-- A token that may turn out to start a key. -/
structure Candidate where
  /-- The number of tokens before it. -/
  position : Nat
  place : Placed
  /-- Whether it can be nothing but a key. -/
  required : Bool

/-- The state of reading tokens. -/
structure Lexer where
  /-- The text still to be read. -/
  rest : List Placed
  tokens : Array Token := #[]
  /-- The columns of the open blocks, innermost first. -/
  blocks : List Nat := []
  /-- Whether a key may start here. -/
  keyAllowed : Bool := true
  /-- The candidate outside brackets and inside each open bracket, innermost
  first; there is one place more than open brackets. -/
  candidates : List (Option Candidate) := [none]

namespace Lexer

/-- Whether the text that is read next stands inside brackets. -/
def inBrackets (lexer : Lexer) : Bool := 1 < lexer.candidates.length

/-- Leaves out spaces, comments and line breaks; a line break outside brackets
allows a key. -/
def skipGap (inBrackets : Bool) : (keyAllowed comment : Bool) → List Placed → Bool × List Placed
  | keyAllowed, _, [] => (keyAllowed, [])
  | keyAllowed, comment, here :: rest =>
      if isBreak here.char then skipGap inBrackets (keyAllowed || !inBrackets) false rest
      else if comment then skipGap inBrackets keyAllowed true rest
      else if here.char = ' ' then skipGap inBrackets keyAllowed false rest
      else if here.char = '#' then skipGap inBrackets keyAllowed true rest
      else (keyAllowed, here :: rest)

/-- Gives up a candidate: a problem if it can be nothing but a key. -/
def dropCandidate : Option Candidate → Except Fault Unit
  | some candidate =>
      if candidate.required then .error (candidate.place.fault .missingColon) else .ok ()
  | none => .ok ()

/-- Gives up the candidate of the innermost bracket. -/
def forget (lexer : Lexer) : Except Fault Lexer := do
  match lexer.candidates with
  | [] => return lexer
  | candidate :: outer =>
      dropCandidate candidate
      return { lexer with candidates := none :: outer }

/-- Whether a candidate is too far away from a place to be a key. -/
def isStale (here : Placed) (candidate : Candidate) : Bool :=
  candidate.place.line ≠ here.line || 1024 < here.index - candidate.place.index

/-- Gives up the candidates that are too far away from a place. -/
def dropStale (here : Placed) : List (Option Candidate) → Except Fault (List (Option Candidate))
  | [] => .ok []
  | none :: outer => return none :: (← dropStale here outer)
  | some candidate :: outer =>
      if isStale here candidate then do
        dropCandidate (some candidate)
        return none :: (← dropStale here outer)
      else return some candidate :: (← dropStale here outer)

/-- Closes the blocks that a token at a given column ends. -/
def closeBlocks (lexer : Lexer) (ends : Nat → Bool) : Lexer :=
  let closed := lexer.blocks.takeWhile ends
  { lexer with
    blocks := lexer.blocks.drop closed.length
    tokens := lexer.tokens ++ closed.map fun _ => Token.blockEnd }

/-- Whether a block at a column is deeper than all open ones. -/
def opensBlock (lexer : Lexer) (column : Nat) : Bool :=
  match lexer.blocks with
  | [] => true
  | innermost :: _ => innermost < column

/-- Adds a token at the end. -/
def push (lexer : Lexer) (token : Token) : Lexer :=
  { lexer with tokens := lexer.tokens.push token }

/-- Opens a block at a column, with the given token, unless one is open there. -/
def openBlock (lexer : Lexer) (column : Nat) (token : Token) : Lexer :=
  if lexer.opensBlock column then
    { lexer.push token with blocks := column :: lexer.blocks }
  else lexer

/-- Makes the next token a candidate, if a key may start here. -/
def saveCandidate (lexer : Lexer) (here : Placed) : Except Fault Lexer := do
  if lexer.keyAllowed then
    let lexer ← lexer.forget
    let required := !lexer.inBrackets && lexer.blocks.head? = some here.column
    return { lexer with
      candidates := some ⟨lexer.tokens.size, here, required⟩ :: lexer.candidates.drop 1 }
  else return lexer

/-- Reads a document marker of three characters. -/
def marker (lexer : Lexer) (token : Token) (rest : List Placed) : Except Fault Lexer := do
  let lexer ← (lexer.closeBlocks fun _ => true).forget
  return { lexer.push token with keyAllowed := false, rest := rest.drop 2 }

/-- Reads an opening bracket. -/
def opening (lexer : Lexer) (here : Placed) (token : Token) (rest : List Placed) :
    Except Fault Lexer := do
  let lexer ← lexer.saveCandidate here
  return { lexer.push token with
    candidates := none :: lexer.candidates, keyAllowed := true, rest }

/-- Reads a closing bracket. -/
def closing (lexer : Lexer) (here : Placed) (token : Token) (rest : List Placed) :
    Except Fault Lexer := do
  let lexer ← lexer.forget
  if !lexer.inBrackets then throw (here.fault .unmatchedBracket)
  return { lexer.push token with
    candidates := lexer.candidates.drop 1, keyAllowed := false, rest }

/-- Reads a comma. -/
def comma (lexer : Lexer) (rest : List Placed) : Except Fault Lexer := do
  let lexer ← lexer.forget
  return { lexer.push .comma with keyAllowed := true, rest }

/-- Reads the hyphen of a sequence entry. -/
def entry (lexer : Lexer) (here : Placed) (rest : List Placed) : Except Fault Lexer := do
  if !lexer.inBrackets && !lexer.keyAllowed then throw (here.fault .misplacedEntry)
  let lexer := if lexer.inBrackets then lexer else lexer.openBlock here.column .sequenceStart
  let lexer ← lexer.forget
  return { lexer.push .entry with keyAllowed := true, rest }

/-- Reads the question mark of a key. -/
def key (lexer : Lexer) (here : Placed) (rest : List Placed) : Except Fault Lexer := do
  if !lexer.inBrackets && !lexer.keyAllowed then throw (here.fault .misplacedKey)
  let lexer := if lexer.inBrackets then lexer else lexer.openBlock here.column .mappingStart
  let lexer ← lexer.forget
  return { lexer.push .key with keyAllowed := !lexer.inBrackets, rest }

/-- Puts the key token in front of a candidate, and the start of its mapping in
front of that if the mapping is new. -/
def confirm (lexer : Lexer) (candidate : Candidate) : Lexer :=
  let tokens := lexer.tokens.insertIdxIfInBounds candidate.position .key
  let column := candidate.place.column
  if !lexer.inBrackets && lexer.opensBlock column then
    { lexer with
      tokens := tokens.insertIdxIfInBounds candidate.position .mappingStart
      blocks := column :: lexer.blocks }
  else { lexer with tokens }

/-- Reads the colon of a value. -/
def value (lexer : Lexer) (here : Placed) (rest : List Placed) : Except Fault Lexer := do
  match lexer.candidates with
  | some candidate :: outer =>
      let lexer := { lexer.confirm candidate with candidates := none :: outer }
      return { lexer.push .value with keyAllowed := false, rest }
  | _ =>
      if !lexer.inBrackets && !lexer.keyAllowed then throw (here.fault .misplacedValue)
      let lexer := if lexer.inBrackets then lexer else lexer.openBlock here.column .mappingStart
      return { lexer.push .value with keyAllowed := !lexer.inBrackets, rest }

/-- Reads a quoted scalar. -/
def quoted (lexer : Lexer) (here : Placed) (rest : List Placed) : Except Fault Lexer := do
  let lexer ← lexer.saveCandidate here
  let (text, rest) ← quotedScalar here.char rest
  return { lexer.push (.scalar text false) with keyAllowed := false, rest }

/-- Reads a plain scalar. -/
def plain (lexer : Lexer) (here : Placed) (text : List Placed) : Except Fault Lexer := do
  let indent := (lexer.blocks.head?.map (· + 1)).getD 0
  let inBrackets := lexer.inBrackets
  let lexer ← lexer.saveCandidate here
  let scalar := plainScalar inBrackets indent text
  return { lexer.push (.scalar scalar.text true) with
    keyAllowed := scalar.broken, rest := scalar.rest }

/-- The name of a feature outside the subset that a character starts. -/
def unsupportedFeature (inBrackets : Bool) (here : Placed) : Option String :=
  if here.char = '%' && here.column = 0 then some "directives"
  else if here.char = '&' then some "anchors"
  else if here.char = '*' then some "aliases"
  else if here.char = '!' then some "tags"
  else if (here.char = '|' || here.char = '>') && !inBrackets then some "block scalars"
  else none

/-- Reads the token that starts with a character, before the given rest. -/
def token (lexer : Lexer) (here : Placed) (rest : List Placed) : Except Fault Lexer := do
  let c := here.char
  let inBrackets := lexer.inBrackets
  if let some feature := unsupportedFeature inBrackets here then
    throw (here.fault (.unsupported feature))
  if here.column = 0 && atMarker (here :: rest) then
    lexer.marker (if c = '-' then .documentStart else .documentEnd) rest
  else if c = '[' then lexer.opening here .openBracket rest
  else if c = '\x7b' then lexer.opening here .openBrace rest
  else if c = ']' then lexer.closing here .closeBracket rest
  else if c = '\x7d' then lexer.closing here .closeBrace rest
  else if c = ',' then lexer.comma rest
  else if c = '-' && atGap rest then lexer.entry here rest
  else if c = '?' && (inBrackets || atGap rest) then lexer.key here rest
  else if c = ':' && (inBrackets || atGap rest) then lexer.value here rest
  else if c = '\'' || c = '"' then lexer.quoted here rest
  else if startsPlain inBrackets c rest then lexer.plain here (here :: rest)
  else throw (here.fault (.strayCharacter c))

/-- Reads tokens to the end of the text; `fuel` bounds their number. -/
def run : (fuel : Nat) → Lexer → Except Fault (List Token)
  | 0, lexer => .ok lexer.tokens.toList
  | fuel + 1, lexer => do
      let (keyAllowed, rest) := skipGap lexer.inBrackets lexer.keyAllowed false lexer.rest
      match rest with
      | [] =>
          lexer.candidates.forM dropCandidate
          return (lexer.closeBlocks fun _ => true).tokens.toList
      | here :: after =>
          let candidates ← dropStale here lexer.candidates
          let lexer := { lexer with keyAllowed, candidates }
          let lexer :=
            if lexer.inBrackets then lexer else lexer.closeBlocks (here.column < ·)
          run fuel (← lexer.token here after)

end Lexer

/-- The tokens of a text. -/
def Token.ofText (text : List Char) : Except Fault (List Token) :=
  if text.all isAllowed then
    let placed := place text
    Lexer.run (placed.length + 1) { rest := placed }
  else .error ⟨.forbiddenCharacter, none⟩

end RoleAccess.Yaml

import RoleAccess.Yaml.Token

/-!
# Nodes of a YAML document

A document is a tree of scalars, sequences and mappings. An entry without
content holds the empty scalar. A block sequence under a key need not be
indented; it then ends where the next key does (`looseItems`).

Every reading function takes a token or hands the same tokens to a function of a
smaller form, so four calls for each token are enough; `fuel` counts them.
-/

namespace RoleAccess.Yaml

/-- A node of a document. -/
inductive Node where
  | scalar (text : List Char) (plain : Bool)
  | sequence (items : List Node)
  | mapping (entries : List (Node × Node))

namespace Node

/-- The scalar of an entry without content. -/
def empty : Node := scalar [] true

/-- The fault for a token that does not fit. -/
def misfit (expected : String) : Fault := ⟨.unexpected expected, none⟩

/-- Whether the next token is one of some. -/
def next (expected : List Token) : List Token → Bool
  | [] => false
  | token :: _ => expected.contains token

/-- Where a node may be read: in brackets, or in a block, and then perhaps a
sequence without indentation. -/
inductive Position where
  | inBrackets
  | inBlock
  | underKey
  deriving DecidableEq

/-- Takes the comma between two items; there is none before the first. -/
def afterComma : (first : Bool) → List Token → Except Fault (List Token)
  | true, tokens => .ok tokens
  | false, .comma :: rest => .ok rest
  | false, _ => .error (misfit "a comma or a closing bracket")

mutual

/-- Reads a node. -/
def node : (fuel : Nat) → Position → List Token → Except Fault (Node × List Token)
  | 0, _, _ => .error (misfit "content")
  | fuel + 1, position, tokens =>
      match tokens with
      | .scalar text plain :: rest => .ok (.scalar text plain, rest)
      | .openBracket :: rest => do
          let (items, rest) ← bracketItems fuel true rest
          return (.sequence items, rest)
      | .openBrace :: rest => do
          let (entries, rest) ← braceEntries fuel true rest
          return (.mapping entries, rest)
      | .entry :: _ =>
          if position = .underKey then do
            let (items, rest) ← looseItems fuel tokens
            return (.sequence items, rest)
          else .error (misfit "content")
      | .sequenceStart :: rest =>
          if position = .inBrackets then .error (misfit "content")
          else do
            let (items, rest) ← blockItems fuel rest
            return (.sequence items, rest)
      | .mappingStart :: rest =>
          if position = .inBrackets then .error (misfit "content")
          else do
            let (entries, rest) ← blockEntries fuel rest
            return (.mapping entries, rest)
      | _ => .error (misfit "content")

/-- Reads a node, or the empty scalar before one of the given tokens. -/
def nodeOrEmpty (fuel : Nat) (position : Position) (ends : List Token) (tokens : List Token) :
    Except Fault (Node × List Token) :=
  match fuel with
  | 0 => .error (misfit "content")
  | fuel + 1 => if next ends tokens then .ok (empty, tokens) else node fuel position tokens

/-- Reads the items of a block sequence. -/
def blockItems : (fuel : Nat) → List Token → Except Fault (List Node × List Token)
  | 0, _ => .error (misfit "the end of a block")
  | fuel + 1, .entry :: rest => do
      let (item, rest) ← nodeOrEmpty fuel .inBlock [.entry, .blockEnd] rest
      let (items, rest) ← blockItems fuel rest
      return (item :: items, rest)
  | _, .blockEnd :: rest => .ok ([], rest)
  | _, _ => .error (misfit "the end of a block")

/-- Reads the items of a block sequence without indentation. -/
def looseItems : (fuel : Nat) → List Token → Except Fault (List Node × List Token)
  | fuel + 1, .entry :: rest => do
      let (item, rest) ← nodeOrEmpty fuel .inBlock [.entry, .key, .value, .blockEnd] rest
      let (items, rest) ← looseItems fuel rest
      return (item :: items, rest)
  | _, tokens => .ok ([], tokens)

/-- Reads the entries of a block mapping. -/
def blockEntries : (fuel : Nat) → List Token → Except Fault (List (Node × Node) × List Token)
  | 0, _ => .error (misfit "the end of a block")
  | fuel + 1, .key :: rest => do
      let (name, rest) ← nodeOrEmpty fuel .underKey [.key, .value, .blockEnd] rest
      let (content, rest) ← blockValue fuel rest
      let (entries, rest) ← blockEntries fuel rest
      return ((name, content) :: entries, rest)
  | _, .blockEnd :: rest => .ok ([], rest)
  | _, _ => .error (misfit "the end of a block")

/-- Reads the value of a block mapping entry, which may be left out. -/
def blockValue : (fuel : Nat) → List Token → Except Fault (Node × List Token)
  | fuel + 1, .value :: rest => nodeOrEmpty fuel .underKey [.key, .value, .blockEnd] rest
  | _, tokens => .ok (empty, tokens)

/-- Reads the items inside square brackets. An item with a colon is a mapping of
one entry. -/
def bracketItems :
    (fuel : Nat) → (first : Bool) → List Token → Except Fault (List Node × List Token)
  | 0, _, _ => .error (misfit "a closing bracket")
  | fuel + 1, first, tokens => do
      if let .closeBracket :: rest := tokens then return ([], rest)
      let tokens ← afterComma first tokens
      match tokens with
      | .closeBracket :: rest => return ([], rest)
      | .key :: rest =>
          let (name, rest) ← nodeOrEmpty fuel .inBrackets [.value, .comma, .closeBracket] rest
          let (content, rest) ← bracketValue fuel .closeBracket rest
          let (items, rest) ← bracketItems fuel false rest
          return (.mapping [(name, content)] :: items, rest)
      | _ =>
          let (item, rest) ← node fuel .inBrackets tokens
          let (items, rest) ← bracketItems fuel false rest
          return (item :: items, rest)

/-- Reads the entries inside braces. An entry without a colon has no value. -/
def braceEntries :
    (fuel : Nat) → (first : Bool) → List Token → Except Fault (List (Node × Node) × List Token)
  | 0, _, _ => .error (misfit "a closing brace")
  | fuel + 1, first, tokens => do
      if let .closeBrace :: rest := tokens then return ([], rest)
      let tokens ← afterComma first tokens
      match tokens with
      | .closeBrace :: rest => return ([], rest)
      | .key :: rest =>
          let (name, rest) ← nodeOrEmpty fuel .inBrackets [.value, .comma, .closeBrace] rest
          let (content, rest) ← bracketValue fuel .closeBrace rest
          let (entries, rest) ← braceEntries fuel false rest
          return ((name, content) :: entries, rest)
      | _ =>
          let (name, rest) ← node fuel .inBrackets tokens
          let (entries, rest) ← braceEntries fuel false rest
          return ((name, empty) :: entries, rest)

/-- Reads the value of an entry inside brackets, which may be left out. -/
def bracketValue : (fuel : Nat) → (close : Token) → List Token → Except Fault (Node × List Token)
  | fuel + 1, close, .value :: rest => nodeOrEmpty fuel .inBrackets [.comma, close] rest
  | _, _, tokens => .ok (empty, tokens)

end

/-- Nothing but markers of a document's end may follow a document. -/
def finish (content : Node) (rest : List Token) : Except Fault (Option Node) :=
  match rest.dropWhile (· = .documentEnd) with
  | [] => .ok (some content)
  | _ => .error ⟨.secondDocument, none⟩

/-- The document that tokens write; there may be none. -/
def ofTokens (tokens : List Token) : Except Fault (Option Node) :=
  let fuel := 4 * tokens.length + 4
  match tokens with
  | [] => .ok none
  | .documentStart :: rest =>
      match rest with
      | [] => .ok (some empty)
      | .documentStart :: _ | .documentEnd :: _ => finish empty rest
      | _ => do
          let (content, rest) ← node fuel .inBlock rest
          finish content rest
  | _ => do
      let (content, rest) ← node fuel .inBlock tokens
      finish content rest

end Node

end RoleAccess.Yaml

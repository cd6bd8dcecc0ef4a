import RoleAccess.Table
import RoleAccess.Value.Basic

/-!
# Expansion of process variables

A text may refer to variables of the process: by a dollar sign and a name of
ASCII letters, digits and underscores, the longest that stands there, or by a
dollar sign and any name in braces. A reference to a known variable is replaced
by its value, which is not expanded again; any other reference stays as it is.

In a document, only texts that are items of lists or values of mappings are
expanded. Keys keep their text, and so do the values under `environment` at the
top, which are policy data (`Settings.expandDocument`).

The variables that a text does not refer to have no influence on its expansion
(`expandFrom_congr`), so a caller may look up only those in `names`.
-/

namespace RoleAccess.Settings

/-- Characters of a name without braces. -/
def isNameChar (c : Char) : Bool := c.isAlphanum || c = '_'

/-- The reference after a dollar sign: its name and its length. -/
def reference (text : List Char) : Option (List Char × Nat) :=
  match text with
  | '{' :: rest =>
      let name := rest.takeWhile (· ≠ '}')
      if name.length < rest.length then some (name, name.length + 2) else none
  | _ =>
      let name := text.takeWhile isNameChar
      if name.isEmpty then none else some (name, name.length)

/-- Replaces references; `skip` counts the characters of a reference that has
been replaced already. -/
def expandFrom (process : Table String String) : (skip : Nat) → List Char → List Char
  | _, [] => []
  | skip + 1, _ :: rest => expandFrom process skip rest
  | 0, c :: rest =>
      if c = '$' then
        match reference rest with
        | none => c :: expandFrom process 0 rest
        | some (name, length) =>
            match process.get? (String.ofList name) with
            | some value => value.toList ++ expandFrom process length rest
            | none => c :: rest.take length ++ expandFrom process length rest
      else c :: expandFrom process 0 rest

/-- The text with its references replaced. -/
def expandText (process : Table String String) (text : String) : String :=
  String.ofList (expandFrom process 0 text.toList)

/-- The names that the references of a text refer to; `skip` counts the characters
of a reference that has been read already. -/
def namesFrom : (skip : Nat) → List Char → List String
  | _, [] => []
  | skip + 1, _ :: rest => namesFrom skip rest
  | 0, c :: rest =>
      if c = '$' then
        match reference rest with
        | none => namesFrom 0 rest
        | some (name, length) => String.ofList name :: namesFrom length rest
      else namesFrom 0 rest

mutual

/-- The value with the texts inside its lists and mappings expanded. -/
def expand (process : Table String String) : Value → Value
  | .text text => .text (expandText process text)
  | .list items => .list (expandItems process items)
  | .map entries => .map (expandEntries process entries)
  | value => value

/-- The items of a list, expanded. -/
def expandItems (process : Table String String) : List Value → List Value
  | [] => []
  | item :: rest => expand process item :: expandItems process rest

/-- The entries of a mapping with their values expanded. -/
def expandEntries (process : Table String String) :
    List (Value × Value) → List (Value × Value)
  | [] => []
  | (key, value) :: rest => (key, expand process value) :: expandEntries process rest

end

mutual

/-- The names that the texts inside a value refer to. -/
def names : Value → List String
  | .text text => namesFrom 0 text.toList
  | .list items => itemNames items
  | .map entries => entryNames entries
  | _ => []

/-- The names that the items of a list refer to. -/
def itemNames : List Value → List String
  | [] => []
  | item :: rest => names item ++ itemNames rest

/-- The names that the values of a mapping refer to. -/
def entryNames : List (Value × Value) → List String
  | [] => []
  | (_, value) :: rest => names value ++ entryNames rest

end

/-- Whether a key is the name of the section that holds policy data. -/
def isVerbatim : Value → Bool
  | .text name => name = "environment"
  | _ => false

/-- A settings document with its values expanded, except for policy data. -/
def expandDocument (process : Table String String) (document : List (Value × Value)) :
    List (Value × Value) :=
  document.map fun entry =>
    (entry.1, if isVerbatim entry.1 then entry.2 else expand process entry.2)

/-- Without a dollar sign there is nothing to expand. -/
theorem expandFrom_of_not_mem (process : Table String String) {text : List Char}
    (h : '$' ∉ text) : expandFrom process 0 text = text := by
  induction text with
  | nil => rfl
  | cons c rest ih =>
      have hc : c ≠ '$' := fun e => h (e ▸ List.mem_cons_self)
      have hrest : '$' ∉ rest := fun m => h (List.mem_cons_of_mem c m)
      simp [expandFrom, hc, ih hrest]

/-- Only the variables that a text refers to matter to its expansion. -/
theorem expandFrom_congr {process others : Table String String} (skip : Nat) (text : List Char)
    (h : ∀ name ∈ namesFrom skip text, process.get? name = others.get? name) :
    expandFrom process skip text = expandFrom others skip text := by
  fun_induction namesFrom skip text with
  | case1 => simp [expandFrom]
  | case2 skip _ rest ih => simpa [expandFrom] using ih h
  | case3 rest hnone ih => simp [expandFrom, hnone, ih h]
  | case4 rest name length hsome ih =>
      have hname := h (String.ofList name) List.mem_cons_self
      have hrest := ih fun other m => h other (List.mem_cons_of_mem _ m)
      simp [expandFrom, hsome, hname, hrest]
  | case5 c rest hc ih => simp [expandFrom, hc, ih h]

end RoleAccess.Settings

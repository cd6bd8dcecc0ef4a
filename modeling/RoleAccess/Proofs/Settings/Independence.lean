import RoleAccess.Environment
import RoleAccess.Proofs.Files.Tree
import RoleAccess.Proofs.Settings.Sections

/-!
# What the process has no influence on

The variables of a process are put into the texts of a settings document and nowhere else.
To say so, a place inside a value is given by the indices that lead there through lists and
mappings (`Value.inside?`), and what is there apart from its text is its `Value.Shape`: the
length of a list, the keys of a mapping, and any other value as a whole.

Going to a place and expanding can be done in either order (`inside?_expand`), so expansion
changes no shape, and a text only if there is a dollar sign in it
(`shape_inside?_expandDocument`, `text_inside?_expandDocument`). The environment section is
not expanded at all. So two runs that load one document under different variables agree on
everything else, and if both get an environment, it is the same (`loadDocument_agree`). That one
of them gets an environment does not mean that the other one does: a logging section that is a
reference may be refused by one of them only (`environmentOf_referredDocument`).
-/

namespace RoleAccess

/-- What a value is, apart from the texts inside its lists and mappings. -/
inductive Value.Shape where
  | text
  | list (length : Nat)
  | map (keys : List Value)
  /-- A value that nothing is expanded in. -/
  | leaf (value : Value)

namespace Value

/-- The shape of a value. -/
def shape : Value → Shape
  | text _ => .text
  | list items => .list items.length
  | map entries => .map (entries.map Prod.fst)
  | value => .leaf value

/-- The item of a list, or the value of a mapping's entry, at an index. -/
def part? : Value → Nat → Option Value
  | list items, i => items[i]?
  | map entries, i => entries[i]?.map Prod.snd
  | _, _ => none

/-- What is inside a value at a place, which is given by the indices of the parts that lead
there. -/
def inside? (value : Value) : (place : List Nat) → Option Value
  | [] => some value
  | i :: place => (value.part? i).bind (·.inside? place)

end Value

namespace Settings

/-- The environment that a settings document describes. -/
def environmentOf (document : List (Value × Value)) : Except LoadError Environment := do
  let settings ← ofDocument document
  (Environment.ofDocument (.map settings.environment)).mapError fun fault =>
    .policy (.environment fault)

/-- Two results of expanding a document agree on what the process has no influence on: on
their keys, on the environment section and on the shapes at every place. Only texts with a
dollar sign can be different. -/
structure AgreeOn (document first second : List (Value × Value)) : Prop where
  keys : first.map Prod.fst = document.map Prod.fst ∧ second.map Prod.fst = document.map Prod.fst
  verbatim : Value.lookup "environment" first = Value.lookup "environment" document ∧
    Value.lookup "environment" second = Value.lookup "environment" document
  shapes : ∀ place, ((Value.map first).inside? place).map Value.shape =
    ((Value.map second).inside? place).map Value.shape
  texts : ∀ place one another, (Value.map first).inside? place = some (.text one) →
    (Value.map second).inside? place = some (.text another) → one ≠ another →
      ∃ text, (Value.map document).inside? place = some (.text text) ∧ '$' ∈ text.toList

variable {process other : Table String String} {document : List (Value × Value)}
  {environment : Environment}

/-! ## Expansion at a place -/

theorem expandItems_eq_map (process : Table String String) (items : List Value) :
    expandItems process items = items.map (expand process) := by
  induction items with
  | nil => rfl
  | cons item items ih => rw [expandItems, ih, List.map_cons]

theorem expandEntries_eq_map (process : Table String String) (entries : List (Value × Value)) :
    expandEntries process entries =
      entries.map fun entry => (entry.1, expand process entry.2) := by
  induction entries with
  | nil => rfl
  | cons entry entries ih => rw [expandEntries, ih, List.map_cons]

theorem part?_expand (process : Table String String) (value : Value) (i : Nat) :
    (expand process value).part? i = (value.part? i).map (expand process) := by
  cases value with
  | list items => simp [expand, expandItems_eq_map, Value.part?]
  | map entries =>
      simp only [expand, expandEntries_eq_map, Value.part?, List.getElem?_map, Option.map_map]
      rfl
  | _ => rfl

/-- What is at a place of an expanded value is the expansion of what was there. -/
theorem inside?_expand (process : Table String String) (value : Value) (place : List Nat) :
    (expand process value).inside? place = (value.inside? place).map (expand process) := by
  induction place generalizing value with
  | nil => rfl
  | cons i place ih =>
      rw [Value.inside?, Value.inside?, part?_expand, Option.bind_map, Option.map_bind]
      exact congrArg _ (funext fun part => ih part)

theorem shape_expand (process : Table String String) (value : Value) :
    (expand process value).shape = value.shape := by
  cases value with
  | list items => simp [expand, expandItems_eq_map, Value.shape]
  | map entries => simp [expand, expandEntries_eq_map, Value.shape]
  | _ => rfl

theorem expand_text_of_not_mem (process : Table String String) {text : String}
    (hdollar : '$' ∉ text.toList) : expand process (.text text) = .text text := by
  rw [expand, expandText, expandFrom_of_not_mem process hdollar, String.ofList_toList]

/-- A value that expands to a text is a text, and the same one without a dollar sign. -/
theorem eq_text_of_expand_eq_text {value : Value} {one : String}
    (h : expand process value = .text one) :
    ∃ text, value = .text text ∧ ('$' ∉ text.toList → one = text) := by
  cases value with
  | text text =>
      refine ⟨text, rfl, fun hdollar => ?_⟩
      rw [expand_text_of_not_mem process hdollar, Value.text.injEq] at h
      exact h.symm
  | _ => cases h

/-! ## Documents -/

theorem keys_expandDocument (process : Table String String) (document : List (Value × Value)) :
    (expandDocument process document).map Prod.fst = document.map Prod.fst := by
  simp [expandDocument]

/-- Below its top a document is expanded entry by entry, apart from policy data. -/
theorem inside?_expandDocument_cons (process : Table String String)
    (document : List (Value × Value)) (i : Nat) (place : List Nat) :
    (Value.map (expandDocument process document)).inside? (i :: place) =
      document[i]?.bind fun entry =>
        (if isVerbatim entry.1 then entry.2 else expand process entry.2).inside? place := by
  rw [Value.inside?, Value.part?, expandDocument, List.getElem?_map, Option.map_map,
    Option.bind_map]
  rfl

theorem inside?_map_cons (document : List (Value × Value)) (i : Nat) (place : List Nat) :
    (Value.map document).inside? (i :: place) =
      document[i]?.bind fun entry => entry.2.inside? place := by
  rw [Value.inside?, Value.part?, Option.bind_map]
  rfl

theorem shape_inside?_expandDocument (process : Table String String)
    (document : List (Value × Value)) (place : List Nat) :
    ((Value.map (expandDocument process document)).inside? place).map Value.shape =
      ((Value.map document).inside? place).map Value.shape := by
  cases place with
  | nil => simp [Value.inside?, Value.shape, keys_expandDocument]
  | cons i place =>
      rw [inside?_expandDocument_cons, inside?_map_cons]
      cases document[i]? with
      | none => rfl
      | some entry =>
          simp only [Option.bind_some]
          split
          · rfl
          · rw [inside?_expand, Option.map_map]
            exact congrArg (Option.map · _) (funext (shape_expand process))

/-- A text at a place of an expanded document was a text before, and the same one without a
dollar sign. -/
theorem text_inside?_expandDocument {place : List Nat} {one : String}
    (h : (Value.map (expandDocument process document)).inside? place = some (.text one)) :
    ∃ text, (Value.map document).inside? place = some (.text text) ∧
      ('$' ∉ text.toList → one = text) := by
  cases place with
  | nil => cases h
  | cons i place =>
      rw [inside?_expandDocument_cons] at h
      obtain ⟨entry, hentry, h⟩ := Option.bind_eq_some_iff.1 h
      rw [inside?_map_cons, hentry, Option.bind_some]
      split at h
      · exact ⟨one, h, fun _ => rfl⟩
      · rw [inside?_expand, Option.map_eq_some_iff] at h
        obtain ⟨value, hvalue, hone⟩ := h
        obtain ⟨text, rfl, hsame⟩ := eq_text_of_expand_eq_text hone
        exact ⟨text, hvalue, hsame⟩

theorem agreeOn_expandDocument (process other : Table String String)
    (document : List (Value × Value)) :
    AgreeOn document (expandDocument process document) (expandDocument other document) where
  keys := ⟨keys_expandDocument process document, keys_expandDocument other document⟩
  verbatim := ⟨lookup_expandDocument_environment process document,
    lookup_expandDocument_environment other document⟩
  shapes place := by rw [shape_inside?_expandDocument, shape_inside?_expandDocument]
  texts place one another hone hanother hne := by
    obtain ⟨text, htext, hsame⟩ := text_inside?_expandDocument hone
    obtain ⟨again, hagain, hsame'⟩ := text_inside?_expandDocument hanother
    obtain rfl : text = again := by
      rw [htext] at hagain
      cases hagain
      rfl
    refine ⟨text, htext, ?_⟩
    by_contra hdollar
    exact hne ((hsame hdollar).trans (hsame' hdollar).symm)

/-! ## Environments -/

/-- An environment is had if both sections are mappings, and the environment section has not
been expanded. -/
theorem environmentOf_expandDocument_eq_ok_iff :
    environmentOf (expandDocument process document) = .ok environment ↔
      (∃ logging, sectionOf "logging" (expandDocument process document) = .ok logging) ∧
        ∃ entries, sectionOf "environment" document = .ok entries ∧
          Environment.ofDocument (.map entries) = .ok environment := by
  unfold environmentOf
  rw [Fold.bind_eq_ok_iff]
  simp only [ofDocument_expandDocument_eq_ok_iff, Fold.mapError_eq_ok_iff]
  constructor
  · rintro ⟨_, ⟨logging, entries, hlogging, hentries, rfl⟩, h⟩
    exact ⟨⟨logging, hlogging⟩, entries, hentries, h⟩
  · rintro ⟨⟨logging, hlogging⟩, entries, hentries, h⟩
    exact ⟨_, ⟨logging, entries, hlogging, hentries, rfl⟩, h⟩

/-- A logging section that is a mapping for one process is one for every other, unless it is
written as a text with a dollar sign. -/
theorem exists_dollar_of_sectionOf_eq_error {logging : List (Value × Value)} {error : LoadError}
    (hfirst : sectionOf "logging" (expandDocument process document) = .ok logging)
    (hsecond : sectionOf "logging" (expandDocument other document) = .error error) :
    ∃ text, Value.lookup "logging" document = some (.text text) ∧ '$' ∈ text.toList := by
  by_contra hnone
  push Not at hnone
  have hok : ∃ entries, sectionOf "logging" (expandDocument other document) = .ok entries := by
    have hwritten := exists_sectionOf_eq_ok_iff.1 ⟨logging, hfirst⟩
    rw [exists_sectionOf_eq_ok_iff]
    rw [lookup_expandDocument _ _ (by decide)] at hwritten ⊢
    cases hlookup : Value.lookup "logging" document with
    | none => rfl
    | some value =>
        rw [hlookup] at hwritten
        simp only [Option.map_some, Option.getD_some] at hwritten ⊢
        by_cases htext : ∃ text, value = .text text
        · obtain ⟨text, rfl⟩ := htext
          have hdollar := hnone text hlookup
          rw [expand_text_of_not_mem _ hdollar] at hwritten ⊢
          exact hwritten
        · push Not at htext
          rw [isSection_expand htext] at hwritten ⊢
          exact hwritten
  obtain ⟨entries, hentries⟩ := hok
  rw [hentries] at hsecond
  cases hsecond

/-- Settings that both processes get have the same environment section, so whatever comes of it
is the same for both. -/
theorem environmentOf_eq_of_ofDocument {settings others : Settings}
    (hfirst : ofDocument (expandDocument process document) = .ok settings)
    (hsecond : ofDocument (expandDocument other document) = .ok others) :
    settings.environment = others.environment ∧
      environmentOf (expandDocument process document) =
        environmentOf (expandDocument other document) := by
  obtain ⟨logging, entries, -, hentries, rfl⟩ := ofDocument_expandDocument_eq_ok_iff.1 hfirst
  obtain ⟨logging', entries', -, hentries', rfl⟩ := ofDocument_expandDocument_eq_ok_iff.1 hsecond
  cases hentries.symm.trans hentries'
  refine ⟨rfl, ?_⟩
  unfold environmentOf
  rw [hfirst, hsecond]
  rfl

/-- A process that another one's environment is kept from refuses the logging section, which is
written as a text with a dollar sign. -/
theorem environmentOf_expandDocument_cases
    (h : environmentOf (expandDocument process document) = .ok environment)
    (other : Table String String) :
    environmentOf (expandDocument other document) = .ok environment ∨
      ∃ text, Value.lookup "logging" document = some (.text text) ∧ '$' ∈ text.toList ∧
        ∃ value, environmentOf (expandDocument other document) =
          .error (.badSection "logging" value) := by
  obtain ⟨⟨logging, hlogging⟩, entries, hentries, hbuilt⟩ :=
    environmentOf_expandDocument_eq_ok_iff.1 h
  -- The environment section is not expanded, so only the logging section can be refused.
  cases hother : sectionOf "logging" (expandDocument other document) with
  | ok logging =>
      exact .inl (environmentOf_expandDocument_eq_ok_iff.2
        ⟨⟨logging, hother⟩, entries, hentries, hbuilt⟩)
  | error error =>
      obtain ⟨text, htext, hdollar⟩ := exists_dollar_of_sectionOf_eq_error hlogging hother
      obtain ⟨value, rfl⟩ := sectionOf_eq_error_cases hother
      refine .inr ⟨text, htext, hdollar, value, ?_⟩
      unfold environmentOf ofDocument
      rw [hother]
      rfl

/-- Whatever mapping two processes load as their settings document, they get it expanded, and
agree on what is not a text with a dollar sign and on all policy data. If both sections are
mappings for both processes, then the same comes of the environment section. An environment that
one of them gets the other one gets too, unless it refuses its logging section: a whole section
that is a text with a dollar sign may be empty for one of them and a text for the other. -/
theorem loadDocument_agree (process other : Table String String)
    (document : List (Value × Value)) :
    (∀ (read : Reader) (files : Files.Tree) (path : Option String),
        files.loadMap read .configuration (pathOr path process) = .ok document →
          loadDocument read files process path = .ok (expandDocument process document)) ∧
      AgreeOn document (expandDocument process document) (expandDocument other document) ∧
      (∀ settings others, ofDocument (expandDocument process document) = .ok settings →
        ofDocument (expandDocument other document) = .ok others →
          settings.environment = others.environment ∧
            environmentOf (expandDocument process document) =
              environmentOf (expandDocument other document)) ∧
      ∀ environment, environmentOf (expandDocument process document) = .ok environment →
        environmentOf (expandDocument other document) = .ok environment ∨
          ∃ text, Value.lookup "logging" document = some (.text text) ∧ '$' ∈ text.toList ∧
            ∃ value, environmentOf (expandDocument other document) =
              .error (.badSection "logging" value) := by
  refine ⟨fun read files path hload => ?_, agreeOn_expandDocument process other document,
    fun settings others => environmentOf_eq_of_ofDocument,
    fun environment henvironment => environmentOf_expandDocument_cases henvironment other⟩
  rw [loadDocument, hload]
  rfl

/-- A process with settings in a file, and with one variable more. -/
def processWith (name value : String) : Table String String :=
  (Table.empty.put "ROLEGATE_CONFIG" "c").put name value

/-- A settings text that refers to a variable in both sections. -/
def referringText : String :=
  "logging: \x7blog_dir: $HOME/log\x7d\nenvironment: \x7bvariables: \x7bid: $HOME\x7d\x7d"

/-- The document in that text. -/
def referringDocument : List (Value × Value) :=
  [(.text "logging", .map [(.text "log_dir", .text "$HOME/log")]),
    (.text "environment", .map [(.text "variables", .map [(.text "id", .text "$HOME")])])]

/-- A settings text whose logging section is a reference. -/
def referredText : String := "logging: $X"

/-- The document in that text. -/
def referredDocument : List (Value × Value) := [(.text "logging", .text "$X")]

/-- The reader of both texts. -/
def readReferring : Reader :=
  Files.Tree.readerOf
    [(referringText, .map referringDocument), (referredText, .map referredDocument)]

/-- A working directory with a text in a file. -/
def filesWith (text : String) : Files.Tree := Files.Tree.place {} "c" (.file text.toUTF8)

theorem pathOr_processWith {name : String} (h : name ≠ "ROLEGATE_CONFIG") (value : String) :
    pathOr none (processWith name value) = "c" := by
  simp [pathOr, defaultPath, pathVariable, processWith, Table.get?_put, h.symm]

theorem loadMap_referringText (home : String) :
    (filesWith referringText).loadMap readReferring .configuration
      (pathOr none (processWith "HOME" home)) = .ok referringDocument := by
  rw [pathOr_processWith (by decide)]
  exact Files.Tree.loadMap_eq_ok_of_read rfl rfl

theorem loadMap_referredText (value : String) :
    (filesWith referredText).loadMap readReferring .configuration
      (pathOr none (processWith "X" value)) = .ok referredDocument := by
  rw [pathOr_processWith (by decide)]
  exact Files.Tree.loadMap_eq_ok_of_read rfl rfl

/-- The log directory follows the home of the process, and the environment does not. -/
theorem loadDocument_of_two_homes :
    ∃ first second,
      loadDocument readReferring (filesWith referringText) (processWith "HOME" "/a") none =
        .ok first ∧
      loadDocument readReferring (filesWith referringText) (processWith "HOME" "/b") none =
        .ok second ∧
      AgreeOn referringDocument first second ∧
      (Value.map first).inside? [0, 0] = some (.text "/a/log") ∧
      (Value.map second).inside? [0, 0] = some (.text "/b/log") ∧
      environmentOf first = .ok { bindings := Table.empty.put "id" "$HOME" } ∧
      environmentOf second = .ok { bindings := Table.empty.put "id" "$HOME" } := by
  obtain ⟨hfirst, hagree, -, henvironment⟩ :=
    loadDocument_agree (processWith "HOME" "/a") (processWith "HOME" "/b") referringDocument
  obtain ⟨hsecond, -⟩ :=
    loadDocument_agree (processWith "HOME" "/b") (processWith "HOME" "/a") referringDocument
  have hone : environmentOf (expandDocument (processWith "HOME" "/a") referringDocument) =
      .ok { bindings := Table.empty.put "id" "$HOME" } := rfl
  refine ⟨_, _, hfirst _ _ _ (loadMap_referringText "/a"),
    hsecond _ _ _ (loadMap_referringText "/b"), hagree, rfl, rfl, hone, ?_⟩
  rcases henvironment _ hone with hsame | ⟨text, htext, -⟩
  · exact hsame
  · simp [referringDocument, Value.lookup] at htext

/-- Of two processes that load one document, only one gets an environment: for the other one the
logging section is a text. -/
theorem environmentOf_referredDocument :
    ∃ first second,
      loadDocument readReferring (filesWith referredText) (processWith "X" "") none =
        .ok first ∧
      loadDocument readReferring (filesWith referredText) (processWith "X" "a") none =
        .ok second ∧
      environmentOf first = .ok .empty ∧
      environmentOf second = .error (.badSection "logging" (.text "a")) := by
  have hload (value : String) :
      loadDocument readReferring (filesWith referredText) (processWith "X" value) none =
        .ok (expandDocument (processWith "X" value) referredDocument) := by
    rw [loadDocument, loadMap_referredText]
    rfl
  exact ⟨_, _, hload "", hload "a", rfl, rfl⟩

end Settings

end RoleAccess

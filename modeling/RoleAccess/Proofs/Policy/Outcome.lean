import RoleAccess.Proofs.Checker.Outcome
import RoleAccess.Proofs.Policy.Verdict

/-!
# What the lines of a policy text come to

The outcome of a text, said on its lines alone. A line says nothing or is one of two kinds of
rule (`IsPolicyLine`), and every other line is wrong. What is wrong with a list of lines, if
anything, is a wrong line, a child under two parents, or a role that is put under itself, and
of these the first that there is (`Flaw`). So the order of the lines and their number have no
part in it, and neither has an empty line (`Flaw.congr`).

A text fails with an error of the kind that is wrong with its lines, and has a checker if
nothing is (`Policy.flaw_of_parse_eq_error`, `Policy.not_flaw_of_parse_eq_ok`). A rule that is
read from a line has segments, so the third error of a construction does not occur.
-/

namespace RoleAccess

/-- The kinds of errors, whatever they are about. -/
inductive PolicyError.Kind where
  | duplicateParent
  | cycle
  | rule
  | environment
  | parse
  | stated
  deriving DecidableEq, Repr

/-- The kind of an error. -/
def PolicyError.kind : PolicyError → PolicyError.Kind
  | .duplicateParent .. => .duplicateParent
  | .cycle _ => .cycle
  | .rule _ => .rule
  | .environment _ => .environment
  | .parse _ => .parse
  | .stated _ => .stated

/-- A part of a pattern that stands for something: it is not empty, and neither is what is in
its brackets or braces. -/
structure IsPatternPart (part : String) : Prop where
  nonempty : part ≠ ""
  square : part ≠ "[]"
  brace : part ≠ "\x7b\x7d"

/-- A line says nothing or is a rule: it has no words, or begins a comment, or puts a role
under another one, or allows or denies a role a pattern. -/
inductive IsPolicyLine (line : String) : Prop where
  | blank (h : Text.wordsOf line = [])
  | comment {first : String} {rest : List String} (h : Text.wordsOf line = first :: rest)
      (hash : first.toList.head? = some '#')
  | inherits {parent child : String} (h : Text.wordsOf line = [parent, ">", child])
  | permission {effect : Effect} {role pattern : String} {parts : List String}
      (h : Text.wordsOf line = [effect.keyword, role, pattern]) (cut : Path.IsCut pattern parts)
      (named : ∀ part ∈ parts, IsPatternPart part)

/-- Some line of a list puts a role under another one. -/
def LinesPutUnder (lines : List String) (child parent : String) : Prop :=
  ∃ line ∈ lines, Text.wordsOf line = [parent, ">", child] ∧ parent.toList.head? ≠ some '#'

/-- Lines put a role under two different ones. -/
def HaveTwoParents (lines : List String) : Prop :=
  ∃ child first second, LinesPutUnder lines child first ∧ LinesPutUnder lines child second ∧
    first ≠ second

/-- What is wrong with lines. A wrong line comes before a child under two parents, and that
before a role that is put under itself in one step or more. -/
inductive Flaw (lines : List String) : PolicyError.Kind → Prop where
  | line (h : ∃ line ∈ lines, ¬IsPolicyLine line) : Flaw lines .parse
  | parents (sound : ∀ line ∈ lines, IsPolicyLine line) (h : HaveTwoParents lines) :
      Flaw lines .duplicateParent
  | cycle (sound : ∀ line ∈ lines, IsPolicyLine line) (single : ¬HaveTwoParents lines)
      (h : ∃ role, Relation.TransGen (LinesPutUnder lines) role role) : Flaw lines .cycle

variable {line text part pattern : String} {lines others parts : List String}
  {kind : PolicyError.Kind}

/-! ## Lines -/

theorem isPolicyLine_empty : IsPolicyLine "" := .blank (by decide)

/-- A part stands for something if it is a written form of a pattern. -/
theorem isPatternPart_iff_exists_isWrittenAs :
    IsPatternPart part ↔ ∃ pattern : SegmentPattern, pattern.IsWrittenAs part := by
  constructor
  · intro h
    by_cases hsquare : IsBracketed '[' ']' part
    · obtain ⟨inside, hinside⟩ := hsquare
      have hpart : part = "[" ++ String.ofList inside ++ "]" := by
        simp [← String.toList_inj, hinside]
      refine ⟨.bound (String.ofList inside), hpart ▸ .bound ?_⟩
      intro hempty
      exact h.square (by rw [hpart, hempty]; rfl)
    · by_cases hbrace : IsBracketed '{' '}' part
      · obtain ⟨inside, hinside⟩ := hbrace
        have hpart : part = "\x7b" ++ String.ofList inside ++ "\x7d" := by
          simp [← String.toList_inj, hinside]
        refine ⟨.member (String.ofList inside), hpart ▸ .member ?_⟩
        intro hempty
        exact h.brace (by rw [hpart, hempty]; rfl)
      · by_cases hstar : part = "*"
        · exact ⟨.universal, hstar ▸ .universal⟩
        · exact ⟨.literal part, .literal h.nonempty hstar hsquare hbrace⟩
  · rintro ⟨pattern, h⟩
    refine ⟨?_, ?_, ?_⟩ <;> rintro rfl <;> rw [← Policy.parseSegment_eq_ok_iff] at h <;> cases h

/-- Parts all stand for something if they are read as patterns. -/
theorem forall_isPatternPart_iff :
    (∀ part ∈ parts, IsPatternPart part) ↔
      ∃ patterns, List.Forall₂ SegmentPattern.IsWrittenAs patterns parts := by
  simp only [isPatternPart_iff_exists_isWrittenAs]
  induction parts with
  | nil => simp
  | cons part parts ih =>
      rw [List.forall_mem_cons, ih]
      constructor
      · rintro ⟨⟨pattern, hpattern⟩, patterns, hpatterns⟩
        exact ⟨pattern :: patterns, .cons hpattern hpatterns⟩
      · rintro ⟨patterns, hpatterns⟩
        cases hpatterns with
        | cons hpattern hrest => exact ⟨⟨_, hpattern⟩, _, hrest⟩

namespace Policy

/-- A pattern can be read if it is cut into parts that stand for something. -/
theorem exists_parseResource_eq_ok_iff :
    (∃ resource, parseResource pattern = .ok resource) ↔
      ∃ parts, Path.IsCut pattern parts ∧ ∀ part ∈ parts, IsPatternPart part := by
  simp only [forall_isPatternPart_iff, Path.isCut_iff, parseResource_eq_ok_iff]
  constructor
  · rintro ⟨resource, hne, hwritten⟩
    refine ⟨_, ⟨?_, rfl⟩, resource, hwritten⟩
    intro hnil
    rw [hnil, List.forall₂_nil_right_iff] at hwritten
    exact hne hwritten
  · rintro ⟨parts, ⟨hne, rfl⟩, resource, hwritten⟩
    refine ⟨resource, ?_, hwritten⟩
    rintro rfl
    rw [List.forall₂_nil_left_iff] at hwritten
    exact hne hwritten

theorem isPolicyLine_iff (lineNumber : Option Int) :
    IsPolicyLine line ↔ ∃ read, parseLine line lineNumber = .ok read := by
  constructor
  · intro h
    cases h with
    | blank hwords =>
        refine ⟨none, parseLine_eq_ok_none_iff.2 ?_⟩
        rw [hwords]
        simp
    | comment hwords hash =>
        refine ⟨none, parseLine_eq_ok_none_iff.2 ?_⟩
        rw [hwords]
        simpa [startsComment] using hash
    | @inherits parent child hwords =>
        -- The first word may begin a comment; then the line says nothing.
        by_cases hcomment : startsComment parent = true
        · refine ⟨none, parseLine_eq_ok_none_iff.2 ?_⟩
          rw [hwords]
          simpa using hcomment
        · refine ⟨some (.role ⟨parent, child⟩), parseLine_eq_ok_some_iff.2 ⟨?_, ?_⟩⟩
          · exact ruleOf_eq_ok_iff.2 (.inl ⟨parent, child, hwords, rfl⟩)
          · rw [hwords]
            simpa using hcomment
    | @permission effect role pattern parts hwords cut named =>
        have hkeyword : ∀ first ∈ (Text.wordsOf line).head?, startsComment first = false := by
          rw [hwords]
          simpa using startsComment_keyword effect
        by_cases hrole : role = inheritsWord
        · subst hrole
          refine ⟨some (.role ⟨effect.keyword, pattern⟩), parseLine_eq_ok_some_iff.2 ⟨?_, hkeyword⟩⟩
          exact ruleOf_eq_ok_iff.2 (.inl ⟨_, _, hwords, rfl⟩)
        · obtain ⟨resource, hresource⟩ := exists_parseResource_eq_ok_iff.2 ⟨parts, cut, named⟩
          refine ⟨some (.permission ⟨effect, role, resource⟩),
            parseLine_eq_ok_some_iff.2 ⟨?_, hkeyword⟩⟩
          exact ruleOf_eq_ok_iff.2 (.inr ⟨effect, role, pattern, resource, hwords, hrole,
            hresource, rfl⟩)
  · rintro ⟨read, hread⟩
    cases read with
    | none =>
        rw [parseLine_eq_ok_none_iff] at hread
        cases hwords : Text.wordsOf line with
        | nil => exact .blank hwords
        | cons first rest =>
            rw [hwords] at hread
            exact .comment hwords (by simpa [startsComment] using hread)
    | some rule =>
        rw [parseLine_eq_ok_some_iff, ruleOf_eq_ok_iff] at hread
        obtain ⟨⟨parent, child, hwords, -⟩ | ⟨_, _, _, resource, hwords, -, hresource, -⟩, -⟩ :=
          hread
        · exact .inherits hwords
        · obtain ⟨parts, cut, named⟩ := exists_parseResource_eq_ok_iff.1 ⟨resource, hresource⟩
          exact .permission hwords cut named

/-- Lines are read together if each of them is. -/
theorem exists_parseLines_eq_ok_iff (number : Nat) :
    (∃ rules, parseLines number lines = .ok rules) ↔ ∀ line ∈ lines, IsPolicyLine line := by
  constructor
  · rintro ⟨rules, h⟩ line hline
    exact (isPolicyLine_iff none).2 ((parseLines_ok h).1 line hline)
  · intro h
    induction lines generalizing number with
    | nil => exact ⟨{}, rfl⟩
    | cons line lines ih =>
        rw [List.forall_mem_cons] at h
        obtain ⟨read, hread⟩ := (isPolicyLine_iff (some ↑number)).1 h.1
        obtain ⟨rules, hrules⟩ := ih (number + 1) h.2
        cases read with
        | none =>
            refine ⟨rules, ?_⟩
            rw [parseLines, hread]
            exact hrules
        | some rule =>
            refine ⟨rules.cons rule, ?_⟩
            rw [parseLines, hread]
            show (parseLines (number + 1) lines >>= fun rest => pure (rest.cons rule)) = _
            rw [hrules]
            rfl

end Policy

/-! ## Flaws -/

/-- Nothing but the first flaw is what is wrong. -/
theorem Flaw.unique {other : PolicyError.Kind} (h : Flaw lines kind) (h' : Flaw lines other) :
    kind = other := by
  cases h with
  | line hwrong =>
      obtain ⟨line, hline, hwrong⟩ := hwrong
      cases h' with
      | line => rfl
      | parents sound => exact absurd (sound line hline) hwrong
      | cycle sound => exact absurd (sound line hline) hwrong
  | parents sound hparents =>
      cases h' with
      | line hwrong =>
          obtain ⟨line, hline, hwrong⟩ := hwrong
          exact absurd (sound line hline) hwrong
      | parents => rfl
      | cycle _ single => exact absurd hparents single
  | cycle sound single =>
      cases h' with
      | line hwrong =>
          obtain ⟨line, hline, hwrong⟩ := hwrong
          exact absurd (sound line hline) hwrong
      | parents _ hparents => exact absurd hparents single
      | cycle => rfl

theorem linesPutUnder_congr (same : ∀ line, line ≠ "" → (line ∈ lines ↔ line ∈ others)) :
    LinesPutUnder lines = LinesPutUnder others := by
  ext child parent
  refine exists_congr fun line => and_congr_left fun hline => same line ?_
  rintro rfl
  simp [Text.wordsOf, Text.words_nil] at hline

theorem forall_isPolicyLine_congr (same : ∀ line, line ≠ "" → (line ∈ lines ↔ line ∈ others)) :
    (∀ line ∈ lines, IsPolicyLine line) ↔ ∀ line ∈ others, IsPolicyLine line := by
  refine forall_congr' fun line => ?_
  by_cases hempty : line = ""
  · subst hempty
    simp [isPolicyLine_empty]
  · rw [same line hempty]

/-- Empty lines, the order of lines and repetitions have no part in what is wrong. -/
theorem Flaw.congr (same : ∀ line, line ≠ "" → (line ∈ lines ↔ line ∈ others))
    (h : Flaw lines kind) : Flaw others kind := by
  have hputs := linesPutUnder_congr same
  have hsound := forall_isPolicyLine_congr same
  have hparents : HaveTwoParents lines ↔ HaveTwoParents others := by
    rw [HaveTwoParents, HaveTwoParents, hputs]
  cases h with
  | line hwrong =>
      refine .line ?_
      by_contra hnone
      push Not at hnone
      obtain ⟨line, hline, hwrong⟩ := hwrong
      exact hwrong (hsound.2 hnone line hline)
  | parents sound htwo => exact .parents (hsound.1 sound) (hparents.1 htwo)
  | cycle sound single hcycle =>
      exact .cycle (hsound.1 sound) (mt hparents.2 single) (hputs ▸ hcycle)

/-! ## Texts -/

namespace Policy

variable {rules : RuleSet} {checker : Checker} {fault : PolicyError}

/-- The lines of a text put roles under one another as its role rules do. -/
theorem linesPutUnder_eq (h : parseRules text = .ok rules) :
    LinesPutUnder (Text.linesOf text) = fun child parent => ⟨parent, child⟩ ∈ rules.roleRules := by
  ext child parent
  exact putsUnder_iff h

theorem haveTwoParents_iff (h : parseRules text = .ok rules) :
    HaveTwoParents (Text.linesOf text) ↔ HaveConflict rules.roleRules := by
  rw [HaveTwoParents, linesPutUnder_eq h]
  constructor
  · rintro ⟨child, first, second, hfirst, hsecond, hne⟩
    exact ⟨_, hfirst, _, hsecond, rfl, hne⟩
  · rintro ⟨⟨first, child⟩, hfirst, ⟨second, _⟩, hsecond, rfl, hne⟩
    exact ⟨child, first, second, hfirst, hsecond, hne⟩

theorem exists_transGen_linesPutUnder_iff (h : parseRules text = .ok rules) :
    (∃ role, Relation.TransGen (LinesPutUnder (Text.linesOf text)) role role) ↔
      ∃ role, Inherits rules.roleRules role role := by
  simp only [linesPutUnder_eq h, inherits_iff_transGen]

/-- The rules of a text have segments, so their forest can be built. -/
theorem exists_forest (h : parseRules text = .ok rules) :
    ∃ forest, Forest.ofRules rules.permissionRules = .ok forest := by
  rw [Forest.exists_ofRules_eq_ok_iff]
  intro rule hrule
  exact ((isCanonical_of_parseRules_eq_ok h).permissionRules rule hrule).nonempty

theorem isPolicyLine_of_parseRules_eq_ok (h : parseRules text = .ok rules) :
    ∀ line ∈ Text.linesOf text, IsPolicyLine line :=
  (exists_parseLines_eq_ok_iff 1).1 ⟨rules, h⟩

/-- A text fails with an error of the kind that is wrong with its lines. -/
theorem flaw_of_parse_eq_error (h : parse text = .error fault) :
    Flaw (Text.linesOf text) fault.kind := by
  cases hread : parseRules text with
  | error error =>
      -- Some line is wrong, or all of them would have been read.
      simp only [parse, hread, Except.error.injEq] at h
      subst h
      refine .line ?_
      by_contra hnone
      push Not at hnone
      obtain ⟨rules, hrules⟩ := (exists_parseLines_eq_ok_iff 1).2 hnone
      rw [parseRules, hrules] at hread
      cases hread
  | ok rules =>
      simp only [parse, hread] at h
      have sound := isPolicyLine_of_parseRules_eq_ok hread
      rcases Checker.ofRules_eq_error_iff.1 h with h | ⟨-, h⟩
      · rcases Hierarchy.ofRules_eq_error_iff.1 h with ⟨_, _, _, hfirst, rfl⟩ | ⟨_, _, -, -, rfl⟩
        · exact .parents sound ((haveTwoParents_iff hread).2 hfirst.haveConflict)
        · obtain ⟨hconflict, hcycle⟩ := Hierarchy.exists_ofRules_eq_cycle_iff.1 ⟨_, h⟩
          rw [← haveTwoParents_iff hread] at hconflict
          exact .cycle sound hconflict ((exists_transGen_linesPutUnder_iff hread).2 hcycle)
      · obtain ⟨forest, hforest⟩ := exists_forest hread
        rw [hforest] at h
        cases h

/-- With a checker of a text, nothing is wrong with its lines. -/
theorem not_flaw_of_parse_eq_ok (h : parse text = .ok checker) :
    ¬Flaw (Text.linesOf text) kind := by
  obtain ⟨rules, hread, hbuilt⟩ := parse_eq_ok_iff.1 h
  have hhierarchy := (Checker.ofRules_eq_ok_iff.1 hbuilt).1
  obtain ⟨hconflict, hcycle⟩ := Hierarchy.exists_ofRules_eq_ok_iff.1 ⟨_, hhierarchy⟩
  intro hflaw
  cases hflaw with
  | line hwrong =>
      obtain ⟨line, hline, hwrong⟩ := hwrong
      exact hwrong (isPolicyLine_of_parseRules_eq_ok hread line hline)
  | parents _ htwo => exact hconflict ((haveTwoParents_iff hread).1 htwo)
  | cycle _ _ hself => exact hcycle ((exists_transGen_linesPutUnder_iff hread).1 hself)

end Policy

end RoleAccess

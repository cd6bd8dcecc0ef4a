import RoleAccess.Proofs.Policy.Outcome
import RoleAccess.Proofs.Rule.Parts

/-!
# Which lines are read, and what the others are refused for

Every line says nothing, is a rule of one of the two kinds, or is refused, and this
module says which of these it is by the words of the line alone. The words are the
maximal runs of characters that are not blank (`Text.AreWords`), a pattern is filled
parts with slashes between them (`IsPattern`), and what is wrong with other words is
one thing with one token (`IsRefused`): their number before the keyword, the keyword
before the pattern, and in the pattern the first part that stands for nothing.

The functions that read a line are followed upwards from its parts, and for each of
them it is said exactly when it fails and with what error (`parseSegment_eq_error_iff`
to `parseLine_eq_error_iff`). With the texts that they do read, this decides every
line (`parseLine_decides`).
-/

namespace RoleAccess

/-- A part of a pattern stands for nothing: it is empty, or what is in its brackets or
braces is. -/
inductive IsBadPart : String → ParseFault → Prop where
  | empty : IsBadPart "" .emptySegment
  | square : IsBadPart "[]" .variableWithoutName
  | brace : IsBadPart "\x7b\x7d" .setWithoutName

/-- A text is a pattern: one slash at the most in front, filled parts with slashes between
them, one slash at the most at the end, and each part is a written form of a segment. -/
def IsPattern (text : String) (segments : List SegmentPattern) : Prop :=
  ∃ parts, parts ≠ [] ∧ (∀ part ∈ parts, IsPatternPart part ∧ '/' ∉ part.toList) ∧
    Path.IsJoined text parts ∧ List.Forall₂ SegmentPattern.IsWrittenAs segments parts

/-- What is wrong with a text that is no pattern, and the token to blame. -/
inductive IsBadPattern (text : String) : ParseFault → String → Prop where
  /-- Nothing is left between the outer slashes. -/
  | slashes (slashes : ∀ c ∈ text.toList, c = '/') (few : text.length ≤ 2) :
      IsBadPattern text .noSegments text
  /-- A part stands for nothing, and all parts before it for something. -/
  | part {before after : List String} {part : String} {fault : ParseFault}
      (cut : Path.IsCut text (before ++ part :: after))
      (sound : ∀ part ∈ before, IsPatternPart part) (bad : IsBadPart part fault) :
      IsBadPattern text fault part

/-- Words that say nothing: there are none, or the first begins a comment. -/
inductive SaysNothing : List String → Prop where
  | blank : SaysNothing []
  | comment {first : String} {rest : List String} (hash : first.toList.head? = some '#') :
      SaysNothing (first :: rest)

/-- What is wrong with words that are no rule, and the token to blame if there is one. -/
inductive IsRefused : List String → ParseFault → Option String → Prop where
  | few {words : List String} (h : words.length < 3) :
      IsRefused words (.wordCount words.length) none
  | many {first second third fourth : String} {rest : List String} :
      IsRefused (first :: second :: third :: fourth :: rest) (.wordCount (rest.length + 4))
        (some fourth)
  | keyword {first second third : String} (middle : second ≠ ">") (allow : first ≠ "allow")
      (deny : first ≠ "deny") :
      IsRefused [first, second, third] (.unknownKeyword first) (some first)
  | pattern {effect : Effect} {role text token : String} {fault : ParseFault}
      (middle : role ≠ ">") (bad : IsBadPattern text fault token) :
      IsRefused [effect.keyword, role, text] fault (some token)

theorem Effect.ofKeyword?_eq_none_iff {word : String} :
    Effect.ofKeyword? word = none ↔ word ≠ "allow" ∧ word ≠ "deny" := by
  unfold Effect.ofKeyword?
  split
  · next hallow => simp [hallow]
  · next hallow =>
      split
      · next hdeny => simp [hdeny]
      · next hdeny => simp [hallow, hdeny]

namespace Policy

variable {part text line : String} {parts words : List String} {segments : List SegmentPattern}
  {fault : ParseFault} {error : ParseError} {lineNumber : Option Int}

/-! ## Parts -/

/-- A part stands for nothing exactly if it is one of three texts. -/
theorem segmentOf_eq_error_iff : segmentOf part.toList = .error fault ↔ IsBadPart part fault := by
  constructor
  · intro h
    have hbad : ¬IsPatternPart part := by
      intro hpart
      obtain ⟨pattern, hwritten⟩ := isPatternPart_iff_exists_isWrittenAs.1 hpart
      rw [segmentOf_eq_ok_of_isWrittenAs hwritten] at h
      cases h
    by_cases hempty : part = ""
    · subst hempty
      cases h
      exact .empty
    · by_cases hsquare : part = "[]"
      · subst hsquare
        cases h
        exact .square
      · by_cases hbrace : part = "\x7b\x7d"
        · subst hbrace
          cases h
          exact .brace
        · exact absurd ⟨hempty, hsquare, hbrace⟩ hbad
  · intro h
    cases h <;> rfl

theorem parseSegment_eq_error_iff :
    parseSegment part = .error error ↔
      ∃ fault, IsBadPart part fault ∧ error = { fault, token := some part } := by
  simp only [← segmentOf_eq_error_iff]
  unfold parseSegment
  cases segmentOf part.toList with
  | ok pattern => simp
  | error found => simp [eq_comm]

/-- A part is read if it stands for something. -/
theorem exists_parseSegment_eq_ok_iff :
    (∃ pattern, parseSegment part = .ok pattern) ↔ IsPatternPart part := by
  simp only [parseSegment_eq_ok_iff, isPatternPart_iff_exists_isWrittenAs]

/-! ## Patterns -/

/-- Parts are refused for the first of them that stands for nothing. -/
theorem parseSegments_eq_error_iff :
    parseSegments parts = .error error ↔
      ∃ before part after fault, parts = before ++ part :: after ∧
        (∀ part ∈ before, IsPatternPart part) ∧ IsBadPart part fault ∧
          error = { fault, token := some part } := by
  induction parts with
  | nil => simp [parseSegments]
  | cons first parts ih =>
      have hcons : parseSegments (first :: parts) = .error error ↔
          parseSegment first = .error error ∨
            (∃ pattern, parseSegment first = .ok pattern) ∧ parseSegments parts = .error error := by
        simp only [parseSegments, Fold.bind_eq_error_iff]
        simp [pure, Except.pure]
      rw [hcons, parseSegment_eq_error_iff, exists_parseSegment_eq_ok_iff, ih]
      constructor
      · rintro (⟨fault, hbad, herror⟩ | ⟨hfirst, before, part, after, fault, rfl, hsound, hrest⟩)
        · exact ⟨[], first, parts, fault, rfl, by simp, hbad, herror⟩
        · exact ⟨first :: before, part, after, fault, rfl,
            List.forall_mem_cons.2 ⟨hfirst, hsound⟩, hrest⟩
      · rintro ⟨before, part, after, fault, hparts, hsound, hbad, herror⟩
        cases before with
        | nil =>
            cases hparts
            exact .inl ⟨fault, hbad, herror⟩
        | cons head before =>
            cases hparts
            obtain ⟨hfirst, hsound⟩ := List.forall_mem_cons.1 hsound
            exact .inr ⟨hfirst, before, part, after, fault, rfl, hsound, hbad, herror⟩

/-- A text that is read as a pattern is one, and each pattern is read. -/
theorem parseResource_eq_ok_iff_isPattern :
    parseResource text = .ok segments ↔ IsPattern text segments := by
  rw [parseResource_eq_ok_iff]
  constructor
  · rintro ⟨hne, hwritten⟩
    have hsome : Path.segments text ≠ [] := by
      intro hnil
      rw [hnil, List.forall₂_nil_right_iff] at hwritten
      exact hne hwritten
    have hnamed := forall_isPatternPart_iff.2 ⟨segments, hwritten⟩
    have hslash : ∀ part ∈ Path.segments text, '/' ∉ part.toList := by
      intro part hpart hc
      exact (Path.mem_segments hpart hc).2 rfl
    refine ⟨Path.segments text, hsome, fun part hpart => ⟨hnamed part hpart, hslash part hpart⟩,
      ?_, hwritten⟩
    apply (Path.isCut_iff_isJoined hsome ?_).1
    · exact Path.isCut_iff.2 ⟨hsome, rfl⟩
    · intro part hpart
      exact ⟨(hnamed part hpart).nonempty, hslash part hpart⟩
  · rintro ⟨parts, hsome, hparts, hjoined, hwritten⟩
    have hcut : Path.IsCut text parts := by
      apply (Path.isCut_iff_isJoined hsome ?_).2 hjoined
      intro part hpart
      exact ⟨(hparts part hpart).1.nonempty, (hparts part hpart).2⟩
    rw [(Path.isCut_iff.1 hcut).2]
    refine ⟨?_, hwritten⟩
    rintro rfl
    rw [List.forall₂_nil_left_iff] at hwritten
    exact hsome hwritten

theorem parseResource_eq_error_iff :
    parseResource text = .error error ↔
      ∃ fault token, IsBadPattern text fault token ∧ error = { fault, token := some token } := by
  unfold parseResource
  split
  · next hnil =>
      obtain ⟨hslashes, hfew⟩ := Path.segments_eq_nil_iff.1 hnil
      constructor
      · intro h
        cases h
        exact ⟨_, _, .slashes hslashes hfew, rfl⟩
      · rintro ⟨fault, token, hbad, rfl⟩
        cases hbad with
        | slashes => rfl
        | part cut =>
            -- A text that is cut into parts has segments.
            obtain ⟨hsome, hsegments⟩ := Path.isCut_iff.1 cut
            exact absurd (hsegments ▸ hnil) hsome
  · next hsome =>
      rw [parseSegments_eq_error_iff]
      constructor
      · rintro ⟨before, part, after, fault, hparts, hsound, hbad, rfl⟩
        exact ⟨fault, part, .part (Path.isCut_iff.2 ⟨by simp, hparts⟩) hsound hbad, rfl⟩
      · rintro ⟨fault, token, hbad, rfl⟩
        cases hbad with
        | slashes hslashes hfew =>
            exact absurd (Path.segments_eq_nil_iff.2 ⟨hslashes, hfew⟩) hsome
        | part cut hsound hbad =>
            exact ⟨_, _, _, _, (Path.isCut_iff.1 cut).2, hsound, hbad, rfl⟩

/-! ## Words -/

/-- Three words are refused for their keyword or their pattern. -/
theorem ruleOfWords_eq_error_iff {first second third : String} :
    ruleOfWords first second third = .error error ↔
      ∃ fault token, IsRefused [first, second, third] fault token ∧ error = { fault, token } := by
  unfold ruleOfWords
  split
  · next hmiddle =>
      -- With the inheritance sign in the middle the words are a role rule.
      subst hmiddle
      simp only [reduceCtorEq, false_iff]
      rintro ⟨fault, token, hrefused, -⟩
      cases hrefused with
      | few h => simp at h
      | keyword hmiddle => exact hmiddle rfl
      | pattern hmiddle => exact hmiddle rfl
  · next hmiddle =>
      split
      · next hkeyword =>
          obtain ⟨hallow, hdeny⟩ := Effect.ofKeyword?_eq_none_iff.1 hkeyword
          constructor
          · intro h
            cases h
            exact ⟨_, _, .keyword hmiddle hallow hdeny, rfl⟩
          · rintro ⟨fault, token, hrefused, rfl⟩
            cases hrefused with
            | few h => simp at h
            | keyword => rfl
            | pattern => simp [Effect.ofKeyword?_keyword] at hkeyword
      · next effect hkeyword =>
          rw [Effect.ofKeyword?_eq_some_iff] at hkeyword
          subst hkeyword
          have hread : (do return Rule.permission ⟨effect, second, ← parseResource third⟩) =
              Except.error error ↔ parseResource third = .error error := by
            rw [Fold.bind_eq_error_iff]
            simp [pure, Except.pure]
          rw [hread, parseResource_eq_error_iff]
          constructor
          · rintro ⟨fault, token, hbad, rfl⟩
            exact ⟨fault, some token, .pattern hmiddle hbad, rfl⟩
          · rintro ⟨fault, token, hrefused, rfl⟩
            generalize hfirst : effect.keyword = first at hrefused
            cases hrefused with
            | few h => simp at h
            | keyword _ hallow hdeny =>
                cases effect with
                | allow => exact absurd hfirst.symm hallow
                | deny => exact absurd hfirst.symm hdeny
            | pattern _ hbad => exact ⟨_, _, hbad, rfl⟩

/-- Fewer words than three, or more, are refused for their number. -/
theorem isRefused_wordCount (h : words.length ≠ 3) :
    IsRefused words (.wordCount words.length) words[3]? := by
  by_cases hfew : words.length < 3
  · rw [List.getElem?_eq_none (by omega)]
    exact .few hfew
  · match words, h, hfew with
    | [], _, hfew => exact absurd (by decide) hfew
    | [_], _, hfew => exact absurd (by simp) hfew
    | [_, _], _, hfew => exact absurd (by simp) hfew
    | [_, _, _], h, _ => exact absurd rfl h
    | _ :: _ :: _ :: fourth :: rest, _, _ => exact .many

/-- Words that are no rule are refused for one thing, and on no line yet. -/
theorem ruleOf_eq_error_iff :
    ruleOf words = .error error ↔
      ∃ fault token, IsRefused words fault token ∧ error = { fault, token } := by
  by_cases hcount : words.length = 3
  · obtain ⟨first, second, third, rfl⟩ := List.length_eq_three.1 hcount
    exact ruleOfWords_eq_error_iff
  · have hfails : ruleOf words =
        .error { fault := .wordCount words.length, token := words[3]? } := by
      unfold ruleOf
      split
      · exact absurd rfl hcount
      · rfl
    rw [hfails]
    constructor
    · intro h
      cases h
      exact ⟨_, _, isRefused_wordCount hcount, rfl⟩
    · rintro ⟨fault, token, hrefused, rfl⟩
      cases hrefused with
      | few hfew => rw [List.getElem?_eq_none (by omega)]
      | many => rfl
      | keyword => exact absurd rfl hcount
      | pattern => exact absurd rfl hcount

/-! ## Lines -/

theorem saysNothing_iff :
    SaysNothing words ↔ ∀ first ∈ words.head?, startsComment first = true := by
  cases words with
  | nil => simp [SaysNothing.blank]
  | cons first rest =>
      have hhash : startsComment first = true ↔ first.toList.head? = some '#' := by
        simp [startsComment]
      simp only [List.head?_cons, Option.mem_some_iff, forall_eq', hhash]
      constructor
      · intro h
        cases h with
        | comment hfirst => exact hfirst
      · intro hfirst
        exact .comment hfirst

/-- A line is a rule if its words say something, and that is the rule. -/
theorem parseLine_eq_some_iff {rule : Rule} :
    parseLine line lineNumber = .ok (some rule) ↔
      ¬SaysNothing (Text.wordsOf line) ∧ ruleOf (Text.wordsOf line) = .ok rule := by
  rw [parseLine_eq_ok_some_iff, saysNothing_iff]
  cases Text.wordsOf line with
  | nil => simp [ruleOf]
  | cons first rest => simp [and_comm]

/-- A line is refused for its words, and the error has the line and its number. -/
theorem parseLine_eq_error_iff :
    parseLine line lineNumber = .error error ↔
      ¬SaysNothing (Text.wordsOf line) ∧ error.line = some line ∧ error.lineNumber = lineNumber ∧
        IsRefused (Text.wordsOf line) error.fault error.token := by
  rw [saysNothing_iff]
  unfold parseLine
  cases hwords : Text.wordsOf line with
  | nil => simp
  | cons first rest =>
      cases hcomment : startsComment first with
      | true => simp [hcomment]
      | false =>
          simp only [hcomment, Bool.false_eq_true, if_false, List.head?_cons, Option.mem_some_iff,
            forall_eq', not_false_eq_true, true_and]
          constructor
          · intro h
            cases hrule : ruleOf (first :: rest) with
            | ok rule => simp [hrule] at h
            | error found =>
                rw [hrule] at h
                cases h
                obtain ⟨fault, token, hrefused, rfl⟩ := ruleOf_eq_error_iff.1 hrule
                exact ⟨rfl, rfl, hrefused⟩
          · rintro ⟨hline, hnumber, hrefused⟩
            rw [ruleOf_eq_error_iff.2 ⟨_, _, hrefused, rfl⟩]
            obtain ⟨fault, number, text, token⟩ := error
            cases hline
            cases hnumber
            rfl

/-- Every line is decided by its words. The words are the runs of characters that are not
blank, and no others. If they say nothing, so does the line. Otherwise it is a role rule
exactly if there are three words with the inheritance sign in the middle, a permission rule
exactly if there are a keyword, a role other than that sign and a pattern, and it is refused
exactly for what is wrong with the words, in an error with the line and its number. -/
theorem parseLine_decides (line : String) (lineNumber : Option Int) :
    ∃ words, (∀ others, Text.AreWords line others ↔ others = words) ∧
      (parseLine line lineNumber = .ok none ↔ SaysNothing words) ∧
      (∀ parent child, parseLine line lineNumber = .ok (some (.role ⟨parent, child⟩)) ↔
        ¬SaysNothing words ∧ words = [parent, ">", child]) ∧
      (∀ effect role segments,
        parseLine line lineNumber = .ok (some (.permission ⟨effect, role, segments⟩)) ↔
          ¬SaysNothing words ∧ role ≠ ">" ∧
            ∃ pattern, words = [effect.keyword, role, pattern] ∧ IsPattern pattern segments) ∧
      ∀ error, parseLine line lineNumber = .error error ↔
        ¬SaysNothing words ∧ error.line = some line ∧ error.lineNumber = lineNumber ∧
          IsRefused words error.fault error.token := by
  refine ⟨Text.wordsOf line, fun others => Text.areWords_iff, ?_, ?_, ?_, fun error =>
    parseLine_eq_error_iff⟩
  · rw [parseLine_eq_ok_none_iff, saysNothing_iff]
  · intro parent child
    rw [parseLine_eq_some_iff, ruleOf_eq_ok_iff]
    refine and_congr_right fun _ => ?_
    constructor
    · rintro (⟨_, _, hwords, hrule⟩ | ⟨_, _, _, _, -, -, -, hrule⟩)
      · cases hrule
        exact hwords
      · cases hrule
    · intro hwords
      exact .inl ⟨parent, child, hwords, rfl⟩
  · intro effect role segments
    rw [parseLine_eq_some_iff, ruleOf_eq_ok_iff]
    refine and_congr_right fun _ => ?_
    simp only [← parseResource_eq_ok_iff_isPattern]
    constructor
    · rintro (⟨_, _, -, hrule⟩ | ⟨_, _, pattern, _, hwords, hmiddle, hread, hrule⟩)
      · cases hrule
      · cases hrule
        exact ⟨hmiddle, pattern, hwords, hread⟩
    · rintro ⟨hmiddle, pattern, hwords, hread⟩
      exact .inr ⟨effect, role, pattern, segments, hwords, hmiddle, hread, rfl⟩

/-- A keyword is a role like any other before the inheritance sign. -/
example : parseLine "allow > ann" (some 1) = .ok (some (.role ⟨"allow", "ann"⟩)) := by decide

end Policy

end RoleAccess

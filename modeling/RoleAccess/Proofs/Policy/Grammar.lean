import Mathlib.Data.List.Forall2
import RoleAccess.Policy.Canonical
import RoleAccess.Proofs.Fold

/-!
# What a line of a policy text says

The written forms of a pattern for one segment (`SegmentPattern.IsWrittenAs`) are
exactly the texts that are read as the pattern (`parseSegment_eq_ok_iff`). From
there it goes up: a text is read as a resource pattern if its segments are written
forms of the patterns in order (`parseResource_eq_ok_iff`), and three words are
read as a rule in one of two ways (`ruleOf_eq_ok_iff`).
-/

namespace RoleAccess

/-- The written forms of the patterns for one segment. -/
inductive SegmentPattern.IsWrittenAs : SegmentPattern → String → Prop where
  | bound {name : String} (h : name ≠ "") : IsWrittenAs (.bound name) ("[" ++ name ++ "]")
  | member {name : String} (h : name ≠ "") : IsWrittenAs (.member name) ("\x7b" ++ name ++ "\x7d")
  | universal : IsWrittenAs .universal "*"
  | literal {name : String} (h : name ≠ "") (star : name ≠ "*")
      (square : ¬IsBracketed '[' ']' name) (brace : ¬IsBracketed '{' '}' name) :
      IsWrittenAs (.literal name) name

theorem Effect.ofKeyword?_eq_some_iff {word : String} {effect : Effect} :
    Effect.ofKeyword? word = some effect ↔ word = effect.keyword := by
  constructor
  · intro h
    unfold Effect.ofKeyword? at h
    split at h
    · next hword => cases h; exact hword
    · split at h
      · next hword => cases h; exact hword
      · cases h
  · rintro rfl
    exact effect.ofKeyword?_keyword

namespace Policy

variable {opening closing : Char} {chars inside : List Char} {pattern : SegmentPattern}
  {patterns : List SegmentPattern} {segment text line : String} {segments words : List String}
  {rule : Rule} {lineNumber : Option Int}

/-! ## Segments -/

theorem bracketed_eq_some_iff :
    bracketed opening closing chars = some inside ↔ chars = opening :: inside ++ [closing] := by
  cases chars with
  | nil => simp [bracketed]
  | cons first rest =>
      by_cases h : first = opening ∧ rest.getLast? = some closing
      · obtain ⟨rfl, hlast⟩ := h
        have hrest : rest.dropLast ++ [closing] = rest :=
          List.dropLast_append_getLast? closing hlast
        simp only [bracketed, hlast, decide_true, Bool.and_self, if_true, Option.some.injEq,
          List.cons_append, List.cons.injEq, true_and]
        constructor
        · rintro rfl
          exact hrest.symm
        · rintro rfl
          exact List.dropLast_concat
      · have hnone : bracketed opening closing (first :: rest) = none := by
          simp only [bracketed, Bool.and_eq_true, decide_eq_true_eq, if_neg h]
        rw [hnone]
        constructor
        · intro hsome
          cases hsome
        · intro hchars
          rw [List.cons_append, List.cons.injEq] at hchars
          refine absurd ⟨hchars.1, ?_⟩ h
          rw [hchars.2, List.getLast?_concat]

/-- Text that is not bracketed has nothing between brackets. -/
theorem bracketed_eq_none_iff :
    bracketed opening closing segment.toList = none ↔ ¬IsBracketed opening closing segment := by
  rw [Option.eq_none_iff_forall_ne_some]
  constructor
  · rintro h ⟨inside, hinside⟩
    exact h inside (bracketed_eq_some_iff.2 hinside)
  · intro h inside hinside
    exact h ⟨inside, bracketed_eq_some_iff.1 hinside⟩

/-- The pattern of a segment is read from every written form of it. -/
theorem segmentOf_eq_ok_of_isWrittenAs (h : pattern.IsWrittenAs segment) :
    segmentOf segment.toList = .ok pattern := by
  cases h with
  | @bound name hname =>
      have hsquare : bracketed '[' ']' ("[" ++ name ++ "]").toList = some name.toList :=
        bracketed_eq_some_iff.2 (by simp)
      have hne : name.toList ≠ [] := by simpa using hname
      unfold segmentOf
      rw [hsquare]
      cases hchars : name.toList with
      | nil => exact absurd hchars hne
      | cons c rest =>
          simp [← hchars, SegmentPattern.bound]
  | @member name hname =>
      have hbrace : bracketed '{' '}' ("\x7b" ++ name ++ "\x7d").toList = some name.toList :=
        bracketed_eq_some_iff.2 (by simp)
      -- A segment in braces does not begin with a square bracket, which is tried first.
      have hsquare : bracketed '[' ']' ("\x7b" ++ name ++ "\x7d").toList = none := by
        rw [bracketed_eq_none_iff]
        rintro ⟨inside, hinside⟩
        simp at hinside
      have hne : name.toList ≠ [] := by simpa using hname
      unfold segmentOf
      rw [hsquare, hbrace]
      cases hchars : name.toList with
      | nil => exact absurd hchars hne
      | cons c rest =>
          simp [← hchars, SegmentPattern.member]
  | universal => rfl
  | literal hname star square brace =>
      have hne : segment.toList ≠ [] := by simpa using hname
      have hstar : segment.toList ≠ ['*'] := by
        intro h
        exact star (String.toList_inj.1 h)
      unfold segmentOf
      rw [bracketed_eq_none_iff.2 square, bracketed_eq_none_iff.2 brace]
      simp [hname, hstar, SegmentPattern.literal]

/-- A segment is only read as a pattern that it is a written form of. -/
theorem isWrittenAs_of_segmentOf_eq_ok (h : segmentOf segment.toList = .ok pattern) :
    pattern.IsWrittenAs segment := by
  have nonempty {name : List Char} (hne : name ≠ []) : String.ofList name ≠ "" := by
    intro he
    exact hne (by simpa using congrArg String.toList he)
  -- The cases of the reader, in its order: no text, square brackets, braces, star, the rest.
  unfold segmentOf at h
  split at h
  · cases h
  · next hfilled =>
      split at h
      · cases h
      · next name hname hsquare =>
          cases h
          have hsegment : segment = "[" ++ String.ofList name ++ "]" := by
            rw [← String.toList_inj, bracketed_eq_some_iff.1 hsquare]
            simp
          rw [hsegment]
          exact .bound (nonempty hname)
      · next hsquare =>
          split at h
          · cases h
          · next name hname hbrace =>
              cases h
              have hsegment : segment = "\x7b" ++ String.ofList name ++ "\x7d" := by
                rw [← String.toList_inj, bracketed_eq_some_iff.1 hbrace]
                simp
              rw [hsegment]
              exact .member (nonempty hname)
          · next hbrace =>
              split at h
              · next hstar =>
                  cases h
                  rw [show segment = "*" from String.toList_inj.1 hstar]
                  exact .universal
              · next hstar =>
                  cases h
                  rw [String.ofList_toList]
                  refine .literal ?_ ?_ (bracketed_eq_none_iff.1 hsquare)
                    (bracketed_eq_none_iff.1 hbrace)
                  · rintro rfl
                    exact hfilled rfl
                  · rintro rfl
                    exact hstar rfl

theorem parseSegment_eq_ok_iff :
    parseSegment segment = .ok pattern ↔ pattern.IsWrittenAs segment := by
  unfold parseSegment
  constructor
  · intro h
    split at h
    · next hsegment =>
        cases h
        exact isWrittenAs_of_segmentOf_eq_ok hsegment
    · cases h
  · intro h
    rw [segmentOf_eq_ok_of_isWrittenAs h]

/-! ## Resource patterns -/

theorem parseSegments_eq_ok_iff :
    parseSegments segments = .ok patterns ↔
      List.Forall₂ SegmentPattern.IsWrittenAs patterns segments := by
  induction segments generalizing patterns with
  | nil =>
      rw [List.forall₂_nil_right_iff]
      simp [parseSegments, eq_comm]
  | cons segment segments ih =>
      have hcons : parseSegments (segment :: segments) = .ok patterns ↔
          ∃ pattern, parseSegment segment = .ok pattern ∧
            ∃ rest, parseSegments segments = .ok rest ∧ pattern :: rest = patterns := by
        simp only [parseSegments, Fold.bind_eq_ok_iff]
        simp [pure, Except.pure]
      rw [hcons]
      constructor
      · rintro ⟨pattern, hpattern, rest, hrest, rfl⟩
        exact .cons (parseSegment_eq_ok_iff.1 hpattern) (ih.1 hrest)
      · intro h
        cases h with
        | cons hpattern hrest =>
            exact ⟨_, parseSegment_eq_ok_iff.2 hpattern, _, ih.2 hrest, rfl⟩

/-- A resource pattern is read segment by segment, and it has one. -/
theorem parseResource_eq_ok_iff :
    parseResource text = .ok patterns ↔
      patterns ≠ [] ∧ List.Forall₂ SegmentPattern.IsWrittenAs patterns (Path.segments text) := by
  unfold parseResource
  cases hsegments : Path.segments text with
  | nil =>
      rw [List.forall₂_nil_right_iff]
      simp
  | cons segment segments =>
      simp only [parseSegments_eq_ok_iff]
      constructor
      · intro h
        refine ⟨?_, h⟩
        rintro rfl
        cases h
      · exact And.right

/-! ## Rules and lines -/

/-- Three words are read as a role rule if the middle one says so, and otherwise
as the permission rule of an effect, a role and a resource pattern. -/
theorem ruleOf_eq_ok_iff :
    ruleOf words = .ok rule ↔
      (∃ parent child, words = [parent, inheritsWord, child] ∧ rule = .role ⟨parent, child⟩) ∨
        ∃ effect role text resource, words = [Effect.keyword effect, role, text] ∧
          role ≠ inheritsWord ∧ parseResource text = .ok resource ∧
            rule = .permission ⟨effect, role, resource⟩ := by
  constructor
  · intro h
    match words, h with
    | [first, second, third], h =>
        simp only [ruleOf, ruleOfWords] at h
        split at h
        · next hsecond =>
            cases h
            exact .inl ⟨first, third, by rw [hsecond], rfl⟩
        · next hsecond =>
            split at h
            · cases h
            · next effect heffect =>
                obtain ⟨resource, hresource, hrule⟩ := Fold.bind_eq_ok_iff.1 h
                cases hrule
                refine .inr ⟨effect, second, third, resource, ?_, hsecond, hresource, rfl⟩
                rw [Effect.ofKeyword?_eq_some_iff.1 heffect]
  · rintro (⟨parent, child, rfl, rfl⟩ | ⟨effect, role, text, resource, rfl, hrole, hresource, rfl⟩)
    · simp [ruleOf, ruleOfWords]
    · simp only [ruleOf, ruleOfWords, if_neg hrole, Effect.ofKeyword?_keyword, hresource]
      rfl

/-- A line says a rule if its words do and it is no comment. -/
theorem parseLine_eq_ok_some_iff :
    parseLine line lineNumber = .ok (some rule) ↔
      ruleOf (Text.wordsOf line) = .ok rule ∧
        ∀ first ∈ (Text.wordsOf line).head?, startsComment first = false := by
  unfold parseLine
  cases Text.wordsOf line with
  | nil => simp [ruleOf]
  | cons first rest =>
      cases hcomment : startsComment first with
      | true => simp [hcomment]
      | false =>
          cases hrule : ruleOf (first :: rest) with
          | error fault => simp [hcomment, hrule]
          | ok rule => simp [hcomment, hrule]

/-- A line says nothing if it has no words or is a comment. -/
theorem parseLine_eq_ok_none_iff :
    parseLine line lineNumber = .ok none ↔
      ∀ first ∈ (Text.wordsOf line).head?, startsComment first = true := by
  unfold parseLine
  cases Text.wordsOf line with
  | nil => simp
  | cons first rest =>
      cases hcomment : startsComment first with
      | true => simp [hcomment]
      | false =>
          cases hrule : ruleOf (first :: rest) with
          | error fault => simp [hcomment, hrule]
          | ok rule => simp [hcomment, hrule]

/-- A keyword begins no comment. -/
theorem startsComment_keyword (effect : Effect) : startsComment effect.keyword = false := by
  cases effect <;> decide

end Policy

end RoleAccess

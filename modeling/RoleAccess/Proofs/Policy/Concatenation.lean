import RoleAccess.Proofs.Policy.Refusal

/-!
# Texts one after the other

Reading lines can be broken off and taken up again anywhere: the rules of the lines before come
before the rules of the lines after, and an error after is found as many lines further down
(`parseLines_append`, `parseLines_add`). Lines that say nothing have no rules, and no other lines
have none (`parseLines_eq_empty_iff`).

A line feed between two texts adds a blank line at the most, so the text of both has the rules of
both, or the first error of the two (`parseRules_append_lineFeed`). Which error that is, and in
which line, is said on the lines alone (`parseRules_append_and_eq_error_iff`).
-/

namespace RoleAccess

/-- The same error, found so many lines further down. -/
def ParseError.below (error : ParseError) (count : Nat) : ParseError :=
  { error with lineNumber := error.lineNumber.map (· + count) }

namespace RuleSet

/-- The rules of one set and then those of another, each kind in its order. -/
def append (rules others : RuleSet) : RuleSet :=
  ⟨rules.roleRules ++ others.roleRules, rules.permissionRules ++ others.permissionRules⟩

instance : Append RuleSet := ⟨append⟩

variable {rule : Rule} {rules others added : RuleSet}

@[simp] theorem roleRules_append :
    (rules ++ others).roleRules = rules.roleRules ++ others.roleRules :=
  rfl

@[simp] theorem permissionRules_append :
    (rules ++ others).permissionRules = rules.permissionRules ++ others.permissionRules :=
  rfl

theorem eq_iff :
    rules = others ↔
      rules.roleRules = others.roleRules ∧ rules.permissionRules = others.permissionRules := by
  cases rules
  cases others
  simp

theorem empty_append : ({} : RuleSet) ++ rules = rules := rfl

theorem append_empty : rules ++ ({} : RuleSet) = rules := by
  simp [eq_iff]

/-- Rules that can be put between others without changing them are none. -/
theorem append_append_eq_iff : rules ++ added ++ others = rules ++ others ↔ added = {} := by
  simp [eq_iff]

theorem cons_append : rules.cons rule ++ others = (rules ++ others).cons rule := by
  cases rule <;> rfl

theorem cons_ne_empty : rules.cons rule ≠ {} := by
  cases rule <;> simp [cons]

end RuleSet

namespace Policy

variable {line text : String} {lines others : List String} {number : Nat} {rule : Rule}
  {rules : RuleSet} {error : ParseError}

/-! ## One line -/

theorem parseLine_eq_none_iff {lineNumber : Option Int} :
    parseLine line lineNumber = .ok none ↔ SaysNothing (Text.wordsOf line) := by
  rw [parseLine_eq_ok_none_iff, saysNothing_iff]

/-- In a line so many lines further down, what is wrong is found there. -/
theorem parseLine_add (line : String) (number count : Nat) :
    parseLine line (some ↑(number + count)) =
      (parseLine line (some ↑number)).mapError (·.below count) := by
  unfold parseLine
  cases Text.wordsOf line with
  | nil => rfl
  | cons first rest =>
      cases hcomment : startsComment first with
      | true => simp [hcomment, Except.mapError]
      | false =>
          cases hrule : ruleOf (first :: rest) with
          | ok rule => simp [hcomment, hrule, Except.mapError]
          | error fault =>
              simp [hcomment, hrule, Except.mapError, ParseError.onLine, ParseError.below]

theorem parseLines_cons_of_none (h : parseLine line (some ↑number) = .ok none) :
    parseLines number (line :: lines) = parseLines (number + 1) lines := by
  rw [parseLines, h]
  rfl

theorem parseLines_cons_of_some (h : parseLine line (some ↑number) = .ok (some rule)) :
    parseLines number (line :: lines) =
      parseLines (number + 1) lines >>= fun rules => .ok (rules.cons rule) := by
  rw [parseLines, h]
  rfl

theorem parseLines_cons_of_error (h : parseLine line (some ↑number) = .error error) :
    parseLines number (line :: lines) = .error error := by
  rw [parseLines, h]
  rfl

/-! ## Lines -/

/-- Lines are read up to any of them, and from there on with the number that has been reached. -/
theorem parseLines_append (number : Nat) (lines others : List String) :
    parseLines number (lines ++ others) = do
      let first ← parseLines number lines
      let second ← parseLines (number + lines.length) others
      return first ++ second := by
  induction lines generalizing number with
  | nil =>
      show parseLines number others = parseLines number others >>= fun rules => .ok ({} ++ rules)
      simp only [RuleSet.empty_append]
      exact (bind_pure _).symm
  | cons line lines ih =>
      have hnumber : number + (line :: lines).length = number + 1 + lines.length := by
        rw [List.length_cons]
        omega
      rw [List.cons_append, hnumber]
      cases hline : parseLine line (some ↑number) with
      | error error => rw [parseLines_cons_of_error hline, parseLines_cons_of_error hline]; rfl
      | ok read =>
          cases read with
          | none => rw [parseLines_cons_of_none hline, parseLines_cons_of_none hline, ih]
          | some rule =>
              rw [parseLines_cons_of_some hline, parseLines_cons_of_some hline, ih]
              -- The rule of the line comes before those of all lines after it.
              cases parseLines (number + 1) lines with
              | error error => rfl
              | ok first =>
                  cases parseLines (number + 1 + lines.length) others with
                  | error error => rfl
                  | ok second =>
                      show Except.ok ((first ++ second).cons rule) = .ok (first.cons rule ++ second)
                      rw [RuleSet.cons_append]

/-- Lines further down are read alike, and what is wrong with them is found there. -/
theorem parseLines_add (number count : Nat) (lines : List String) :
    parseLines (number + count) lines = (parseLines number lines).mapError (·.below count) := by
  induction lines generalizing number with
  | nil => rfl
  | cons line lines ih =>
      have hnext : number + count + 1 = number + 1 + count := by omega
      have hread := parseLine_add line number count
      cases hline : parseLine line (some ↑number) with
      | error error =>
          rw [hline] at hread
          rw [parseLines_cons_of_error hline, parseLines_cons_of_error hread]
          rfl
      | ok read =>
          rw [hline] at hread
          cases read with
          | none =>
              rw [parseLines_cons_of_none hline, parseLines_cons_of_none hread, hnext, ih]
          | some rule =>
              rw [parseLines_cons_of_some hline, parseLines_cons_of_some hread, hnext, ih]
              cases parseLines (number + 1) lines <;> rfl

/-- Lines without rules are the lines that say nothing. -/
theorem parseLines_eq_empty_iff :
    parseLines number lines = .ok {} ↔ ∀ line ∈ lines, SaysNothing (Text.wordsOf line) := by
  induction lines generalizing number with
  | nil => simp [parseLines]
  | cons line lines ih =>
      have hfirst : parseLine line (some ↑number) = .ok none ↔ SaysNothing (Text.wordsOf line) :=
        parseLine_eq_none_iff
      rw [List.forall_mem_cons, ← hfirst]
      cases hline : parseLine line (some ↑number) with
      | error error => simp [parseLines_cons_of_error hline]
      | ok read =>
          cases read with
          | none => simp [parseLines_cons_of_none hline, ih]
          | some rule =>
              rw [parseLines_cons_of_some hline, Fold.bind_eq_ok_iff]
              simp [RuleSet.cons_ne_empty]

/-- Lines put between others leave the rules as they were exactly if they say nothing. -/
theorem parseLines_insert_iff {above added below : List String}
    (h : parseLines number (above ++ below) = .ok rules) :
    parseLines number (above ++ added ++ below) = .ok rules ↔
      ∀ line ∈ added, SaysNothing (Text.wordsOf line) := by
  rw [parseLines_append] at h
  obtain ⟨first, hfirst, hrest⟩ := Fold.bind_eq_ok_iff.1 h
  obtain ⟨second, hsecond, hrules⟩ := Fold.bind_eq_ok_iff.1 hrest
  cases hrules
  -- The lines below are further down now, but they are still read as before.
  have hbelow : parseLines (number + (above ++ added).length) below = .ok second := by
    rw [List.length_append, ← Nat.add_assoc, parseLines_add, hsecond]
    rfl
  have hadded : parseLines (number + above.length) added = .ok {} ↔
      ∀ line ∈ added, SaysNothing (Text.wordsOf line) := parseLines_eq_empty_iff
  rw [← hadded, parseLines_append, parseLines_append, hfirst, hbelow]
  cases parseLines (number + above.length) added with
  | error error =>
      constructor
      · intro herror
        cases herror
      · intro herror
        cases herror
  | ok middle =>
      show Except.ok (first ++ middle ++ second) = .ok (first ++ second) ↔ _
      rw [Except.ok.injEq, Except.ok.injEq, RuleSet.append_append_eq_iff]

/-- Lines fail at the first of them that fails. -/
theorem parseLines_eq_error_iff :
    parseLines number lines = .error error ↔
      ∃ before line after, lines = before ++ line :: after ∧
        (∀ earlier ∈ before, ∃ read, parseLine earlier = .ok read) ∧
          parseLine line (some ↑(number + before.length)) = .error error := by
  constructor
  · intro h
    induction lines generalizing number with
    | nil => cases h
    | cons line lines ih =>
        cases hline : parseLine line (some ↑number) with
        | error found =>
            rw [parseLines_cons_of_error hline] at h
            cases h
            exact ⟨[], line, lines, rfl, by simp, hline⟩
        | ok read =>
            have hrest : parseLines (number + 1) lines = .error error := by
              cases read with
              | none => rwa [parseLines_cons_of_none hline] at h
              | some rule =>
                  rw [parseLines_cons_of_some hline, Fold.bind_eq_error_iff] at h
                  rcases h with h | ⟨_, -, h⟩
                  · exact h
                  · cases h
            obtain ⟨before, wrong, after, rfl, hbefore, hwrong⟩ := ih hrest
            have hread : ∃ read, parseLine line = .ok read :=
              ⟨read, (parseLine_eq_ok_congr _ none).1 hline⟩
            refine ⟨line :: before, wrong, after, rfl, List.forall_mem_cons.2 ⟨hread, hbefore⟩, ?_⟩
            rw [List.length_cons, Nat.add_comm before.length, ← Nat.add_assoc]
            exact hwrong
  · rintro ⟨before, line, after, rfl, hbefore, hwrong⟩
    -- All lines before the wrong one are read together.
    have hsound : ∀ earlier ∈ before, IsPolicyLine earlier := by
      intro earlier hearlier
      exact (isPolicyLine_iff none).2 (hbefore earlier hearlier)
    obtain ⟨rules, hrules⟩ := (exists_parseLines_eq_ok_iff number).2 hsound
    rw [parseLines_append, hrules, parseLines_cons_of_error hwrong]
    rfl

/-! ## Texts -/

/-- Two texts with a line feed between them have the rules of both, or the error of the first,
or that of the second as many lines further down as there are lines before it. -/
theorem parseRules_append_lineFeed (text other : String) :
    parseRules (text ++ "\n" ++ other) = do
      let first ← parseRules text
      let second ← (parseRules other).mapError (·.below (Text.linesOf (text ++ "\n")).length)
      return first ++ second := by
  obtain ⟨⟨blank, hblank, habove⟩, hlines⟩ := Text.exists_linesOf_append_lineFeed text
  have hnothing : ∀ line ∈ blank, SaysNothing (Text.wordsOf line) := by
    intro line hline
    rw [hblank line hline]
    exact .blank
  -- A blank line after the first text changes nothing in its rules.
  have hread : parseLines 1 (Text.linesOf (text ++ "\n")) = parseRules text := by
    have hadded : parseLines (1 + (Text.linesOf text).length) blank = .ok {} :=
      parseLines_eq_empty_iff.2 hnothing
    rw [habove, parseLines_append, hadded, parseRules]
    cases parseLines 1 (Text.linesOf text) with
    | error error => rfl
    | ok rules => exact congrArg Except.ok RuleSet.append_empty
  calc parseRules (text ++ "\n" ++ other)
    _ = parseLines 1 (Text.linesOf (text ++ "\n") ++ Text.linesOf other) := by
        rw [parseRules, hlines]
    _ = _ := by
        rw [parseLines_append, parseLines_add, hread]
        rfl

/-- A text is refused for the first line that is. -/
theorem parseRules_eq_error_iff :
    parseRules text = .error error ↔
      ∃ before line after, Text.linesOf text = before ++ line :: after ∧
        (∀ earlier ∈ before, ∃ read, parseLine earlier = .ok read) ∧
          parseLine line (some (before.length + 1)) = .error error := by
  have hnumber (count : Nat) : ((1 + count : Nat) : Int) = count + 1 := by omega
  rw [parseRules, parseLines_eq_error_iff]
  simp only [hnumber]

/-- A text is refused if any of its lines is, whatever the number of that line. -/
theorem exists_parseRules_eq_error_iff :
    (∃ error, parseRules text = .error error) ↔
      ∃ line ∈ Text.linesOf text, ∃ error, parseLine line = .error error := by
  have hrefused {outcome : Type} (found : Except ParseError outcome) :
      (∃ error, found = .error error) ↔ ¬∃ value, found = .ok value := by
    cases found <;> simp
  simp only [hrefused, parseRules, exists_parseLines_eq_ok_iff, ← isPolicyLine_iff]
  push Not
  rfl

/-- Two texts are read together, with a line feed between them, as they are read apart. The
rules of the first come before those of the second, an error in the first is the error of both,
and an error in the second stays the same but for its line, which is as many lines further down as
the first has with its line feed. A text is refused if one of its lines is, and then for the
first of them, with the line as it is and its number, from one and with all lines counted. -/
theorem parseRules_append_and_eq_error_iff :
    (∀ text other first second, parseRules text = .ok first → parseRules other = .ok second →
      parseRules (text ++ "\n" ++ other) =
        .ok ⟨first.roleRules ++ second.roleRules,
          first.permissionRules ++ second.permissionRules⟩) ∧
    (∀ text other error, parseRules text = .error error →
      parseRules (text ++ "\n" ++ other) = .error error) ∧
    (∀ text other first error, parseRules text = .ok first → parseRules other = .error error →
      ∃ number : Nat, error.lineNumber = some number ∧
        parseRules (text ++ "\n" ++ other) =
          .error { error with
            lineNumber := some ((number : Int) + (Text.linesOf (text ++ "\n")).length) }) ∧
    ∀ text, ∃ lines, (∀ others, Text.AreLinesOf text others ↔ others = lines) ∧
      ((∃ error, parseRules text = .error error) ↔
        ∃ line ∈ lines, ∃ error, parseLine line = .error error) ∧
      ∀ error, parseRules text = .error error ↔
        ∃ before line after, lines = before ++ line :: after ∧
          (∀ earlier ∈ before, ∃ read, parseLine earlier = .ok read) ∧
          parseLine line (some (before.length + 1)) = .error error ∧
          error.lineNumber = some ((before.length : Int) + 1) ∧ error.line = some line := by
  refine ⟨?_, ?_, ?_, ?_⟩
  · intro text other first second hfirst hsecond
    rw [parseRules_append_lineFeed, hfirst, hsecond]
    rfl
  · intro text other error herror
    rw [parseRules_append_lineFeed, herror]
    rfl
  · intro text other first error hfirst herror
    obtain ⟨before, line, after, -, -, hwrong⟩ := parseRules_eq_error_iff.1 herror
    obtain ⟨-, -, hnumber, -⟩ := parseLine_eq_error_iff.1 hwrong
    refine ⟨before.length + 1, hnumber, ?_⟩
    rw [parseRules_append_lineFeed, hfirst, herror]
    show Except.error (error.below _) = _
    rw [ParseError.below, hnumber]
    simp
  · intro text
    refine ⟨Text.linesOf text, fun others => Text.areLinesOf_iff, exists_parseRules_eq_error_iff,
      fun error => ?_⟩
    rw [parseRules_eq_error_iff]
    constructor
    · rintro ⟨before, line, after, hlines, hbefore, hwrong⟩
      obtain ⟨-, hline, hnumber, -⟩ := parseLine_eq_error_iff.1 hwrong
      exact ⟨before, line, after, hlines, hbefore, hwrong, hnumber, hline⟩
    · rintro ⟨before, line, after, hlines, hbefore, hwrong, -, -⟩
      exact ⟨before, line, after, hlines, hbefore, hwrong⟩

/-- The carriage return at the end of the first text and the line feed after it are one line
end, so what stands in the second line of the other text is found in the third of both. -/
theorem parseRules_append_of_carriage_return :
    parseRules ("boss > ann\r" ++ "\n" ++ "allow boss /x") =
        .ok ⟨[⟨"boss", "ann"⟩], [⟨.allow, "boss", [.literal "x"]⟩]⟩ ∧
      parseRules ("bogus" ++ "\n" ++ "boss > ann\r") =
        .error ⟨.wordCount 1, some 1, some "bogus", none⟩ ∧
      parseRules ("boss > ann\r" ++ "\n" ++ "allow boss /x\nbogus") =
        .error ⟨.wordCount 1, some 3, some "bogus", none⟩ := by
  have hfirst : parseRules "boss > ann\r" = .ok ⟨[⟨"boss", "ann"⟩], []⟩ := by decide
  have hsecond : parseRules "allow boss /x" = .ok ⟨[], [⟨.allow, "boss", [.literal "x"]⟩]⟩ := by
    decide
  have hbogus : parseRules "bogus" = .error ⟨.wordCount 1, some 1, some "bogus", none⟩ := by decide
  have herror : parseRules "allow boss /x\nbogus" =
      .error ⟨.wordCount 1, some 2, some "bogus", none⟩ := by decide
  obtain ⟨hjoined, hfails, hbelow, -⟩ := parseRules_append_and_eq_error_iff
  refine ⟨hjoined _ _ _ _ hfirst hsecond, hfails _ "boss > ann\r" _ hbogus, ?_⟩
  obtain ⟨number, hnumber, hfound⟩ := hbelow _ _ _ _ hfirst herror
  have hlines : (Text.linesOf ("boss > ann\r" ++ "\n")).length = 1 := by decide
  rw [hfound, ← Option.some_inj.1 hnumber, hlines]
  rfl

end Policy

end RoleAccess

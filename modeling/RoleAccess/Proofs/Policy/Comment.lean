import RoleAccess.Proofs.Policy.Concatenation

/-!
# Comments in a text

A number sign begins a comment, whatever comes after it in its line
(`saysNothing_comment`). But a comment ends with its line, and there are more line ends than line
feeds and carriage returns: what comes after one of the others is a line of its own. So a comment
that is put into a text changes none of its rules exactly if all lines that the comment is cut
into say nothing, and in any case if it has no line end inside (`parseRules_comment_iff`). A rule
after a form feed in a comment is a rule (`parseRules_rule_in_comment`).
-/

namespace RoleAccess.Policy

variable {text other : String} {rules : RuleSet}

/-- A line that begins with a number sign says nothing. -/
theorem saysNothing_comment (comment : String) : SaysNothing (Text.wordsOf ("#" ++ comment)) := by
  have hsign : Text.isBlank '#' = false := by decide
  have hchars : ("#" ++ comment).toList = '#' :: comment.toList := by simp
  obtain ⟨run, runs, hwords⟩ : ∃ run runs,
      Text.words ('#' :: comment.toList) = ('#' :: run) :: runs := Text.exists_words_cons hsign
  rw [Text.wordsOf, hchars, hwords]
  exact .comment (by simp)

/-- As a line a comment says nothing, whatever is in it. Put into a text where a line can begin,
it leaves the rules as they are exactly if each line that it is cut into says nothing, so if it
has no line end inside. -/
theorem parseRules_comment_iff (hends : text = "" ∨ ∃ front, text = front ++ "\n")
    (h : parseRules (text ++ other) = .ok rules) (comment : String) :
    (∀ lineNumber, parseLine ("#" ++ comment) lineNumber = .ok none) ∧
      (parseRules (text ++ "#" ++ comment ++ "\n" ++ other) = .ok rules ↔
        ∀ line ∈ Text.linesOf ("#" ++ comment), SaysNothing (Text.wordsOf line)) ∧
      ((∀ c ∈ comment.toList, Text.isLineEnd c = false) →
        parseRules (text ++ "#" ++ comment ++ "\n" ++ other) = .ok rules) := by
  obtain ⟨⟨blank, hblank, habove⟩, hlines⟩ :=
    Text.exists_linesOf_append_lineFeed ("#" ++ comment)
  have hcut : Text.linesOf (text ++ "#" ++ comment ++ "\n" ++ other) =
      Text.linesOf text ++ (Text.linesOf ("#" ++ comment) ++ blank) ++ Text.linesOf other := by
    have hjoined : text ++ "#" ++ comment ++ "\n" ++ other =
        text ++ ("#" ++ comment ++ "\n" ++ other) := by
      simp [← String.toList_inj]
    rw [hjoined, Text.linesOf_append hends, hlines, habove, ← List.append_assoc]
  have hkept : parseRules (text ++ "#" ++ comment ++ "\n" ++ other) = .ok rules ↔
      ∀ line ∈ Text.linesOf ("#" ++ comment), SaysNothing (Text.wordsOf line) := by
    rw [parseRules, Text.linesOf_append hends] at h
    rw [parseRules, hcut, parseLines_insert_iff h, List.forall_mem_append]
    apply and_iff_left
    -- The line feed after the comment adds nothing but a blank line.
    intro line hline
    rw [hblank line hline]
    exact .blank
  constructor
  · intro lineNumber
    exact parseLine_eq_none_iff.2 (saysNothing_comment comment)
  constructor
  · exact hkept
  · intro hinside
    apply hkept.2
    intro line hline
    have hone : Text.linesOf ("#" ++ comment) = ["#" ++ comment] := by
      have hsign : Text.isLineEnd '#' = false := by decide
      apply Text.linesOf_eq_singleton
      · simp
      · simpa [hsign] using hinside
    rw [hone, List.mem_singleton] at hline
    rw [hline]
    exact saysNothing_comment comment

/-- A comment may be cut by a form feed if what comes after it is a comment too. -/
theorem parseRules_comment_of_two_pages :
    (∀ line ∈ Text.linesOf ("#" ++ " staff\x0c# guests"), SaysNothing (Text.wordsOf line)) ∧
      parseRules ("boss > ann\n" ++ "allow boss /x") =
        .ok ⟨[⟨"boss", "ann"⟩], [⟨.allow, "boss", [.literal "x"]⟩]⟩ ∧
      parseRules ("boss > ann\n" ++ "#" ++ " staff\x0c# guests" ++ "\n" ++ "allow boss /x") =
        .ok ⟨[⟨"boss", "ann"⟩], [⟨.allow, "boss", [.literal "x"]⟩]⟩ := by
  have hnothing : ∀ line ∈ Text.linesOf ("#" ++ " staff\x0c# guests"),
      SaysNothing (Text.wordsOf line) := by
    have hlines : Text.linesOf ("#" ++ " staff\x0c# guests") =
        ["#" ++ " staff", "#" ++ " guests"] := by
      decide
    intro line hline
    rw [hlines, List.mem_pair] at hline
    rcases hline with rfl | rfl
    · exact saysNothing_comment _
    · exact saysNothing_comment _
  have hread : parseRules ("boss > ann\n" ++ "allow boss /x") =
      .ok ⟨[⟨"boss", "ann"⟩], [⟨.allow, "boss", [.literal "x"]⟩]⟩ := by decide
  obtain ⟨-, hkept, -⟩ :=
    parseRules_comment_iff (.inr ⟨"boss > ann", rfl⟩) hread " staff\x0c# guests"
  exact ⟨hnothing, hread, hkept.2 hnothing⟩

/-- Without line feeds and carriage returns a comment can still hold a rule of the text: a form
feed ends the comment, and the text grants what comes after it. -/
theorem parseRules_rule_in_comment :
    '\n' ∉ " was:\x0callow ann /docs".toList ∧ '\r' ∉ " was:\x0callow ann /docs".toList ∧
      parseRules ("boss > ann\n" ++ "") = .ok ⟨[⟨"boss", "ann"⟩], []⟩ ∧
      parseRules ("boss > ann\n" ++ "#" ++ " was:\x0callow ann /docs" ++ "\n" ++ "") =
        .ok ⟨[⟨"boss", "ann"⟩], [⟨.allow, "ann", [.literal "docs"]⟩]⟩ := by
  decide

end RoleAccess.Policy

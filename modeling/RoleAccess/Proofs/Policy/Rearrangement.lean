import RoleAccess.Proofs.Checker.Monotonicity
import RoleAccess.Proofs.Policy.Outcome

/-!
# Texts with the same lines

Lines may be put into another order and repeated. The rules of the text are then the same
ones in another order, with repetitions (`Policy.mem_toList_of_same_lines`), so the table of
parents, the search for a cycle and the trees of the roles may all look different; but what is
wrong with the lines does not depend on their order, and neither does what the rules grant.

Main statement: two texts that join the same lines with line feeds either have checkers that
give the same answers, or fail with errors of the same kind, the one that is wrong with their
lines (`Policy.parse_of_same_lines`).
-/

namespace RoleAccess

variable {lines others : List String} {text otherText : String} {rules otherRules : RuleSet}
  {checker other : Checker}

theorem Environment.IsExtendedBy.refl (environment : Environment) :
    environment.IsExtendedBy environment :=
  ⟨fun _ _ h => h, fun _ _ h => h⟩

/-- A set of rules that has all rules of another one keeps its grants. -/
theorem RuleSet.keepsGrants (h : ∀ rule ∈ rules.toList, rule ∈ otherRules.toList) :
    KeepsGrants rules.roleRules rules.permissionRules otherRules.roleRules
      otherRules.permissionRules := by
  refine ⟨fun rule hrule => ?_, fun rule hrule _ => ?_⟩
  · exact mem_roleRules_iff.2 (h _ (mem_roleRules_iff.1 hrule))
  · exact mem_permissionRules_iff.2 (h _ (mem_permissionRules_iff.1 hrule))

namespace Policy

/-- The empty line says no rule. -/
theorem parseLine_empty_ne (rule : Rule) : parseLine "" ≠ .ok (some rule) := by
  intro h
  have hnone : parseLine "" = .ok none := parseLine_eq_ok_none_iff.2 (by decide)
  rw [hnone] at h
  cases h

/-- Texts with the same lines have the same rules. -/
theorem mem_toList_of_same_lines
    (same : ∀ line, line ≠ "" → (line ∈ Text.linesOf text ↔ line ∈ Text.linesOf otherText))
    (h : parseRules text = .ok rules) (h' : parseRules otherText = .ok otherRules) (rule : Rule) :
    rule ∈ rules.toList ↔ rule ∈ otherRules.toList := by
  rw [mem_toList_iff h, mem_toList_iff h']
  refine exists_congr fun line => and_congr_left fun hsays => same line ?_
  rintro rfl
  exact parseLine_empty_ne rule hsays

/-- Checkers over the same rules answer alike. -/
theorem check_eq_of_same_lines
    (same : ∀ line, line ≠ "" → (line ∈ Text.linesOf text ↔ line ∈ Text.linesOf otherText))
    (h : parse text = .ok checker) (h' : parse otherText = .ok other) (environment : Environment)
    (role : String) (resource : List String) :
    (checker.withEnvironment environment).check role resource =
      (other.withEnvironment environment).check role resource := by
  obtain ⟨rules, hread, hbuilt⟩ := parse_eq_ok_iff.1 h
  obtain ⟨otherRules, hread', hbuilt'⟩ := parse_eq_ok_iff.1 h'
  have hrules := mem_toList_of_same_lines same hread hread'
  have keeps := RuleSet.keepsGrants fun rule => (hrules rule).1
  have keeps' := RuleSet.keepsGrants fun rule => (hrules rule).2
  have decides := Checker.decides_check hbuilt (isKnown_of_parseRules_eq_ok hread) environment
    role resource
  have decides' := Checker.decides_check hbuilt' (isKnown_of_parseRules_eq_ok hread') environment
    role resource
  refine (decides.congr ?_).unique decides'
  exact ⟨Grants.mono keeps (.refl _), Grants.mono keeps' (.refl _)⟩

/-- Two texts that join the same lines, in any order and with any repetitions, come to the same
thing. Either nothing is wrong with the lines, and both have checkers that answer every query
alike in every environment; or both fail, with errors of the kind that is wrong with the lines:
a wrong line, or else a child under two parents, or else a role that is put under itself. -/
theorem parse_of_same_lines
    (oneLine : ∀ line ∈ lines, ∀ c ∈ line.toList, Text.isLineEnd c = false)
    (same : ∀ line, line ∈ lines ↔ line ∈ others) :
    (∃ checker other, parse ("\n".intercalate lines) = .ok checker ∧
      parse ("\n".intercalate others) = .ok other ∧ (∀ kind, ¬Flaw lines kind) ∧
      ∀ environment role resource, (checker.withEnvironment environment).check role resource =
        (other.withEnvironment environment).check role resource) ∨
    ∃ fault other, parse ("\n".intercalate lines) = .error fault ∧
      parse ("\n".intercalate others) = .error other ∧ fault.kind = other.kind ∧
      Flaw lines fault.kind := by
  have otherOneLine : ∀ line ∈ others, ∀ c ∈ line.toList, Text.isLineEnd c = false :=
    fun line hline => oneLine line ((same line).2 hline)
  -- Both texts have the lines of the first list, up to empty ones.
  have hlines (line : String) (hne : line ≠ "") :
      line ∈ Text.linesOf ("\n".intercalate lines) ↔ line ∈ lines :=
    Text.mem_linesOf_intercalate hne oneLine
  have hothers (line : String) (hne : line ≠ "") :
      line ∈ Text.linesOf ("\n".intercalate others) ↔ line ∈ lines := by
    rw [Text.mem_linesOf_intercalate hne otherOneLine, same]
  cases h : parse ("\n".intercalate lines) with
  | ok checker =>
      have hsound : ∀ kind, ¬Flaw lines kind := fun kind hflaw =>
        not_flaw_of_parse_eq_ok h (hflaw.congr fun line hne => (hlines line hne).symm)
      cases h' : parse ("\n".intercalate others) with
      | ok other =>
          refine .inl ⟨checker, other, rfl, rfl, hsound, check_eq_of_same_lines ?_ h h'⟩
          exact fun line hne => (hlines line hne).trans (hothers line hne).symm
      | error fault => exact absurd ((flaw_of_parse_eq_error h').congr hothers) (hsound _)
  | error fault =>
      have hflaw := (flaw_of_parse_eq_error h).congr hlines
      cases h' : parse ("\n".intercalate others) with
      | ok other =>
          refine absurd (hflaw.congr fun line hne => (hothers line hne).symm) ?_
          exact not_flaw_of_parse_eq_ok h'
      | error other =>
          have hother := (flaw_of_parse_eq_error h').congr hothers
          exact .inr ⟨fault, other, rfl, rfl, hflaw.unique hother, hflaw⟩

/-- A role rule may stand before the permission rule or after it, and twice. The second text
ends with an empty line, which is lost. -/
theorem parse_of_repeated_line :
    ∃ checker other, parse "allow boss /docs/*\n\nboss > ann" = .ok checker ∧
      parse "boss > ann\nallow boss /docs/*\nboss > ann\n" = .ok other ∧
      ∀ environment role resource, (checker.withEnvironment environment).check role resource =
        (other.withEnvironment environment).check role resource := by
  obtain ⟨checker, h⟩ : ∃ checker, parse "allow boss /docs/*\n\nboss > ann" = .ok checker :=
    ⟨_, rfl⟩
  have same (line : String) : line ∈ ["allow boss /docs/*", "", "boss > ann"] ↔
      line ∈ ["boss > ann", "allow boss /docs/*", "boss > ann", ""] := by
    simp only [List.mem_cons, List.not_mem_nil, or_false]
    tauto
  have hends : ["allow boss /docs/*", "", "boss > ann"].all (fun line =>
      line.toList.all (!Text.isLineEnd ·)) = true := by decide
  have oneLine : ∀ line ∈ ["allow boss /docs/*", "", "boss > ann"],
      ∀ c ∈ line.toList, Text.isLineEnd c = false := by
    intro line hline c hc
    have hline := List.all_eq_true.1 hends line hline
    simpa using List.all_eq_true.1 hline c hc
  obtain ⟨checker, other, hparsed, hother, -, halike⟩ | ⟨fault, other, hfails, -⟩ :=
    parse_of_same_lines oneLine same
  · exact ⟨checker, other, hparsed, hother, halike⟩
  · have hfails' : parse "allow boss /docs/*\n\nboss > ann" = .error fault := hfails
    rw [h] at hfails'
    cases hfails'

end Policy

end RoleAccess

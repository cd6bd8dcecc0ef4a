import RoleAccess.Proofs.Policy.RoundTrip

/-!
# The lines behind the rules of a text

A text that is read has no wrong line, and its rules are those that its lines say,
wherever the lines stand (`mem_toList_iff`). So a role rule of a text is a line of
three words with `>` in the middle that is no comment, and a permission rule is a
line of a keyword, another role than `>` and a resource pattern that is read as the
resource of the rule (`mem_roleRules_iff`, `mem_permissionRules_iff`).
-/

namespace RoleAccess

/-! ## Rules of a set -/

namespace RuleSet

variable {rules : RuleSet} {rule added : Rule}

theorem mem_toList_cons_iff :
    rule ∈ (rules.cons added).toList ↔ rule = added ∨ rule ∈ rules.toList := by
  cases added with
  | role added => simp [cons, toList]
  | permission added => simp [cons, toList, or_left_comm]

theorem mem_roleRules_iff {rule : RoleRule} :
    rule ∈ rules.roleRules ↔ .role rule ∈ rules.toList := by
  simp [toList]

theorem mem_permissionRules_iff {rule : PermissionRule} :
    rule ∈ rules.permissionRules ↔ .permission rule ∈ rules.toList := by
  simp [toList]

end RuleSet

namespace Policy

variable {line text pattern : String} {lines : List String} {rule : Rule} {rules : RuleSet}
  {number : Nat} {lineNumber : Option Int}

/-! ## Lines -/

/-- The number of a line has no part in what the line says. -/
theorem parseLine_eq_ok_congr {read : Option Rule} (lineNumber other : Option Int) :
    parseLine line lineNumber = .ok read ↔ parseLine line other = .ok read := by
  cases read with
  | none => rw [parseLine_eq_ok_none_iff, parseLine_eq_ok_none_iff]
  | some rule => rw [parseLine_eq_ok_some_iff, parseLine_eq_ok_some_iff]

/-- Lines that are read have rules that are what the single lines say. -/
theorem parseLines_ok (h : parseLines number lines = .ok rules) :
    (∀ line ∈ lines, ∃ read, parseLine line = .ok read) ∧
      ∀ rule, rule ∈ rules.toList ↔ ∃ line ∈ lines, parseLine line = .ok (some rule) := by
  induction lines generalizing number rules with
  | nil =>
      cases h
      simp [RuleSet.toList]
  | cons line lines ih =>
      rw [parseLines, Fold.bind_eq_ok_iff] at h
      obtain ⟨read, hread, hrest⟩ := h
      have hline : parseLine line = .ok read := (parseLine_eq_ok_congr _ none).1 hread
      simp only [List.forall_mem_cons, List.exists_mem_cons_iff]
      cases read with
      | none =>
          obtain ⟨hothers, hrules⟩ := ih hrest
          refine ⟨⟨⟨none, hline⟩, hothers⟩, fun rule => ?_⟩
          rw [hrules rule, hline]
          simp
      | some added =>
          obtain ⟨others, hok, hcons⟩ := Fold.bind_eq_ok_iff.1 hrest
          cases hcons
          obtain ⟨hothers, hrules⟩ := ih hok
          refine ⟨⟨⟨some added, hline⟩, hothers⟩, fun rule => ?_⟩
          rw [RuleSet.mem_toList_cons_iff, hrules rule, hline]
          simp [eq_comm]

/-! ## Texts -/

theorem mem_toList_iff (h : parseRules text = .ok rules) :
    rule ∈ rules.toList ↔ ∃ line ∈ Text.linesOf text, parseLine line = .ok (some rule) :=
  (parseLines_ok h).2 rule

/-- The role rules of a text are its lines of two roles with `>` between them, comments
apart. -/
theorem mem_roleRules_iff (h : parseRules text = .ok rules) {parent child : String} :
    ⟨parent, child⟩ ∈ rules.roleRules ↔ ∃ line ∈ Text.linesOf text,
      Text.wordsOf line = [parent, inheritsWord, child] ∧ startsComment parent = false := by
  rw [RuleSet.mem_roleRules_iff, mem_toList_iff h]
  simp only [parseLine_eq_ok_some_iff, ruleOf_eq_ok_iff]
  constructor
  · rintro ⟨line, hline, ⟨parent', child', hwords, heq⟩ | ⟨_, _, _, _, -, -, -, heq⟩, hcomment⟩
    · cases heq
      rw [hwords] at hcomment
      exact ⟨line, hline, hwords, hcomment parent rfl⟩
    · cases heq
  · rintro ⟨line, hline, hwords, hcomment⟩
    refine ⟨line, hline, .inl ⟨parent, child, hwords, rfl⟩, ?_⟩
    rw [hwords]
    simpa using hcomment

/-- The permission rules of a text are its lines of a keyword, a role and a resource
pattern. -/
theorem mem_permissionRules_iff (h : parseRules text = .ok rules) {rule : PermissionRule} :
    rule ∈ rules.permissionRules ↔ ∃ line ∈ Text.linesOf text, ∃ pattern,
      Text.wordsOf line = [rule.effect.keyword, rule.role, pattern] ∧
        rule.role ≠ inheritsWord ∧ parseResource pattern = .ok rule.resource := by
  rw [RuleSet.mem_permissionRules_iff, mem_toList_iff h]
  simp only [parseLine_eq_ok_some_iff, ruleOf_eq_ok_iff]
  constructor
  · rintro ⟨line, hline, ⟨_, _, -, heq⟩ | ⟨_, _, pattern, _, hwords, hrole, hresource, heq⟩, -⟩
    · cases heq
    · cases heq
      exact ⟨line, hline, pattern, hwords, hrole, hresource⟩
  · rintro ⟨line, hline, pattern, hwords, hrole, hresource⟩
    refine ⟨line, hline, .inr ⟨rule.effect, rule.role, pattern, rule.resource, hwords, hrole,
      hresource, rfl⟩, ?_⟩
    rw [hwords]
    simpa using startsComment_keyword rule.effect

/-- The resource pattern of every permission line of a text that is read can be read. -/
theorem exists_parseResource_eq_ok (h : parseRules text = .ok rules) (effect : Effect)
    {role : String} (hline : line ∈ Text.linesOf text)
    (hwords : Text.wordsOf line = [effect.keyword, role, pattern]) (hrole : role ≠ inheritsWord) :
    ∃ resource, parseResource pattern = .ok resource := by
  obtain ⟨read, hread⟩ := (parseLines_ok h).1 line hline
  cases read with
  | none =>
      rw [parseLine_eq_ok_none_iff, hwords] at hread
      simp [startsComment_keyword] at hread
  | some rule =>
      rw [parseLine_eq_ok_some_iff, ruleOf_eq_ok_iff, hwords] at hread
      obtain ⟨⟨parent, child, heq, -⟩ | ⟨_, _, text', resource, heq, -, hresource, -⟩, -⟩ := hread
      · simp only [List.cons.injEq] at heq
        exact absurd heq.2.1 hrole
      · simp only [List.cons.injEq] at heq
        exact ⟨resource, heq.2.2.1 ▸ hresource⟩

end Policy

end RoleAccess

import RoleAccess.Proofs.Policy.Grammar
import RoleAccess.Proofs.Rule.Path
import RoleAccess.Proofs.Text.Lines

/-!
# Writing rules and reading them back

A canonical pattern is written as its rendering and occupies one segment, so a
canonical rule is read from its line (`parseLine_render`). Conversely the words of
a line hold no blank and the segments of a word no slash either, so every rule
that is read is canonical (`isCanonical_of_parseLine_eq_ok`).

Together the rules that survive writing and reading are the canonical ones, and
reading, writing and reading again changes nothing
(`parseRules_render_eq_ok_iff_and_stable`).
-/

namespace RoleAccess

variable {pattern : SegmentPattern} {segment line : String} {lineNumber : Option Int}

/-! ## Patterns -/

theorem isSegmentWord_iff {text : String} :
    IsSegmentWord text ↔
      text ≠ "" ∧ ∀ c ∈ text.toList, Text.isBlank c = false ∧ c ≠ '/' := by
  constructor
  · rintro ⟨⟨hne, hblank⟩, hslash⟩
    exact ⟨hne, fun c hc => ⟨hblank c hc, fun h => hslash (h ▸ hc)⟩⟩
  · rintro ⟨hne, h⟩
    exact ⟨⟨hne, fun c hc => (h c hc).1⟩, fun hc => (h '/' hc).2 rfl⟩

/-- A canonical pattern is written as its rendering. -/
theorem SegmentPattern.IsCanonical.isWrittenAs (h : pattern.IsCanonical) :
    pattern.IsWrittenAs pattern.render := by
  cases h with
  | universal => exact .universal
  | bound hname => exact .bound hname.1.1
  | member hname => exact .member hname.1.1
  | literal hname star square brace => exact .literal hname.1.1 star square brace

theorem IsSegmentWord.append {first second : String} (hfirst : IsSegmentWord first)
    (hsecond : IsSegmentWord second) : IsSegmentWord (first ++ second) := by
  rw [isSegmentWord_iff] at *
  refine ⟨by simp [hfirst.1], ?_⟩
  intro c hc
  rw [String.toList_append, List.mem_append] at hc
  rcases hc with hc | hc
  · exact hfirst.2 c hc
  · exact hsecond.2 c hc

/-- The rendering of a canonical pattern is one segment of a word. -/
theorem SegmentPattern.IsCanonical.isSegmentWord_render (h : pattern.IsCanonical) :
    IsSegmentWord pattern.render := by
  cases h with
  | universal => exact (by decide : IsSegmentWord "*")
  | bound hname =>
      have opening : IsSegmentWord "[" := by decide
      have closing : IsSegmentWord "]" := by decide
      exact (opening.append hname).append closing
  | member hname =>
      have opening : IsSegmentWord "\x7b" := by decide
      have closing : IsSegmentWord "\x7d" := by decide
      exact (opening.append hname).append closing
  | literal hname => exact hname

/-- Every character between the ends of a segment word is one of the word. -/
theorem isSegmentWord_of_bracketed {opening closing name : String} (hname : name ≠ "")
    (hsegment : ∀ c ∈ (opening ++ name ++ closing).toList, Text.isBlank c = false ∧ c ≠ '/') :
    IsSegmentWord name := by
  refine isSegmentWord_iff.2 ⟨hname, fun c hc => hsegment c ?_⟩
  simp [hc]

/-- A pattern is canonical if it is written without blanks and slashes. -/
theorem SegmentPattern.IsWrittenAs.isCanonical (h : pattern.IsWrittenAs segment)
    (hsegment : ∀ c ∈ segment.toList, Text.isBlank c = false ∧ c ≠ '/') : pattern.IsCanonical := by
  cases h with
  | universal => exact .universal
  | bound hname => exact .bound (isSegmentWord_of_bracketed hname hsegment)
  | member hname => exact .member (isSegmentWord_of_bracketed hname hsegment)
  | literal hname star square brace =>
      exact .literal (isSegmentWord_iff.2 ⟨hname, hsegment⟩) star square brace

namespace Policy

/-- Patterns written without blanks and slashes are all canonical. -/
theorem isCanonical_of_forall₂ {patterns : List SegmentPattern} {segments : List String}
    (h : List.Forall₂ SegmentPattern.IsWrittenAs patterns segments)
    (hsegments : ∀ segment ∈ segments, ∀ c ∈ segment.toList, Text.isBlank c = false ∧ c ≠ '/') :
    ∀ pattern ∈ patterns, pattern.IsCanonical := by
  induction h with
  | nil => simp
  | cons hpair _ ih =>
      rw [List.forall_mem_cons] at hsegments ⊢
      exact ⟨hpair.isCanonical hsegments.1, ih hsegments.2⟩

/-- The patterns of a resource pattern that is a word are canonical. -/
theorem isCanonical_of_parseResource_eq_ok {text : String} {resource : List SegmentPattern}
    (h : parseResource text = .ok resource) (htext : ∀ c ∈ text.toList, Text.isBlank c = false) :
    ∀ pattern ∈ resource, pattern.IsCanonical := by
  apply isCanonical_of_forall₂ (parseResource_eq_ok_iff.1 h).2
  intro segment hsegment c hc
  have inside := Path.mem_segments hsegment hc
  exact ⟨htext c inside.1, inside.2⟩

end Policy

/-! ## Rules -/

namespace PermissionRule.IsCanonical

variable {rule : PermissionRule}

/-- The resource pattern of a canonical rule is read back. -/
theorem parseResource_pattern (h : rule.IsCanonical) :
    Policy.parseResource rule.pattern = .ok rule.resource := by
  have hsegments : Path.segments rule.pattern = rule.resource.map SegmentPattern.render := by
    apply Path.segments_intercalate
    intro part hpart
    obtain ⟨pattern, hpattern, rfl⟩ := List.mem_map.1 hpart
    have hword := (h.segments pattern hpattern).isSegmentWord_render
    exact ⟨hword.1.1, hword.2⟩
  refine Policy.parseResource_eq_ok_iff.2 ⟨h.nonempty, ?_⟩
  rw [hsegments, List.forall₂_map_right_iff, List.forall₂_same]
  exact fun pattern hpattern => (h.segments pattern hpattern).isWrittenAs

/-- The resource pattern of a canonical rule is a word. -/
theorem isWord_pattern (h : rule.IsCanonical) : IsWord rule.pattern := by
  refine ⟨by simp [PermissionRule.pattern], ?_⟩
  intro c hc
  -- Apart from its slashes, the resource pattern has the characters of its segments.
  rw [PermissionRule.pattern, Path.toList_intercalate, List.mem_cons] at hc
  have hslash : Text.isBlank '/' = false := by decide
  rcases hc with rfl | hc
  · exact hslash
  · rcases Path.mem_intercalate hc with rfl | ⟨part, hpart, hc⟩
    · exact hslash
    · rw [List.map_map] at hpart
      obtain ⟨pattern, hpattern, rfl⟩ := List.mem_map.1 hpart
      exact (h.segments pattern hpattern).isSegmentWord_render.1.2 c hc

end PermissionRule.IsCanonical

/-- The line of a rule is read as the rule. -/
def Rule.IsCanonical : Rule → Prop
  | .role rule => rule.IsCanonical
  | .permission rule => rule.IsCanonical

theorem Effect.isWord_keyword (effect : Effect) : IsWord effect.keyword := by
  cases effect <;> decide

theorem isWord_inheritsWord : IsWord Policy.inheritsWord := by decide

theorem RoleRule.render_eq (rule : RoleRule) :
    rule.render = rule.parent ++ " " ++ Policy.inheritsWord ++ " " ++ rule.child := by
  simp [RoleRule.render, Policy.inheritsWord, ← String.toList_inj]

/-- The words of the line of a canonical rule. -/
theorem RoleRule.IsCanonical.wordsOf_render {rule : RoleRule} (h : rule.IsCanonical) :
    Text.wordsOf rule.render = [rule.parent, Policy.inheritsWord, rule.child] := by
  rw [rule.render_eq]
  exact Text.wordsOf_three h.parent isWord_inheritsWord h.child

theorem PermissionRule.IsCanonical.wordsOf_render {rule : PermissionRule} (h : rule.IsCanonical) :
    Text.wordsOf rule.render = [rule.effect.keyword, rule.role, rule.pattern] :=
  Text.wordsOf_three rule.effect.isWord_keyword h.role h.isWord_pattern

namespace Policy

variable {rule : Rule} {rules : RuleSet}

/-- A canonical rule is read from its line. -/
theorem parseLine_render (h : rule.IsCanonical) :
    parseLine rule.render lineNumber = .ok (some rule) := by
  rw [parseLine_eq_ok_some_iff, ruleOf_eq_ok_iff]
  cases rule with
  | role rule =>
      have hrule : RoleRule.IsCanonical rule := h
      rw [Rule.render, hrule.wordsOf_render]
      refine ⟨.inl ⟨rule.parent, rule.child, rfl, rfl⟩, ?_⟩
      simpa using hrule.noComment
  | permission rule =>
      have hrule : PermissionRule.IsCanonical rule := h
      rw [Rule.render, hrule.wordsOf_render]
      refine ⟨.inr ⟨rule.effect, rule.role, rule.pattern, rule.resource, rfl,
        hrule.noInheritance, hrule.parseResource_pattern, rfl⟩, ?_⟩
      simpa using startsComment_keyword rule.effect

/-- Every rule that is read from a line is canonical. -/
theorem isCanonical_of_parseLine_eq_ok (h : parseLine line lineNumber = .ok (some rule)) :
    rule.IsCanonical := by
  rw [parseLine_eq_ok_some_iff, ruleOf_eq_ok_iff] at h
  obtain ⟨hrule, hcomment⟩ := h
  have hwords : ∀ word ∈ Text.wordsOf line, IsWord word := fun _ => Text.mem_wordsOf
  rcases hrule with ⟨parent, child, hline, rfl⟩ |
    ⟨effect, role, text, resource, hline, hrole, hresource, rfl⟩
  · rw [hline] at hcomment hwords
    exact ⟨hwords parent (by simp), hwords child (by simp), hcomment parent rfl⟩
  · rw [hline] at hwords
    have htext : IsWord text := hwords text (by simp)
    exact ⟨hwords role (by simp), hrole, (parseResource_eq_ok_iff.1 hresource).1,
      isCanonical_of_parseResource_eq_ok hresource htext.2⟩

/-- The line of a canonical rule is neither empty nor more than one line. -/
theorem render_isLine (h : rule.IsCanonical) :
    rule.render ≠ "" ∧ ∀ c ∈ rule.render.toList, Text.isLineEnd c = false := by
  cases rule with
  | role rule =>
      have hrule : RoleRule.IsCanonical rule := h
      rw [Rule.render, rule.render_eq]
      exact Text.isLine_three hrule.parent isWord_inheritsWord.2 hrule.child.2
  | permission rule =>
      have hrule : PermissionRule.IsCanonical rule := h
      exact Text.isLine_three rule.effect.isWord_keyword hrule.role.2 hrule.isWord_pattern.2

end Policy

/-! ## Texts -/

namespace RuleSet

variable {rule : Rule} {rules : RuleSet}

/-- The rules of a set, role rules first. -/
def toList (rules : RuleSet) : List Rule :=
  rules.roleRules.map .role ++ rules.permissionRules.map .permission

theorem render_eq (rules : RuleSet) : rules.render = rules.toList.map Rule.render := by
  rw [toList, List.map_append, List.map_map, List.map_map]
  rfl

/-- Putting the rules of a set in front of the empty set, one by one, gives the set. -/
theorem foldr_cons_toList (rules : RuleSet) : rules.toList.foldr cons {} = rules := by
  have permissions : ∀ rules : List PermissionRule,
      (rules.map Rule.permission).foldr cons ({} : RuleSet) = ⟨[], rules⟩ := by
    intro rules
    induction rules with
    | nil => rfl
    | cons rule rules ih => rw [List.map_cons, List.foldr_cons, ih, cons]
  obtain ⟨roleRules, permissionRules⟩ := rules
  rw [toList, List.foldr_append, permissions]
  induction roleRules with
  | nil => rfl
  | cons rule rules ih => rw [List.map_cons, List.foldr_cons, ih, cons]

theorem IsCanonical.forall_mem_toList (h : rules.IsCanonical) :
    ∀ rule ∈ rules.toList, rule.IsCanonical := by
  intro rule hrule
  rcases List.mem_append.1 hrule with hrule | hrule
  · obtain ⟨role, hrole, rfl⟩ := List.mem_map.1 hrule
    exact h.roleRules role hrole
  · obtain ⟨permission, hpermission, rfl⟩ := List.mem_map.1 hrule
    exact h.permissionRules permission hpermission

theorem IsCanonical.cons (hrule : rule.IsCanonical) (h : rules.IsCanonical) :
    (rules.cons rule).IsCanonical := by
  cases rule with
  | role rule => exact ⟨List.forall_mem_cons.2 ⟨hrule, h.roleRules⟩, h.permissionRules⟩
  | permission rule => exact ⟨h.roleRules, List.forall_mem_cons.2 ⟨hrule, h.permissionRules⟩⟩

end RuleSet

namespace Policy

variable {rules : RuleSet} {lines : List String} {number : Nat}

/-- The lines of canonical rules are read as the rules, whatever the numbers. -/
theorem parseLines_map_render {list : List Rule} (h : ∀ rule ∈ list, rule.IsCanonical) :
    parseLines number (list.map Rule.render) = .ok (list.foldr RuleSet.cons {}) := by
  induction list generalizing number with
  | nil => rfl
  | cons rule list ih =>
      rw [List.forall_mem_cons] at h
      rw [List.map_cons, parseLines, parseLine_render h.1, List.foldr_cons]
      show (parseLines (number + 1) (list.map Rule.render) >>= fun rules =>
        .ok (rules.cons rule)) = _
      rw [ih h.2]
      rfl

/-- Every rule that is read from lines is canonical. -/
theorem isCanonical_of_parseLines_eq_ok (h : parseLines number lines = .ok rules) :
    rules.IsCanonical := by
  induction lines generalizing number rules with
  | nil =>
      cases h
      exact ⟨by simp, by simp⟩
  | cons line lines ih =>
      rw [parseLines, Fold.bind_eq_ok_iff] at h
      obtain ⟨read, hread, hrest⟩ := h
      cases read with
      | none => exact ih hrest
      | some rule =>
          obtain ⟨others, hothers, hrules⟩ := Fold.bind_eq_ok_iff.1 hrest
          cases hrules
          exact .cons (isCanonical_of_parseLine_eq_ok hread) (ih hothers)

/-- Canonical rules are read back from the text of their lines. -/
theorem parseRules_render (h : rules.IsCanonical) :
    parseRules ("\n".intercalate rules.render) = .ok rules := by
  have hcanonical := h.forall_mem_toList
  have hlines : Text.linesOf ("\n".intercalate rules.render) = rules.render := by
    apply Text.linesOf_intercalate
    intro line hline
    rw [rules.render_eq] at hline
    obtain ⟨rule, hrule, rfl⟩ := List.mem_map.1 hline
    exact render_isLine (hcanonical rule hrule)
  rw [parseRules, hlines, rules.render_eq, parseLines_map_render hcanonical,
    rules.foldr_cons_toList]

theorem isCanonical_of_parseRules_eq_ok {text : String} (h : parseRules text = .ok rules) :
    rules.IsCanonical :=
  isCanonical_of_parseLines_eq_ok h

/-- Writing rules and reading them back gives the same rules exactly if all of them
are canonical; and the rules read from any text are, so that writing them and
reading them again changes nothing. -/
theorem parseRules_render_eq_ok_iff_and_stable :
    (∀ rules : RuleSet,
      parseRules ("\n".intercalate rules.render) = .ok rules ↔ rules.IsCanonical) ∧
    ∀ text rules, parseRules text = .ok rules →
      rules.IsCanonical ∧ parseRules ("\n".intercalate rules.render) = .ok rules := by
  refine ⟨fun rules => ⟨isCanonical_of_parseRules_eq_ok, parseRules_render⟩, ?_⟩
  intro text rules h
  have hcanonical := isCanonical_of_parseRules_eq_ok h
  exact ⟨hcanonical, parseRules_render hcanonical⟩

/-- Blank lines, comments and outer slashes are gone from what is written back. -/
theorem parseRules_render_of_untidy_text :
    ∃ rules, parseRules "# staff\n\nallow  ann  docs/*/\nboss > ann" = .ok rules ∧
      "\n".intercalate rules.render = "boss > ann\nallow ann /docs/*" ∧
      parseRules ("\n".intercalate rules.render) = .ok rules := by
  let rules : RuleSet :=
    ⟨[⟨"boss", "ann"⟩], [⟨.allow, "ann", [.literal "docs", .universal]⟩]⟩
  have hread : parseRules "# staff\n\nallow  ann  docs/*/\nboss > ann" = .ok rules := by
    decide
  refine ⟨rules, hread, by decide, ?_⟩
  exact (parseRules_render_eq_ok_iff_and_stable.2 _ rules hread).2

end Policy

end RoleAccess

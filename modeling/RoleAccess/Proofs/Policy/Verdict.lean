import Mathlib.Logic.Relation
import RoleAccess.Proofs.Checker.Meaning
import RoleAccess.Proofs.Permission.Cover
import RoleAccess.Proofs.Policy.Reading
import RoleAccess.Proofs.Rule.Parts

/-!
# What a policy text answers to a path

The answer to a path, said on the text alone. A line of the text puts a role under
another one (`PutsUnder`) or allows a role a resource pattern. Pattern and path are
cut into parts by the same rule, and a pattern accepts a path if there are as many
parts and each part of the pattern accepts the part of the path at its place
(`PatternAccepts`): only the part of the pattern is looked at for brackets, braces
and stars (`PartAccepts`).

Main statement: the checker of a text answers every path, and says yes exactly if
some line allows the role, or a role that it is put under, a pattern that accepts the
path; patterns of plain parts accept the paths that are equal to them up to outer
slashes, and parts of a path that look like patterns are never taken as such
(`Policy.checkPath_decides_textGrants`).
-/

namespace RoleAccess

/-- A part of a pattern that stands for itself. -/
structure IsPlainPart (part : String) : Prop where
  star : part ≠ "*"
  square : ¬IsBracketed '[' ']' part
  brace : ¬IsBracketed '{' '}' part

/-- A part of a pattern accepts a part of a path. -/
inductive PartAccepts (environment : Environment) : (part query : String) → Prop where
  | bound {name query : String} (h : environment.lookup name = some query) :
      PartAccepts environment ("[" ++ name ++ "]") query
  | member {name query : String} (h : environment.contains name query = true) :
      PartAccepts environment ("\x7b" ++ name ++ "\x7d") query
  | star {query : String} : PartAccepts environment "*" query
  | itself {part : String} (h : IsPlainPart part) : PartAccepts environment part part

/-- A pattern accepts a path: they have parts, as many, and each part of the pattern
accepts the part of the path at its place. -/
def PatternAccepts (environment : Environment) (pattern path : String) : Prop :=
  ∃ parts queries, Path.IsCut pattern parts ∧ Path.IsCut path queries ∧
    List.Forall₂ (PartAccepts environment) parts queries

/-- All parts of a pattern stand for themselves. -/
def HasPlainParts (pattern : String) : Prop :=
  ∀ parts, Path.IsCut pattern parts → ∀ part ∈ parts, IsPlainPart part

/-- A line of a text puts a role under another one. -/
def PutsUnder (text child parent : String) : Prop :=
  ∃ line ∈ Text.linesOf text, Text.wordsOf line = [parent, ">", child] ∧
    parent.toList.head? ≠ some '#'

/-- A line of a text allows a role a pattern. -/
def LineAllows (text role pattern : String) : Prop :=
  ∃ line ∈ Text.linesOf text, Text.wordsOf line = ["allow", role, pattern] ∧ role ≠ ">"

/-- A text grants a path to a role: it allows the role, or a role that this one is put
under in some steps, a pattern that accepts the path. -/
def TextGrants (text : String) (environment : Environment) (role path : String) : Prop :=
  ∃ grantee pattern, LineAllows text grantee pattern ∧
    Relation.ReflTransGen (PutsUnder text) role grantee ∧
      PatternAccepts environment pattern path

variable {environment : Environment} {pattern : SegmentPattern} {patterns : List SegmentPattern}
  {part query text path role : String} {parts queries : List String} {rules : RuleSet}

/-! ## Parts -/

/-- A text is a written form of one pattern only. -/
theorem SegmentPattern.IsWrittenAs.unique {other : SegmentPattern} (h : pattern.IsWrittenAs part)
    (h' : other.IsWrittenAs part) : pattern = other := by
  rw [← Policy.parseSegment_eq_ok_iff] at h h'
  rw [h] at h'
  exact Except.ok.inj h'

/-- No pattern is written without a name in its brackets or braces. -/
theorem SegmentPattern.IsWrittenAs.name_ne_empty {name : String} :
    (pattern.IsWrittenAs ("[" ++ name ++ "]") → name ≠ "") ∧
      (pattern.IsWrittenAs ("\x7b" ++ name ++ "\x7d") → name ≠ "") := by
  constructor
  · rintro h rfl
    rw [← Policy.parseSegment_eq_ok_iff] at h
    cases h
  · rintro h rfl
    rw [← Policy.parseSegment_eq_ok_iff] at h
    cases h

/-- A part accepts what the pattern that it is a written form of matches. -/
theorem SegmentPattern.IsWrittenAs.partAccepts_iff (h : pattern.IsWrittenAs part) :
    PartAccepts environment part query ↔ pattern.Matches environment query := by
  constructor
  · intro haccepts
    -- The part is written in one of four ways, and the pattern is the one written so.
    cases haccepts with
    | bound hlookup =>
        have hname := name_ne_empty.1 h
        rw [h.unique (.bound hname)]
        exact .bound hlookup
    | member hcontains =>
        have hname := name_ne_empty.2 h
        rw [h.unique (.member hname)]
        exact .member hcontains
    | star =>
        rw [h.unique .universal]
        exact .universal
    | itself hplain =>
        have hne : part ≠ "" := by
          rintro rfl
          rw [← Policy.parseSegment_eq_ok_iff] at h
          cases h
        rw [h.unique (.literal hne hplain.star hplain.square hplain.brace)]
        exact .literal
  · intro hmatches
    cases h with
    | bound =>
        cases hmatches with
        | bound hlookup => exact .bound hlookup
    | member =>
        cases hmatches with
        | member hcontains => exact .member hcontains
    | universal => exact .star
    | literal hne star square brace =>
        cases hmatches
        exact .itself ⟨star, square, brace⟩

/-- Plain parts accept themselves only. -/
theorem IsPlainPart.accepts_iff (h : IsPlainPart part) :
    PartAccepts environment part query ↔ query = part := by
  constructor
  · intro haccepts
    cases haccepts with
    | @bound name =>
        exact absurd ⟨name.toList, by simp⟩ h.square
    | @member name =>
        exact absurd ⟨name.toList, by simp⟩ h.brace
    | star => exact absurd rfl h.star
    | itself => rfl
  · rintro rfl
    exact .itself h

/-! ## Patterns -/

theorem SegmentPattern.IsCanonical.isKnown (h : pattern.IsCanonical) : pattern.kind.IsKnown := by
  cases h <;> trivial

/-- The written parts of a resource accept what its patterns match. -/
theorem forall₂_partAccepts_iff (h : List.Forall₂ SegmentPattern.IsWrittenAs patterns parts) :
    List.Forall₂ (PartAccepts environment) parts queries ↔
      List.Forall₂ (SegmentPattern.Matches environment) patterns queries := by
  induction h generalizing queries with
  | nil => simp
  | cons hpart _ ih => cases queries <;> simp [hpart.partAccepts_iff, ih]

/-- The patterns read from a text cover the segments of the paths that it accepts. -/
theorem Policy.covers_iff_patternAccepts {pattern : String}
    (h : parseResource pattern = .ok patterns) :
    Covers environment patterns (Path.segments path) ↔ PatternAccepts environment pattern path := by
  obtain ⟨hsome, hwritten⟩ := parseResource_eq_ok_iff.1 h
  have hparts : Path.IsCut pattern (Path.segments pattern) := by
    refine Path.isCut_iff.2 ⟨?_, rfl⟩
    intro hnil
    rw [hnil, List.forall₂_nil_right_iff] at hwritten
    exact hsome hwritten
  rw [covers_iff_forall₂]
  constructor
  · intro hcovers
    refine ⟨_, _, hparts, Path.isCut_iff.2 ⟨?_, rfl⟩, (forall₂_partAccepts_iff hwritten).2 hcovers⟩
    -- The path has as many segments as there are patterns.
    intro hnil
    rw [hnil, List.forall₂_nil_right_iff] at hcovers
    exact hsome hcovers
  · rintro ⟨parts, queries, hcut, hqueries, haccepts⟩
    rw [← hparts.unique hcut, forall₂_partAccepts_iff hwritten] at haccepts
    rw [(Path.isCut_iff.1 hqueries).2]
    exact haccepts

theorem forall₂_partAccepts_iff_eq (h : ∀ part ∈ parts, IsPlainPart part) :
    List.Forall₂ (PartAccepts environment) parts queries ↔ queries = parts := by
  induction parts generalizing queries with
  | nil => simp
  | cons part parts ih =>
      rw [List.forall_mem_cons] at h
      cases queries with
      | nil => simp
      | cons query queries => simp [h.1.accepts_iff, ih h.2]

/-- A pattern of plain parts accepts the paths that are equal to it up to slashes. -/
theorem HasPlainParts.patternAccepts_iff {pattern : String} (h : HasPlainParts pattern) :
    PatternAccepts environment pattern path ↔ Path.EqUpToSlashes pattern path := by
  constructor
  · rintro ⟨parts, queries, hparts, hqueries, haccepts⟩
    rw [forall₂_partAccepts_iff_eq (h parts hparts)] at haccepts
    rw [Path.eqUpToSlashes_iff hparts, ← haccepts]
    exact hqueries
  · intro hsame
    obtain ⟨parts, hparts⟩ := hsame.exists_isCut
    rw [Path.eqUpToSlashes_iff hparts] at hsame
    exact ⟨parts, parts, hparts, hsame, (forall₂_partAccepts_iff_eq (h parts hparts)).2 rfl⟩

/-! ## Roles -/

theorem Policy.putsUnder_iff (h : Policy.parseRules text = .ok rules) {child parent : String} :
    PutsUnder text child parent ↔ ⟨parent, child⟩ ∈ rules.roleRules := by
  rw [Policy.mem_roleRules_iff h]
  simp [PutsUnder, inheritsWord, startsComment]

/-- Inheritance is to be put under a role in one step or more. -/
theorem inherits_iff_transGen {roleRules : List RoleRule} {ancestor : String} :
    Inherits roleRules role ancestor ↔
      Relation.TransGen (fun child parent => ⟨parent, child⟩ ∈ roleRules) role ancestor := by
  constructor
  · intro h
    induction h with
    | parent hrule => exact .single hrule
    | through hrule _ ih => exact .head hrule ih
  · intro h
    induction h using Relation.TransGen.head_induction_on with
    | single hrule => exact .parent hrule
    | head hrule _ ih => exact .through hrule ih

/-- A role and the roles that it inherits from are those that it is put under in some
steps. -/
theorem eq_or_inherits_iff_reflTransGen {roleRules : List RoleRule} {ancestor : String} :
    ancestor = role ∨ Inherits roleRules role ancestor ↔
      Relation.ReflTransGen (fun child parent => ⟨parent, child⟩ ∈ roleRules) role ancestor := by
  rw [Relation.reflTransGen_iff_eq_or_transGen, inherits_iff_transGen]

/-! ## Texts -/

namespace Policy

/-- The rules of a text grant the segments of a path exactly if the text grants the
path. -/
theorem grants_iff_textGrants (h : parseRules text = .ok rules) :
    Grants rules.roleRules rules.permissionRules environment role (Path.segments path) ↔
      TextGrants text environment role path := by
  have hsteps : PutsUnder text = fun child parent => ⟨parent, child⟩ ∈ rules.roleRules := by
    ext child parent
    exact putsUnder_iff h
  have hroles : ∀ grantee, (grantee = role ∨ Inherits rules.roleRules role grantee ↔
      Relation.ReflTransGen (PutsUnder text) role grantee) := by
    intro grantee
    rw [hsteps, eq_or_inherits_iff_reflTransGen]
  constructor
  · rintro ⟨⟨effect, grantee, resource⟩, hrule, rfl, hrole, hcovers⟩
    obtain ⟨line, hline, pattern, hwords, hword, hresource⟩ := (mem_permissionRules_iff h).1 hrule
    exact ⟨grantee, pattern, ⟨line, hline, hwords, hword⟩, (hroles grantee).1 hrole,
      (covers_iff_patternAccepts hresource).1 hcovers⟩
  · rintro ⟨grantee, pattern, ⟨line, hline, hwords, hword⟩, hrole, haccepts⟩
    -- The text is read as a whole, so the pattern of this line is.
    obtain ⟨resource, hresource⟩ := exists_parseResource_eq_ok h .allow hline hwords hword
    refine ⟨⟨.allow, grantee, resource⟩, ?_, rfl, (hroles grantee).2 hrole,
      (covers_iff_patternAccepts hresource).2 haccepts⟩
    exact (mem_permissionRules_iff h).2 ⟨line, hline, pattern, hwords, hword, hresource⟩

theorem parse_eq_ok_iff {checker : Checker} :
    parse text = .ok checker ↔ ∃ rules, parseRules text = .ok rules ∧
      Checker.ofRules rules.roleRules rules.permissionRules = .ok checker := by
  unfold parse
  cases parseRules text with
  | error fault => simp
  | ok rules => simp

/-- The rules that are read from a text have known kinds. -/
theorem isKnown_of_parseRules_eq_ok (h : parseRules text = .ok rules) :
    ∀ rule ∈ rules.permissionRules, ∀ pattern ∈ rule.resource, pattern.kind.IsKnown := by
  intro rule hrule pattern hpattern
  have hcanonical := (isCanonical_of_parseRules_eq_ok h).permissionRules rule hrule
  exact (hcanonical.segments pattern hpattern).isKnown

theorem decides_checkPath {checker : Checker} (h : parse text = .ok checker)
    (environment : Environment) (role path : String) :
    Decides ((checker.withEnvironment environment).checkPath role path)
      (TextGrants text environment role path) := by
  obtain ⟨rules, hread, hbuilt⟩ := parse_eq_ok_iff.1 h
  have hanswer := Checker.decides_check hbuilt (isKnown_of_parseRules_eq_ok hread) environment role
    (Path.segments path)
  exact hanswer.congr (grants_iff_textGrants hread)

/-- The checker of a text answers every path in every environment: yes exactly if the
text grants the path. A pattern of plain parts accepts the paths that are equal to it
up to outer slashes. A part of a path is never taken as a pattern: where a text allows
patterns of plain parts only, a path with a part that is not plain is denied. -/
theorem checkPath_decides_textGrants {checker : Checker} (h : parse text = .ok checker)
    (environment : Environment) (role path : String) :
    Decides ((checker.withEnvironment environment).checkPath role path)
        (TextGrants text environment role path) ∧
      (∀ pattern, HasPlainParts pattern →
        (PatternAccepts environment pattern path ↔ Path.EqUpToSlashes pattern path)) ∧
      ((∀ grantee pattern, LineAllows text grantee pattern → HasPlainParts pattern) →
        (∃ queries, Path.IsCut path queries ∧ ∃ query ∈ queries, ¬IsPlainPart query) →
        (checker.withEnvironment environment).checkPath role path = .ok false) := by
  have hdecides := decides_checkPath h environment role path
  refine ⟨hdecides, fun pattern hplain => hplain.patternAccepts_iff, ?_⟩
  rintro hplain ⟨queries, hqueries, query, hquery, hpattern⟩
  apply hdecides.eq_ok_false
  rintro ⟨grantee, pattern, hallows, -, haccepts⟩
  have hparts := hplain grantee pattern hallows
  rw [hparts.patternAccepts_iff] at haccepts
  obtain ⟨parts, hcut⟩ := haccepts.exists_isCut
  -- The path has the parts of the pattern, which are all plain.
  rw [Path.eqUpToSlashes_iff hcut] at haccepts
  rw [← haccepts.unique hqueries] at hquery
  exact hpattern (hparts parts hcut query hquery)

/-- A role is granted a path with an empty last part through a role that it is put
under; the comment above does not put it under `#`. -/
theorem checkPath_empty_part :
    ∃ checker, parse "# > ann\nboss > ann\nallow boss /docs/[owner]/*" = .ok checker ∧
      (checker.withEnvironment { bindings := Table.empty.put "owner" "eve" }).checkPath "ann"
        "docs/eve//" = .ok true := by
  obtain ⟨checker, h⟩ : ∃ checker,
      parse "# > ann\nboss > ann\nallow boss /docs/[owner]/*" = .ok checker := ⟨_, rfl⟩
  refine ⟨checker, h, ?_⟩
  rw [(checkPath_decides_textGrants h _ "ann" "docs/eve//").1.eq_ok_true_iff]
  have hsteps : PutsUnder "# > ann\nboss > ann\nallow boss /docs/[owner]/*" "ann" "boss" :=
    ⟨"boss > ann", by decide, by decide, by decide⟩
  have hpattern : Path.IsCut "/docs/[owner]/*" ["docs", "[owner]", "*"] :=
    Path.isCut_iff.2 (by decide)
  have hpath : Path.IsCut "docs/eve//" ["docs", "eve", ""] := Path.isCut_iff.2 (by decide)
  have hallows : LineAllows "# > ann\nboss > ann\nallow boss /docs/[owner]/*" "boss"
      "/docs/[owner]/*" := ⟨"allow boss /docs/[owner]/*", by decide, by decide, by decide⟩
  refine ⟨"boss", "/docs/[owner]/*", hallows,
    .single hsteps, _, _, hpattern, hpath, .cons ?_ (.cons ?_ (.cons .star .nil))⟩
  · exact .itself ⟨by decide, by rintro ⟨inside, hinside⟩; simp at hinside,
      by rintro ⟨inside, hinside⟩; simp at hinside⟩
  · show PartAccepts _ ("[" ++ "owner" ++ "]") "eve"
    exact .bound rfl

end Policy

end RoleAccess

import RoleAccess.Proofs.Text.Words
import RoleAccess.Text.Lines

/-!
# The lines of a text

The lines of a text are described without cutting it (`AreLines`), and every text has one list
of them (`areLines_iff`). What ends a line is one character, or a carriage return together with
the line feed after it (`EndsLine`).

A run of characters that do not end a line, followed by a line feed, is the first line of its
text (`lines_append_lineFeed`). So lines that are not empty and have no line end inside are the
lines of the text that joins them with line feeds (`linesOf_intercalate`), and of other lines at
most an empty one is lost (`mem_linesOf_intercalate`). Every line end is blank
(`isBlank_of_isLineEnd`), so words with spaces between them make such a line (`isLine_three`).

A line feed keeps what is before it apart from what is after it: the lines of both follow one
another, with a blank line between them at the most (`exists_linesOf_append_lineFeed`). And the
lines of a text stay the same if its line ends are unified (`linesOf_unifyLineEndsOf`).
-/

namespace RoleAccess.Text

/-- What ends a line in front of the rest of a text: a carriage return with the line feed after
it, or another character that ends a line. -/
inductive EndsLine : (ending rest : List Char) → Prop where
  | pair {rest : List Char} : EndsLine ['\r', '\n'] rest
  | single {c : Char} {rest : List Char} (h : isLineEnd c = true)
      (alone : c = '\r' → rest.head? ≠ some '\n') : EndsLine [c] rest

/-- The lines of a text, in order. The last one needs no end, but then it is not empty. -/
inductive AreLines : (text : List Char) → (cut : List (List Char)) → Prop where
  | nil : AreLines [] []
  | last {line : List Char} (nonempty : line ≠ []) (inside : ∀ c ∈ line, isLineEnd c = false) :
      AreLines line [line]
  | ended {line ending text : List Char} {cut : List (List Char)}
      (inside : ∀ c ∈ line, isLineEnd c = false) (ends : EndsLine ending text)
      (rest : AreLines text cut) : AreLines (line ++ ending ++ text) (line :: cut)

/-- Some strings are the lines of a text. -/
def AreLinesOf (text : String) (cut : List String) : Prop :=
  AreLines text.toList (cut.map String.toList)

variable {c : Char} {line ending rest text : List Char} {cut : List (List Char)}

/-! ## Line ends -/

/-- Every line end is blank. -/
theorem isBlank_of_isLineEnd (h : isLineEnd c = true) : isBlank c = true := by
  simp only [isLineEnd, Bool.or_eq_true, decide_eq_true_eq] at h
  rcases h with ((((((((rfl | rfl) | rfl) | rfl) | rfl) | rfl) | rfl) | rfl) | rfl) | rfl <;>
    decide

theorem ne_return_of_isLineEnd_eq_false (h : isLineEnd c = false) : c ≠ '\r' := by
  rintro rfl
  exact absurd h (by decide)

/-- A line feed ends a line, whatever comes after it. -/
theorem endsLine_lineFeed : EndsLine ['\n'] rest :=
  .single (by decide) fun h => absurd h (by decide)

/-- What is put after a text has a part in its first line end only if that is a carriage return
and all of the text. -/
theorem EndsLine.append_or (h : EndsLine ending text) :
    (∀ more, EndsLine ending (text ++ more)) ∨ ending = ['\r'] ∧ text = [] := by
  cases h with
  | pair => exact .inl fun _ => .pair
  | @single c text hend alone =>
      by_cases hlast : c = '\r' ∧ text = []
      · obtain ⟨rfl, rfl⟩ := hlast
        exact .inr ⟨rfl, rfl⟩
      · refine .inl fun more => .single hend fun hreturn => ?_
        cases text with
        | nil => exact absurd ⟨hreturn, rfl⟩ hlast
        | cons d text => exact alone hreturn

/-! ## Cutting -/

/-- A character that does not end a line belongs to the first line. -/
theorem lines_cons (h : isLineEnd c = false) : lines (c :: rest) = extendFirst c (lines rest) := by
  cases rest with
  | nil => simp [lines, extendFirst, h]
  | cons d rest =>
      -- A carriage return would end the line, whatever follows.
      simp [lines, h, ne_return_of_isLineEnd_eq_false h]

theorem EndsLine.lines_append (h : EndsLine ending rest) :
    lines (ending ++ rest) = [] :: lines rest := by
  cases h with
  | pair => simp [lines]
  | @single c rest hend alone =>
      cases rest with
      | nil => simp [lines, hend]
      | cons d rest =>
          have hpair : ¬(c = '\r' ∧ d = '\n') := by
            rintro ⟨hreturn, rfl⟩
            exact alone hreturn rfl
          simp [lines, hend, hpair]

/-- A run without line ends is the first line of its text if something ends it. -/
theorem lines_append_ending (hline : ∀ c ∈ line, isLineEnd c = false) (h : EndsLine ending rest) :
    lines (line ++ ending ++ rest) = line :: lines rest := by
  induction line with
  | nil => exact h.lines_append
  | cons c line ih =>
      rw [List.forall_mem_cons] at hline
      rw [List.cons_append, List.cons_append, lines_cons hline.1, ih hline.2]
      rfl

/-- A run without line ends that a line feed ends is the first line. -/
theorem lines_append_lineFeed (hline : ∀ c ∈ line, isLineEnd c = false) :
    lines (line ++ '\n' :: rest) = line :: lines rest := by
  have hfeed : EndsLine ['\n'] rest := endsLine_lineFeed
  have h := lines_append_ending hline hfeed
  rwa [List.append_assoc] at h

/-- A run without line ends is the only line of its text. -/
theorem lines_eq_singleton (hne : line ≠ []) (hline : ∀ c ∈ line, isLineEnd c = false) :
    lines line = [line] := by
  induction line with
  | nil => exact absurd rfl hne
  | cons c line ih =>
      rw [List.forall_mem_cons] at hline
      rw [lines_cons hline.1]
      cases line with
      | nil => rfl
      | cons d line => rw [ih (by simp) hline.2]; rfl

theorem AreLines.lines_eq (h : AreLines text cut) : lines text = cut := by
  induction h with
  | nil => exact lines_nil
  | last nonempty inside => exact lines_eq_singleton nonempty inside
  | ended inside ends _ ih => rw [lines_append_ending inside ends, ih]

/-- A character that does not end a line makes the first line longer, or is one. -/
theorem AreLines.cons (hc : isLineEnd c = false) (h : AreLines text cut) :
    AreLines (c :: text) (extendFirst c cut) := by
  cases h with
  | nil => exact .last (by simp) (by simpa using hc)
  | last nonempty inside => exact .last (by simp) (List.forall_mem_cons.2 ⟨hc, inside⟩)
  | ended inside ends rest => exact .ended (List.forall_mem_cons.2 ⟨hc, inside⟩) ends rest

theorem areLines_lines (text : List Char) : AreLines text (lines text) := by
  have hempty : ∀ c ∈ ([] : List Char), isLineEnd c = false := by simp
  -- The cases of the cutting, in its order: no text, one character, two or more.
  fun_induction lines text with
  | case1 => exact .nil
  | case2 c hend => exact .ended hempty (.single hend (by simp)) .nil
  | case3 c hinside => exact .last (by simp) (by simpa using hinside)
  | case4 c d rest hpair ih =>
      obtain ⟨rfl, rfl⟩ : c = '\r' ∧ d = '\n' := by simpa using hpair
      exact .ended hempty .pair ih
  | case5 c d rest hpair hend ih =>
      refine .ended hempty (.single hend fun hreturn hfeed => hpair ?_) ih
      simpa [hreturn] using hfeed
  | case6 c d rest hpair hinside ih => exact ih.cons (by simpa using hinside)

/-- Every text has one list of lines. -/
theorem areLines_iff : AreLines text cut ↔ lines text = cut := by
  constructor
  · exact AreLines.lines_eq
  · rintro rfl
    exact areLines_lines text

/-! ## Line feeds between texts -/

/-- A line feed after a text ends its last line or is a blank line of its own, and the lines of
what comes after it follow. -/
theorem AreLines.exists_append_lineFeed (h : AreLines text cut) :
    ∃ blank, (∀ line ∈ blank, line = []) ∧
      ∀ more, lines (text ++ '\n' :: more) = cut ++ blank ++ lines more := by
  induction h with
  | nil => exact ⟨[[]], by simp, fun more => lines_append_lineFeed (by simp)⟩
  | last _ inside => exact ⟨[], by simp, fun more => lines_append_lineFeed inside⟩
  | @ended line ending text cut inside ends rest ih =>
      rcases ends.append_or with hends | ⟨rfl, rfl⟩
      · obtain ⟨blank, hblank, hlines⟩ := ih
        refine ⟨blank, hblank, fun more => ?_⟩
        rw [List.append_assoc, lines_append_ending inside (hends _), hlines]
        rfl
      · -- The line feed and the carriage return before it are one line end.
        refine ⟨[], by simp, fun more => ?_⟩
        rw [← rest.lines_eq, lines_nil]
        have hpair : EndsLine ['\r', '\n'] more := .pair
        simpa using lines_append_ending inside hpair

/-! ## Unified line ends -/

theorem unifyLineEnds_cons (h : c ≠ '\r') :
    unifyLineEnds (c :: rest) = c :: unifyLineEnds rest := by
  cases rest <;> simp [unifyLineEnds, h]

theorem unifyLineEnds_append (hline : ∀ c ∈ line, isLineEnd c = false) :
    unifyLineEnds (line ++ rest) = line ++ unifyLineEnds rest := by
  induction line with
  | nil => rfl
  | cons c line ih =>
      rw [List.forall_mem_cons] at hline
      rw [List.cons_append, unifyLineEnds_cons (ne_return_of_isLineEnd_eq_false hline.1),
        ih hline.2]
      rfl

/-- In the place of a line end there is one again. -/
theorem EndsLine.exists_unifyLineEnds (h : EndsLine ending rest) :
    ∃ unified, unifyLineEnds (ending ++ rest) = unified ++ unifyLineEnds rest ∧
      EndsLine unified (unifyLineEnds rest) := by
  cases h with
  | pair => exact ⟨['\n'], by simp [unifyLineEnds], endsLine_lineFeed⟩
  | @single c rest hend alone =>
      by_cases hreturn : c = '\r'
      · subst hreturn
        refine ⟨['\n'], ?_, endsLine_lineFeed⟩
        cases rest with
        | nil => simp [unifyLineEnds]
        | cons d rest =>
            have hfeed : d ≠ '\n' := by simpa using alone rfl
            simp [unifyLineEnds, hfeed]
      · exact ⟨[c], unifyLineEnds_cons hreturn, .single hend fun h => absurd h hreturn⟩

theorem AreLines.unifyLineEnds (h : AreLines text cut) : AreLines (unifyLineEnds text) cut := by
  induction h with
  | nil => exact .nil
  | @last line nonempty inside =>
      have hsame : Text.unifyLineEnds (line ++ []) = line ++ Text.unifyLineEnds [] :=
        unifyLineEnds_append inside
      rw [unifyLineEnds_nil, List.append_nil] at hsame
      rw [hsame]
      exact .last nonempty inside
  | ended inside ends _ ih =>
      obtain ⟨unified, hunified, hends⟩ := ends.exists_unifyLineEnds
      rw [List.append_assoc, unifyLineEnds_append inside, hunified, ← List.append_assoc]
      exact .ended inside hends ih

/-! ## Joined lines -/

/-- Reading back lines joined by line feeds. -/
theorem lines_intercalate {texts : List (List Char)}
    (h : ∀ line ∈ texts, line ≠ [] ∧ ∀ c ∈ line, isLineEnd c = false) :
    lines (['\n'].intercalate texts) = texts := by
  induction texts with
  | nil => rfl
  | cons line texts ih =>
      rw [List.forall_mem_cons] at h
      cases texts with
      | nil => rw [List.intercalate_singleton, lines_eq_singleton h.1.1 h.1.2]
      | cons next texts =>
          rw [List.intercalate_cons_cons, List.append_assoc, List.singleton_append,
            lines_append_lineFeed h.1.2, ih h.2]

/-- Apart from empty ones, the lines of a text are those that it joins. A last line that is
empty is lost, since the line feed before it ends the text. -/
theorem mem_lines_intercalate {texts : List (List Char)} (hne : line ≠ [])
    (h : ∀ text ∈ texts, ∀ c ∈ text, isLineEnd c = false) :
    line ∈ lines (['\n'].intercalate texts) ↔ line ∈ texts := by
  induction texts with
  | nil => rfl
  | cons text texts ih =>
      rw [List.forall_mem_cons] at h
      cases texts with
      | nil =>
          rw [List.intercalate_singleton]
          by_cases hempty : text = []
          · subst hempty
            simp [lines, hne]
          · rw [lines_eq_singleton hempty h.1]
      | cons next texts =>
          rw [List.intercalate_cons_cons, List.append_assoc, List.singleton_append,
            lines_append_lineFeed h.1, List.mem_cons, ih h.2, ← List.mem_cons]

theorem mem_linesOf_intercalate {text : String} {texts : List String} (hne : text ≠ "")
    (h : ∀ line ∈ texts, ∀ c ∈ line.toList, isLineEnd c = false) :
    text ∈ linesOf ("\n".intercalate texts) ↔ text ∈ texts := by
  have hmem : ∀ lines : List (List Char), text ∈ lines.map String.ofList ↔ text.toList ∈ lines := by
    intro lines
    rw [List.mem_map]
    constructor
    · rintro ⟨line, hline, rfl⟩
      rwa [String.toList_ofList]
    · exact fun hline => ⟨text.toList, hline, String.ofList_toList⟩
  rw [linesOf, hmem, String.toList_intercalate, show "\n".toList = ['\n'] from rfl,
    mem_lines_intercalate (by simpa using hne) (by simpa using h)]
  simp [String.toList_inj]

theorem linesOf_intercalate {texts : List String}
    (h : ∀ line ∈ texts, line ≠ "" ∧ ∀ c ∈ line.toList, isLineEnd c = false) :
    linesOf ("\n".intercalate texts) = texts := by
  have hlines : lines (['\n'].intercalate (texts.map String.toList)) = texts.map String.toList := by
    apply lines_intercalate
    simpa using h
  rw [linesOf, String.toList_intercalate, show "\n".toList = ['\n'] from rfl, hlines]
  simp

/-! ## Lines as strings -/

/-- The lines of a text are those that it is cut into. -/
theorem areLinesOf_iff {text : String} {cut : List String} :
    AreLinesOf text cut ↔ cut = linesOf text := by
  rw [AreLinesOf, areLines_iff, linesOf]
  constructor
  · intro h
    simp [h]
  · rintro rfl
    simp

/-- A line feed after a text ends its last line or is a blank line of its own. The lines of what
comes after it are those that it has alone. -/
theorem exists_linesOf_append_lineFeed (text : String) :
    (∃ blank, (∀ line ∈ blank, line = "") ∧ linesOf (text ++ "\n") = linesOf text ++ blank) ∧
      ∀ more, linesOf (text ++ "\n" ++ more) = linesOf (text ++ "\n") ++ linesOf more := by
  obtain ⟨blank, hblank, hlines⟩ := (areLines_lines text.toList).exists_append_lineFeed
  have hcut : ∀ more, linesOf (text ++ "\n" ++ more) =
      linesOf text ++ blank.map String.ofList ++ linesOf more := by
    intro more
    have htext : (text ++ "\n" ++ more).toList = text.toList ++ '\n' :: more.toList := by simp
    rw [linesOf, htext, hlines, List.map_append, List.map_append, linesOf, linesOf]
  have hfeed : linesOf (text ++ "\n") = linesOf text ++ blank.map String.ofList := by
    have hempty := hcut ""
    rwa [String.append_empty, show linesOf "" = [] from rfl, List.append_nil] at hempty
  constructor
  · refine ⟨blank.map String.ofList, ?_, hfeed⟩
    intro line hline
    obtain ⟨chars, hchars, rfl⟩ := List.mem_map.1 hline
    rw [hblank chars hchars]
  · intro more
    rw [hcut, hfeed]

/-- A text that is empty or ends in a line feed is kept apart from what comes after it. -/
theorem linesOf_append {text : String} (hends : text = "" ∨ ∃ front, text = front ++ "\n")
    (more : String) : linesOf (text ++ more) = linesOf text ++ linesOf more := by
  rcases hends with rfl | ⟨front, rfl⟩
  · rw [String.empty_append]
    rfl
  · exact (exists_linesOf_append_lineFeed front).2 more

theorem linesOf_eq_singleton {text : String} (hne : text ≠ "")
    (hinside : ∀ c ∈ text.toList, isLineEnd c = false) : linesOf text = [text] := by
  rw [linesOf, lines_eq_singleton (by simpa using hne) hinside]
  simp

/-- Unifying its line ends changes no line of a text. -/
theorem linesOf_unifyLineEndsOf (text : String) :
    linesOf (unifyLineEndsOf text) = linesOf text := by
  rw [linesOf, linesOf, unifyLineEndsOf, String.toList_ofList,
    (areLines_lines text.toList).unifyLineEnds.lines_eq]

/-- Three words with one space between them are a line without a line end. -/
theorem isLine_three {first second third : String}
    (hfirst : first ≠ "" ∧ ∀ c ∈ first.toList, isBlank c = false)
    (hsecond : ∀ c ∈ second.toList, isBlank c = false)
    (hthird : ∀ c ∈ third.toList, isBlank c = false) :
    first ++ " " ++ second ++ " " ++ third ≠ "" ∧
      ∀ c ∈ (first ++ " " ++ second ++ " " ++ third).toList, isLineEnd c = false := by
  have inside {c : Char} (h : isBlank c = false) : isLineEnd c = false := by
    cases hend : isLineEnd c with
    | false => rfl
    | true => rw [isBlank_of_isLineEnd hend] at h; cases h
  have hspace : isLineEnd ' ' = false := by decide
  refine ⟨by simp [hfirst.1], ?_⟩
  intro c hc
  rw [toList_three, List.mem_append, List.mem_cons, List.mem_append, List.mem_cons] at hc
  rcases hc with hc | rfl | hc | rfl | hc
  · exact inside (hfirst.2 c hc)
  · exact hspace
  · exact inside (hsecond c hc)
  · exact hspace
  · exact inside (hthird c hc)

end RoleAccess.Text

import RoleAccess.Text.Blank

/-!
# The words of a line

A list that is cut at separators falls into pieces without separators
(`mem_piece`), so the words of a line are not empty and hold no blank
(`mem_words`). Conversely a run of characters that are not blank, followed by a
blank, is the first word of its line (`words_append_blank`), and three words with
a space between them are the words of the line they make (`wordsOf_three`).

So the words of a line are its maximal runs of characters that are not blank. The
runs are described without cutting the line (`AreRuns`), and every line has one
list of them, which is that of its words (`areWords_iff`).
-/

namespace RoleAccess.Text

/-- The maximal runs of characters that are not blank, in order. A run ends at a blank
or at the end of the line. -/
inductive AreRuns : (line : List Char) → (runs : List (List Char)) → Prop where
  | nil : AreRuns [] []
  | blank {c : Char} {line : List Char} {runs : List (List Char)} (h : isBlank c = true)
      (rest : AreRuns line runs) : AreRuns (c :: line) runs
  | run {run line : List Char} {runs : List (List Char)} (nonempty : run ≠ [])
      (filled : ∀ c ∈ run, isBlank c = false) (ends : ∀ c ∈ line.head?, isBlank c = true)
      (rest : AreRuns line runs) : AreRuns (run ++ line) (run :: runs)

/-- Some strings are the maximal runs of a line. -/
def AreWords (line : String) (words : List String) : Prop :=
  AreRuns line.toList (words.map String.toList)

variable {c : Char} {line word rest : List Char} {runs : List (List Char)}

/-- A piece of a list holds elements of the list, none of which separates. -/
theorem mem_piece {α : Type} {p : α → Bool} {whole piece : List α} {a : α}
    (hpiece : piece ∈ whole.splitOnP p) (ha : a ∈ piece) : a ∈ whole ∧ p a = false := by
  induction whole generalizing piece with
  | nil =>
      rw [List.splitOnP_nil, List.mem_singleton] at hpiece
      subst hpiece
      simp at ha
  | cons first whole ih =>
      rw [List.splitOnP_cons_eq_if_modifyHead] at hpiece
      cases hfirst : p first with
      | true =>
          simp only [hfirst, if_true, List.mem_cons] at hpiece
          rcases hpiece with rfl | hpiece
          · simp at ha
          · exact ⟨List.mem_cons_of_mem _ (ih hpiece ha).1, (ih hpiece ha).2⟩
      | false =>
          simp only [hfirst, Bool.false_eq_true, if_false] at hpiece
          -- The first element joins the first piece of the rest.
          cases hpieces : whole.splitOnP p with
          | nil => exact absurd hpieces (List.splitOnP_ne_nil p whole)
          | cons head pieces =>
              rw [hpieces] at hpiece ih
              simp only [List.modifyHead_cons, List.mem_cons] at hpiece
              rcases hpiece with rfl | hpiece
              · rcases List.mem_cons.1 ha with rfl | ha
                · exact ⟨List.mem_cons_self, hfirst⟩
                · have inside := ih List.mem_cons_self ha
                  exact ⟨List.mem_cons_of_mem _ inside.1, inside.2⟩
              · have inside := ih (List.mem_cons_of_mem _ hpiece) ha
                exact ⟨List.mem_cons_of_mem _ inside.1, inside.2⟩

/-- A word is not empty and holds no blank. -/
theorem mem_words (h : word ∈ words line) : word ≠ [] ∧ ∀ c ∈ word, isBlank c = false := by
  simp only [words, List.mem_filter, Bool.not_eq_eq_eq_not, Bool.not_true,
    List.isEmpty_eq_false_iff] at h
  exact ⟨h.2, fun c hc => (mem_piece h.1 hc).2⟩

/-- A run without blanks is the only word of its line. -/
theorem words_eq_singleton (hne : word ≠ []) (hword : ∀ c ∈ word, isBlank c = false) :
    words word = [word] := by
  rw [words, List.splitOnP_eq_singleton hword]
  simp [hne]

/-- A run without blanks that a blank ends is the first word of its line. -/
theorem words_append_blank (hne : word ≠ []) (hword : ∀ c ∈ word, isBlank c = false)
    (hblank : isBlank c = true) : words (word ++ c :: rest) = word :: words rest := by
  rw [words, List.splitOnP_append_cons_of_forall_mem hword c hblank]
  simp [words, hne]

theorem words_cons_blank (hblank : isBlank c = true) : words (c :: rest) = words rest := by
  simp [words, List.splitOnP_cons_eq_if_modifyHead, hblank]

/-! ## Maximal runs -/

theorem AreRuns.words_eq (h : AreRuns line runs) : words line = runs := by
  induction h with
  | nil => exact words_nil
  | blank hblank _ ih => rw [words_cons_blank hblank, ih]
  | @run run line runs nonempty filled ends _ ih =>
      cases line with
      | nil =>
          rw [words_nil] at ih
          rw [List.append_nil, words_eq_singleton nonempty filled, ← ih]
      | cons c line =>
          -- The blank that ends the run is in front of the other runs.
          have hblank := ends c rfl
          rw [words_cons_blank hblank] at ih
          rw [words_append_blank nonempty filled hblank, ih]

theorem exists_areRuns (line : List Char) : ∃ runs, AreRuns line runs := by
  induction line with
  | nil => exact ⟨[], .nil⟩
  | cons c line ih =>
      obtain ⟨runs, h⟩ := ih
      cases hblank : isBlank c with
      | true => exact ⟨runs, .blank hblank h⟩
      | false =>
          have hsingle : ∀ d ∈ [c], isBlank d = false := by simpa using hblank
          -- The character makes a run of its own unless a run begins after it.
          cases h with
          | nil => exact ⟨[[c]], .run (by simp) hsingle (by simp) .nil⟩
          | @blank d line _ hd rest =>
              exact ⟨[c] :: runs, .run (by simp) hsingle (by simpa using hd) (.blank hd rest)⟩
          | @run run line runs nonempty filled ends rest =>
              exact ⟨(c :: run) :: runs,
                .run (by simp) (List.forall_mem_cons.2 ⟨hblank, filled⟩) ends rest⟩

theorem areRuns_iff : AreRuns line runs ↔ words line = runs := by
  constructor
  · exact AreRuns.words_eq
  · rintro rfl
    obtain ⟨runs, h⟩ := exists_areRuns line
    exact h.words_eq ▸ h

/-- The first word of a line that begins with no blank begins with the same character. -/
theorem exists_words_cons (hc : isBlank c = false) :
    ∃ run runs, words (c :: rest) = (c :: run) :: runs := by
  obtain ⟨runs, h⟩ := exists_areRuns (c :: rest)
  rw [h.words_eq]
  generalize hline : c :: rest = line at h
  cases h with
  | nil => cases hline
  | blank hblank =>
      cases hline
      rw [hc] at hblank
      cases hblank
  | @run run line runs nonempty =>
      cases run with
      | nil => exact absurd rfl nonempty
      | cons d run =>
          cases hline
          exact ⟨run, runs, rfl⟩

/-! ## Words as strings -/

/-- The maximal runs of a line are its words. -/
theorem areWords_iff {line : String} {words : List String} :
    AreWords line words ↔ words = wordsOf line := by
  rw [AreWords, areRuns_iff, wordsOf]
  constructor
  · intro h
    simp [h]
  · rintro rfl
    simp

/-- A word of a line is not empty and holds no blank. -/
theorem mem_wordsOf {line word : String} (h : word ∈ wordsOf line) :
    word ≠ "" ∧ ∀ c ∈ word.toList, isBlank c = false := by
  obtain ⟨chars, hchars, rfl⟩ := List.mem_map.1 h
  have inside := mem_words hchars
  rw [String.toList_ofList]
  exact ⟨fun he => inside.1 (by simpa using congrArg String.toList he), inside.2⟩

theorem toList_three (first second third : String) :
    (first ++ " " ++ second ++ " " ++ third).toList =
      first.toList ++ ' ' :: (second.toList ++ ' ' :: third.toList) := by
  simp

/-- The words of a line of three words with one space between them. -/
theorem wordsOf_three {first second third : String}
    (hfirst : first ≠ "" ∧ ∀ c ∈ first.toList, isBlank c = false)
    (hsecond : second ≠ "" ∧ ∀ c ∈ second.toList, isBlank c = false)
    (hthird : third ≠ "" ∧ ∀ c ∈ third.toList, isBlank c = false) :
    wordsOf (first ++ " " ++ second ++ " " ++ third) = [first, second, third] := by
  have nonempty {word : String} (h : word ≠ "") : word.toList ≠ [] := by simpa using h
  rw [wordsOf, toList_three, words_append_blank (nonempty hfirst.1) hfirst.2 (by decide),
    words_append_blank (nonempty hsecond.1) hsecond.2 (by decide),
    words_eq_singleton (nonempty hthird.1) hthird.2]
  simp

end RoleAccess.Text

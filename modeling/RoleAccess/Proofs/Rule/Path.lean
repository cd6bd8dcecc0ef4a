import RoleAccess.Proofs.Text.Words
import RoleAccess.Rule.Path

/-!
# Segments of joined paths

Parts without slashes that are joined by slashes are the segments of the path they make between
two slashes (`segments_between`), except for a single empty part, of which nothing is left. With
a slash in front only they are its segments exactly if the last one is not empty
(`segments_intercalate_iff`). Conversely a segment of a path holds characters of the path other
than slashes (`mem_segments`).

What is left of a path without its outer slashes is its parts joined again
(`intercalate_split`), so paths have the same parts exactly if the same is left of them
(`split_eq_split_iff`).
-/

namespace RoleAccess.Path

/-- The last character of joined parts is the last one of the last part. -/
theorem getLast?_intercalate {parts : List (List Char)} {last : List Char}
    (hlast : parts.getLast? = some last) (hne : last ≠ []) :
    (['/'].intercalate parts).getLast? = last.getLast? := by
  induction parts with
  | nil => simp at hlast
  | cons part parts ih =>
      cases parts with
      | nil =>
          simp only [List.getLast?_singleton, Option.some.injEq] at hlast
          rw [List.intercalate_singleton, hlast]
      | cons next parts =>
          rw [List.getLast?_cons_cons] at hlast
          obtain ⟨c, hc⟩ := Option.isSome_iff_exists.1 (List.getLast?_isSome.2 hne)
          rw [List.intercalate_cons_cons, List.getLast?_append, ih hlast, hc]
          rfl

/-- A character of joined parts is a slash or a character of a part. -/
theorem mem_intercalate {parts : List (List Char)} {c : Char}
    (h : c ∈ ['/'].intercalate parts) : c = '/' ∨ ∃ part ∈ parts, c ∈ part := by
  induction parts with
  | nil => cases h
  | cons part parts ih =>
      cases parts with
      | nil =>
          rw [List.intercalate_singleton] at h
          exact .inr ⟨part, List.mem_cons_self, h⟩
      | cons next parts =>
          rw [List.intercalate_cons_cons, List.append_assoc, List.singleton_append,
            List.mem_append, List.mem_cons] at h
          rcases h with h | h | h
          · exact .inr ⟨part, List.mem_cons_self, h⟩
          · exact .inl h
          · rcases ih h with hslash | ⟨other, hother, hc⟩
            · exact .inl hslash
            · exact .inr ⟨other, List.mem_cons_of_mem _ hother, hc⟩

/-- An empty part at the end adds a slash to parts before it. -/
theorem intercalate_concat_nil {parts : List (List Char)} (hsome : parts ≠ []) :
    ['/'].intercalate (parts ++ [[]]) = ['/'].intercalate parts ++ ['/'] := by
  induction parts with
  | nil => exact absurd rfl hsome
  | cons part parts ih =>
      cases parts with
      | nil => simp [List.intercalate_cons_cons]
      | cons next parts =>
          have hrest := ih (by simp)
          rw [List.cons_append] at hrest
          rw [List.cons_append, List.cons_append, List.intercalate_cons_cons, hrest,
            List.intercalate_cons_cons, List.append_assoc _ _ ['/']]

/-- Joined parts end in a slash exactly if the last one is empty, unless it is the only one. -/
theorem getLast?_intercalate_eq_slash_iff {parts : List (List Char)}
    (hparts : ∀ part ∈ parts, '/' ∉ part) (hone : parts ≠ [[]]) :
    (['/'].intercalate parts).getLast? = some '/' ↔ parts.getLast? = some [] := by
  rcases List.eq_nil_or_concat parts with rfl | ⟨front, last, rfl⟩
  · simp
  · rw [List.concat_eq_append] at hparts hone ⊢
    rw [List.getLast?_concat, Option.some_inj]
    by_cases hempty : last = []
    · subst hempty
      have hsome : front ≠ [] := by
        rintro rfl
        exact hone rfl
      simp [intercalate_concat_nil hsome]
    · have hslash : '/' ∉ last := hparts last (by simp)
      rw [getLast?_intercalate List.getLast?_concat hempty]
      exact iff_of_false (fun h => hslash (List.mem_of_getLast? h)) hempty

/-! ## Cutting -/

theorem split_of_trimSlashes_ne_nil {chars : List Char} (h : trimSlashes chars ≠ []) :
    split chars = (trimSlashes chars).splitOn '/' := by
  unfold split
  split
  · next hnil => exact absurd hnil h
  · rfl

/-- Joining the parts of a path gives what is left of it. -/
theorem intercalate_split (path : List Char) :
    ['/'].intercalate (split path) = trimSlashes path := by
  by_cases h : trimSlashes path = []
  · rw [(split_eq_nil_iff path).2 h, h]
    rfl
  · rw [split_of_trimSlashes_ne_nil h, List.intercalate_splitOn]

/-- Paths are cut alike exactly if the same is left of them. -/
theorem split_eq_split_iff {path other : List Char} :
    split path = split other ↔ trimSlashes path = trimSlashes other := by
  constructor
  · intro h
    rw [← intercalate_split path, h, intercalate_split]
  · intro h
    unfold split
    rw [h]

/-- A path of which joined parts are left is cut into them. A single empty part would be no
part. -/
theorem split_of_trimSlashes_eq {path : List Char} {parts : List (List Char)}
    (hparts : ∀ part ∈ parts, '/' ∉ part) (hone : parts ≠ [[]])
    (htrim : trimSlashes path = ['/'].intercalate parts) : split path = parts := by
  by_cases hsome : parts = []
  · subst hsome
    exact (split_eq_nil_iff path).2 htrim
  · have hcut := List.splitOn_intercalate '/' hparts hsome
    have hfilled : trimSlashes path ≠ [] := by
      intro hnil
      rw [← htrim, hnil, List.splitOn_nil] at hcut
      exact hone hcut.symm
    rw [split_of_trimSlashes_ne_nil hfilled, htrim, hcut]

/-- Two outer slashes are all that is taken off a path. -/
theorem trimSlashes_between (middle : List Char) :
    trimSlashes ('/' :: (middle ++ ['/'])) = middle := by
  simp [trimSlashes, dropLeadingSlash, dropTrailingSlash]

/-- Parts between two slashes are cut from one another. -/
theorem split_between {parts : List (List Char)} (hparts : ∀ part ∈ parts, '/' ∉ part)
    (hone : parts ≠ [[]]) : split ('/' :: (['/'].intercalate parts ++ ['/'])) = parts :=
  split_of_trimSlashes_eq hparts hone (trimSlashes_between _)

/-- Without the slash at the end, parts are given back unless the last one is empty: then the
slash before it is taken for the one at the end. -/
theorem split_intercalate_iff {parts : List (List Char)} (hparts : ∀ part ∈ parts, '/' ∉ part) :
    split ('/' :: ['/'].intercalate parts) = parts ↔ parts.getLast? ≠ some [] := by
  by_cases hone : parts = [[]]
  · subst hone
    exact iff_of_false (by decide) (by simp)
  · have htrim : trimSlashes ('/' :: ['/'].intercalate parts) =
        dropTrailingSlash (['/'].intercalate parts) := rfl
    have hkept (chars : List Char) : dropTrailingSlash chars = chars ↔
        chars.getLast? ≠ some '/' := by
      unfold dropTrailingSlash
      split
      · next hslash =>
          refine iff_of_false (fun h => ?_) (fun h => h hslash)
          have hlength := congrArg List.length h
          have hne : chars ≠ [] := by
            rintro rfl
            cases hslash
          have hpos := List.length_pos_iff.2 hne
          rw [List.length_dropLast] at hlength
          omega
      · next hslash => exact iff_of_true rfl hslash
    -- The parts are those of the path with both slashes, of which all of them is left.
    calc split ('/' :: ['/'].intercalate parts) = parts
      _ ↔ split ('/' :: ['/'].intercalate parts) =
          split ('/' :: (['/'].intercalate parts ++ ['/'])) := by rw [split_between hparts hone]
      _ ↔ dropTrailingSlash (['/'].intercalate parts) = ['/'].intercalate parts := by
          rw [split_eq_split_iff, htrim, trimSlashes_between]
      _ ↔ parts.getLast? ≠ some [] := by
          rw [hkept, Ne, getLast?_intercalate_eq_slash_iff hparts hone]

/-! ## Segments -/

theorem toList_intercalate (parts : List String) :
    ("/" ++ "/".intercalate parts).toList =
      '/' :: ['/'].intercalate (parts.map String.toList) := by
  rw [String.toList_append, String.toList_intercalate]
  rfl

theorem segments_eq_iff {path : String} {parts : List String} :
    segments path = parts ↔ split path.toList = parts.map String.toList := by
  rw [segments]
  constructor
  · rintro rfl
    simp
  · intro h
    simp [h]

/-- Segments between two slashes are those of the path that they make. -/
theorem segments_between {parts : List String} (hparts : ∀ part ∈ parts, '/' ∉ part.toList)
    (hone : parts ≠ [""]) : segments ("/" ++ "/".intercalate parts ++ "/") = parts := by
  have hchars : ∀ part ∈ parts.map String.toList, '/' ∉ part := by simpa using hparts
  have honeChars : parts.map String.toList ≠ [[]] := by
    intro h
    obtain ⟨part, rfl, hpart⟩ := List.map_eq_singleton_iff.1 h
    exact hone (by rw [String.toList_eq_nil_iff.1 hpart])
  rw [segments_eq_iff, String.toList_append, toList_intercalate]
  exact split_between hchars honeChars

/-- Segments after a slash are those of the path that they make unless the last one is empty. -/
theorem segments_intercalate_iff {parts : List String}
    (hparts : ∀ part ∈ parts, '/' ∉ part.toList) :
    segments ("/" ++ "/".intercalate parts) = parts ↔ parts.getLast? ≠ some "" := by
  have hchars : ∀ part ∈ parts.map String.toList, '/' ∉ part := by simpa using hparts
  rw [segments_eq_iff, toList_intercalate, split_intercalate_iff hchars, List.getLast?_map]
  cases parts.getLast? <;> simp

/-- The segments of a path that joins them. -/
theorem segments_intercalate {parts : List String}
    (hparts : ∀ part ∈ parts, part ≠ "" ∧ '/' ∉ part.toList) :
    segments ("/" ++ "/".intercalate parts) = parts := by
  refine (segments_intercalate_iff fun part hpart => (hparts part hpart).2).2 fun hlast => ?_
  exact (hparts "" (List.mem_of_getLast? hlast)).1 rfl

theorem mem_of_mem_trimSlashes {path : List Char} {c : Char} (h : c ∈ trimSlashes path) :
    c ∈ path := by
  have hlead : c ∈ dropLeadingSlash path := by
    unfold trimSlashes dropTrailingSlash at h
    split at h
    · exact List.dropLast_subset _ h
    · exact h
  unfold dropLeadingSlash at hlead
  split at hlead
  · exact List.mem_cons_of_mem _ hlead
  · exact hlead

/-- A segment holds characters of its path other than slashes. -/
theorem mem_segments {path segment : String} {c : Char} (h : segment ∈ segments path)
    (hc : c ∈ segment.toList) : c ∈ path.toList ∧ c ≠ '/' := by
  obtain ⟨part, hpart, rfl⟩ := List.mem_map.1 h
  rw [String.toList_ofList] at hc
  unfold split at hpart
  split at hpart
  · simp at hpart
  · next trimmed htrim =>
      rw [List.splitOn_eq_splitOnP] at hpart
      have inside := Text.mem_piece hpart hc
      exact ⟨mem_of_mem_trimSlashes inside.1, by simpa using inside.2⟩

end RoleAccess.Path

import Mathlib.Data.List.Basic
import RoleAccess.Proofs.Rule.Path

/-!
# The parts of a path

What it means to cut a path, said without the functions that do it. At most one
slash is taken off the front of a path and then at most one off its end
(`IsTrimmed`), and the parts of what is left hold no slash and make it up again
when slashes are put between them (`IsCut`). A path of which nothing is left has
no parts.

A path has at most one list of parts, and it is the list of its segments
(`isCut_iff`). Two paths have the same parts exactly if the same is left of them
(`eqUpToSlashes_iff`).

A path of filled parts is the parts with slashes between them, and perhaps one more
slash in front and one more at the end (`isCut_iff_isJoined`). A path without parts
is made of slashes, two at the most (`segments_eq_nil_iff`).
-/

namespace RoleAccess.Path

/-- `rest` is `path` without its first character, if that is a slash. -/
inductive DropsLeading : (path rest : List Char) → Prop where
  | slash {rest : List Char} : DropsLeading ('/' :: rest) rest
  | bare {path : List Char} (h : path.head? ≠ some '/') : DropsLeading path path

/-- `rest` is `path` without its last character, if that is a slash. -/
inductive DropsTrailing : (path rest : List Char) → Prop where
  | slash {rest : List Char} : DropsTrailing (rest ++ ['/']) rest
  | bare {path : List Char} (h : path.getLast? ≠ some '/') : DropsTrailing path path

/-- `trimmed` is what is left of a path without one slash in front and then without
one at its end. -/
def IsTrimmed (path trimmed : String) : Prop :=
  ∃ middle, DropsLeading path.toList middle ∧ DropsTrailing middle trimmed.toList

/-- A path is cut into parts: something is left of it, and that is the parts with
slashes between them. -/
def IsCut (path : String) (parts : List String) : Prop :=
  ∃ trimmed, IsTrimmed path trimmed ∧ trimmed ≠ "" ∧ trimmed = "/".intercalate parts ∧
    ∀ part ∈ parts, '/' ∉ part.toList

/-- Two paths differ in their outer slashes only, at most one on each side, and
something is left of them. -/
def EqUpToSlashes (first second : String) : Prop :=
  ∃ trimmed, trimmed ≠ "" ∧ IsTrimmed first trimmed ∧ IsTrimmed second trimmed

/-- A path is parts with slashes between them, with at most one slash more in front and at
most one more at the end. -/
def IsJoined (path : String) (parts : List String) : Prop :=
  ∃ front ∈ ["", "/"], ∃ back ∈ ["", "/"], path = front ++ "/".intercalate parts ++ back

variable {path other trimmed : String} {parts : List String}

/-! ## Trimming -/

theorem dropsLeading_iff {chars rest : List Char} :
    DropsLeading chars rest ↔ dropLeadingSlash chars = rest := by
  constructor
  · intro h
    cases h with
    | slash => rfl
    | bare hhead =>
        unfold dropLeadingSlash
        split
        · next tail => exact absurd rfl hhead
        · rfl
  · rintro rfl
    unfold dropLeadingSlash
    split
    · exact .slash
    · next hbare =>
        refine .bare fun hhead => ?_
        obtain ⟨tail, htail⟩ := List.head?_eq_some_iff.1 hhead
        exact hbare tail htail

theorem dropsTrailing_iff {chars rest : List Char} :
    DropsTrailing chars rest ↔ dropTrailingSlash chars = rest := by
  constructor
  · intro h
    cases h with
    | slash => simp [dropTrailingSlash]
    | bare hlast => exact if_neg hlast
  · rintro rfl
    unfold dropTrailingSlash
    split
    · next hlast =>
        -- The characters are those without the last one, and the slash after them.
        have hsplit := List.dropLast_append_getLast? '/' hlast
        have hdrops : DropsTrailing (chars.dropLast ++ ['/']) chars.dropLast := .slash
        rwa [hsplit] at hdrops
    · next hlast => exact .bare hlast

theorem isTrimmed_iff : IsTrimmed path trimmed ↔ trimSlashes path.toList = trimmed.toList := by
  simp only [IsTrimmed, dropsLeading_iff, dropsTrailing_iff, exists_eq_left', trimSlashes]

theorem IsTrimmed.unique (h : IsTrimmed path trimmed) (h' : IsTrimmed path other) :
    trimmed = other := by
  rw [isTrimmed_iff] at h h'
  exact String.toList_inj.1 (h.symm.trans h')

/-! ## Cutting -/

/-- The parts of a path are its segments, and a path with parts has one. -/
theorem isCut_iff : IsCut path parts ↔ parts ≠ [] ∧ segments path = parts := by
  constructor
  · rintro ⟨trimmed, htrimmed, hne, rfl, hparts⟩
    have hsome : parts ≠ [] := by
      rintro rfl
      exact hne rfl
    have hone : parts.map String.toList ≠ [[]] := by
      intro h
      obtain ⟨part, rfl, hpart⟩ := List.map_eq_singleton_iff.1 h
      exact hne (String.toList_eq_nil_iff.1 hpart)
    rw [isTrimmed_iff, String.toList_intercalate, show "/".toList = ['/'] from rfl] at htrimmed
    refine ⟨hsome, segments_eq_iff.2 (split_of_trimSlashes_eq ?_ hone htrimmed)⟩
    simpa using hparts
  · rintro ⟨hsome, rfl⟩
    have hleft : trimSlashes path.toList ≠ [] := by
      intro hnil
      apply hsome
      rw [segments, (split_eq_nil_iff path.toList).2 hnil, List.map_nil]
    refine ⟨String.ofList (trimSlashes path.toList), ?_, ?_, ?_, fun part hpart hslash => ?_⟩
    · rw [isTrimmed_iff, String.toList_ofList]
    · simpa using hleft
    · rw [← String.toList_inj, String.toList_intercalate, segments,
        split_of_trimSlashes_ne_nil hleft, show "/".toList = ['/'] from rfl]
      simp [List.intercalate_splitOn]
    · exact (mem_segments hpart hslash).2 rfl

theorem IsCut.unique {others : List String} (h : IsCut path parts) (h' : IsCut path others) :
    parts = others :=
  (isCut_iff.1 h).2.symm.trans (isCut_iff.1 h').2

/-- Paths have the same segments exactly if the same is left of them. -/
theorem segments_eq_segments_iff :
    segments path = segments other ↔
      ∃ trimmed, IsTrimmed path trimmed ∧ IsTrimmed other trimmed := by
  have hsplit : segments path = segments other ↔
      trimSlashes path.toList = trimSlashes other.toList := by
    rw [segments_eq_iff, segments, List.map_map, ← split_eq_split_iff]
    simp
  simp only [hsplit, isTrimmed_iff]
  constructor
  · intro h
    exact ⟨String.ofList (trimSlashes path.toList), by simp, by simp [h]⟩
  · rintro ⟨trimmed, hpath, hother⟩
    rw [hpath, hother]

/-- A path that has parts is equal, up to slashes, to the paths with the same parts. -/
theorem eqUpToSlashes_iff (h : IsCut path parts) :
    EqUpToSlashes path other ↔ IsCut other parts := by
  obtain ⟨trimmed, htrimmed, hne, hjoined, hparts⟩ := h
  constructor
  · rintro ⟨left, -, hleft, hother⟩
    rw [hleft.unique htrimmed] at hother
    exact ⟨trimmed, hother, hne, hjoined, hparts⟩
  · rintro ⟨left, hother, -, hleft, -⟩
    -- The same parts make up what is left of both paths.
    rw [hleft, ← hjoined] at hother
    exact ⟨trimmed, hne, htrimmed, hother⟩

/-- A path without parts is equal to no path. -/
theorem EqUpToSlashes.exists_isCut (h : EqUpToSlashes path other) : ∃ parts, IsCut path parts := by
  obtain ⟨trimmed, hne, htrimmed, -⟩ := h
  refine ⟨segments path, isCut_iff.2 ⟨?_, rfl⟩⟩
  rw [Ne, segments, List.map_eq_nil_iff, split_eq_nil_iff, isTrimmed_iff.1 htrimmed]
  simpa using hne

/-! ## Joining -/

/-- Joined parts begin and end as their first and last part do. -/
theorem intercalate_outer_ne_slash (hsome : parts ≠ [])
    (hparts : ∀ part ∈ parts, part ≠ "" ∧ '/' ∉ part.toList) :
    ("/".intercalate parts).toList.head? ≠ some '/' ∧
      ("/".intercalate parts).toList.getLast? ≠ some '/' := by
  rw [String.toList_intercalate, show "/".toList = ['/'] from rfl]
  constructor
  · cases parts with
    | nil => exact absurd rfl hsome
    | cons first rest =>
        obtain ⟨hne, hfirst⟩ := hparts first List.mem_cons_self
        have hfilled : first.toList ≠ [] := by simpa using hne
        obtain ⟨c, tail, hchars⟩ := List.exists_cons_of_ne_nil hfilled
        have hc : c ≠ '/' := by
          rintro rfl
          exact hfirst (hchars ▸ List.mem_cons_self)
        cases rest with
        | nil => simpa [hchars] using hc
        | cons next rest => simpa [hchars, List.intercalate_cons_cons] using hc
  · obtain ⟨last, hlast⟩ := Option.isSome_iff_exists.1 (List.getLast?_isSome.2 hsome)
    obtain ⟨hne, hslash⟩ := hparts last (List.mem_of_getLast? hlast)
    have hchars : (parts.map String.toList).getLast? = some last.toList := by
      rw [List.getLast?_map, hlast]
      rfl
    rw [getLast?_intercalate hchars (by simpa using hne)]
    intro h
    exact hslash (List.mem_of_getLast? h)

/-- What is left of a path lacks a slash in front and one at the end, if anything. -/
theorem IsTrimmed.exists_eq (h : IsTrimmed path trimmed) :
    ∃ front ∈ ["", "/"], ∃ back ∈ ["", "/"], path = front ++ trimmed ++ back := by
  obtain ⟨middle, hlead, htrail⟩ := h
  have hfront : ∃ front ∈ ["", "/"], path.toList = front.toList ++ middle := by
    generalize path.toList = chars at hlead
    cases hlead with
    | slash => exact ⟨"/", by simp, rfl⟩
    | bare => exact ⟨"", by simp, rfl⟩
  have hback : ∃ back ∈ ["", "/"], middle = trimmed.toList ++ back.toList := by
    generalize trimmed.toList = chars at htrail
    cases htrail with
    | slash => exact ⟨"/", by simp, rfl⟩
    | bare => exact ⟨"", by simp, by simp⟩
  obtain ⟨front, hfront, hpath⟩ := hfront
  obtain ⟨back, hback, rfl⟩ := hback
  refine ⟨front, hfront, back, hback, ?_⟩
  rw [← String.toList_inj, hpath]
  simp

/-- Outer slashes are what is taken off a path that neither begins nor ends with one. -/
theorem isTrimmed_of_eq {front back : String} (hfront : front ∈ ["", "/"])
    (hback : back ∈ ["", "/"]) (hne : trimmed ≠ "") (hhead : trimmed.toList.head? ≠ some '/')
    (hlast : trimmed.toList.getLast? ≠ some '/') :
    IsTrimmed (front ++ trimmed ++ back) trimmed := by
  have hchars : trimmed.toList ≠ [] := by simpa using hne
  refine ⟨trimmed.toList ++ back.toList, ?_, ?_⟩
  · simp only [List.mem_cons, List.not_mem_nil, or_false] at hfront
    rcases hfront with rfl | rfl
    · rw [String.empty_append, String.toList_append]
      refine .bare ?_
      rwa [List.head?_append_of_ne_nil _ hchars]
    · rw [String.toList_append, String.toList_append]
      exact .slash
  · simp only [List.mem_cons, List.not_mem_nil, or_false] at hback
    rcases hback with rfl | rfl
    · exact (List.append_nil trimmed.toList).symm ▸ .bare hlast
    · exact .slash

/-- A path of filled parts is the parts with slashes between them, outer slashes apart. -/
theorem isCut_iff_isJoined (hsome : parts ≠ [])
    (hparts : ∀ part ∈ parts, part ≠ "" ∧ '/' ∉ part.toList) :
    IsCut path parts ↔ IsJoined path parts := by
  constructor
  · rintro ⟨trimmed, htrimmed, -, rfl, -⟩
    exact htrimmed.exists_eq
  · rintro ⟨front, hfront, back, hback, rfl⟩
    obtain ⟨hhead, hlast⟩ := intercalate_outer_ne_slash hsome hparts
    have hne : "/".intercalate parts ≠ "" := by
      intro hempty
      have hsegments := segments_intercalate hparts
      rw [hempty] at hsegments
      exact hsome hsegments.symm
    exact ⟨_, isTrimmed_of_eq hfront hback hne hhead hlast, hne, rfl,
      fun part hpart => (hparts part hpart).2⟩

/-- A path without parts is made of slashes, two at the most. -/
theorem segments_eq_nil_iff :
    segments path = [] ↔ (∀ c ∈ path.toList, c = '/') ∧ path.length ≤ 2 := by
  rw [segments, List.map_eq_nil_iff, split_eq_nil_iff, ← String.length_toList]
  constructor
  · intro h
    have htrimmed : IsTrimmed path "" := isTrimmed_iff.2 h
    obtain ⟨front, hfront, back, hback, rfl⟩ := htrimmed.exists_eq
    simp only [List.mem_cons, List.not_mem_nil, or_false] at hfront hback
    rcases hfront with rfl | rfl <;> rcases hback with rfl | rfl <;> simp
  · rintro ⟨hslashes, hlength⟩
    have hchars := List.eq_replicate_iff.2 ⟨rfl, hslashes⟩
    have hfew : path.toList.length = 0 ∨ path.toList.length = 1 ∨ path.toList.length = 2 := by omega
    rw [hchars]
    rcases hfew with h | h | h <;> rw [h] <;> rfl

end RoleAccess.Path

import RoleAccess.Checker
import RoleAccess.Proofs.Rule.Parts

/-!
# Asking with paths and asking with segments

A checker is asked about a resource by its segments or by a path. A path with a slash at both
ends and the segments between them stands for any segments without slashes but a single empty
one, so nothing that can be asked in one way is lost in the other. The slash at the end can be
left out unless the last segment is empty, and of a path nothing counts but what is between its
outer slashes (`Checker.checkPath_eq_check_and_segments_eq_iff`).
-/

namespace RoleAccess.Checker

variable {segments : List String}

/-- A path that puts segments between two slashes asks what they ask. -/
theorem checkPath_between (checker : Checker) (role : String)
    (hsegments : ∀ segment ∈ segments, '/' ∉ segment.toList) (hone : segments ≠ [""]) :
    checker.checkPath role ("/" ++ "/".intercalate segments ++ "/") =
      checker.check role segments := by
  rw [checkPath, Path.segments_between hsegments hone]

/-- A single empty segment is lost: nothing is left between the slashes. -/
example : Path.segments ("/" ++ "/".intercalate [""] ++ "/") = [] := by decide

/-- Lists of segments without slashes and paths stand for one another. Between two slashes all
segments but a single empty one are given back, and asking with that path is asking with them;
with a slash in front alone they are given back exactly if there are none or the last one is not
empty. Two paths have the same segments exactly if the same is left of them without one slash in
front and then without one at the end. -/
theorem checkPath_eq_check_and_segments_eq_iff :
    (∀ segments : List String, (∀ segment ∈ segments, '/' ∉ segment.toList) →
      (segments ≠ [""] →
        Path.segments ("/" ++ "/".intercalate segments ++ "/") = segments ∧
          ∀ (checker : Checker) (role : String),
            checker.checkPath role ("/" ++ "/".intercalate segments ++ "/") =
              checker.check role segments) ∧
      (Path.segments ("/" ++ "/".intercalate segments) = segments ↔
        segments = [] ∨ ∃ last, segments.getLast? = some last ∧ last ≠ "")) ∧
    ∀ path other : String, Path.segments path = Path.segments other ↔
      ∃ trimmed, Path.IsTrimmed path trimmed ∧ Path.IsTrimmed other trimmed := by
  constructor
  · intro segments hsegments
    constructor
    · intro hone
      constructor
      · exact Path.segments_between hsegments hone
      · intro checker role
        exact checkPath_between checker role hsegments hone
    · rw [Path.segments_intercalate_iff hsegments]
      cases hlast : segments.getLast? with
      | none =>
          have hnone : segments = [] := List.getLast?_eq_none_iff.1 hlast
          simp [hnone]
      | some last =>
          have hsome : segments ≠ [] := by
            rintro rfl
            cases hlast
          simp [hsome]
  · intro path other
    exact Path.segments_eq_segments_iff

/-- Empty segments at both ends are kept between two slashes, and are matched. -/
theorem checkPath_with_empty_segments :
    ∃ checker,
      ofRules [] [⟨.allow, "ann", [.universal, .literal "docs", .universal]⟩] = .ok checker ∧
      (∀ segment ∈ ["", "docs", ""], '/' ∉ segment.toList) ∧ ["", "docs", ""] ≠ [""] ∧
      Path.segments "//docs//" = ["", "docs", ""] ∧
      checker.checkPath "ann" "//docs//" = checker.check "ann" ["", "docs", ""] ∧
      checker.check "ann" ["", "docs", ""] = .ok true := by
  obtain ⟨checker, built⟩ : ∃ checker, ofRules []
      [⟨.allow, "ann", [.universal, .literal "docs", .universal]⟩] = .ok checker := ⟨_, rfl⟩
  have hsegments : ∀ segment ∈ ["", "docs", ""], '/' ∉ segment.toList := by decide
  have hone : ["", "docs", ""] ≠ [""] := by decide
  obtain ⟨hgiven, hasked⟩ :=
    (checkPath_eq_check_and_segments_eq_iff.1 ["", "docs", ""] hsegments).1 hone
  refine ⟨checker, built, hsegments, hone, hgiven, hasked checker "ann", ?_⟩
  cases built
  rfl

end RoleAccess.Checker

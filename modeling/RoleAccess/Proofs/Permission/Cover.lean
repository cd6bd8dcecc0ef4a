import Mathlib.Data.List.Forall2
import RoleAccess.Permission.Grant

/-!
# Covering as matching at every place

A list of patterns covers a list of segments if the two are related place by place
(`covers_iff_forall₂`), so it covers the same segments in an environment in which
every one of its patterns matches as much (`Covers.imp`). What a pattern matches
depends on the environment through the name in the pattern alone
(`SegmentPattern.AgreesIn.imp`).
-/

namespace RoleAccess

variable {environment first second : Environment} {pattern : SegmentPattern}
  {patterns : List SegmentPattern} {segment : String} {segments : List String}

theorem covers_iff_forall₂ :
    Covers environment patterns segments ↔
      List.Forall₂ (SegmentPattern.Matches environment) patterns segments := by
  induction patterns generalizing segments with
  | nil => cases segments <;> simp [Covers]
  | cons pattern patterns ih => cases segments <;> simp [Covers, ih]

/-- Patterns that all match as much in another environment cover the same segments
there. -/
theorem Covers.imp
    (h : ∀ pattern ∈ patterns, ∀ segment, pattern.Matches first segment →
      pattern.Matches second segment)
    (hcovers : Covers first patterns segments) : Covers second patterns segments := by
  induction patterns generalizing segments with
  | nil =>
      cases segments with
      | nil => trivial
      | cons segment segments => exact hcovers.elim
  | cons pattern patterns ih =>
      cases segments with
      | nil => exact hcovers.elim
      | cons segment segments =>
          rw [List.forall_mem_cons] at h
          exact ⟨h.1 segment hcovers.1, ih h.2 hcovers.2⟩

namespace SegmentPattern

/-- Two environments agree on the name in a pattern: a variable has one value in both, a
set the same members. -/
structure AgreesIn (first second : Environment) (pattern : SegmentPattern) : Prop where
  bound : pattern.kind = .bound → ∀ name, pattern.name = some name →
    first.lookup name = second.lookup name
  member : pattern.kind = .member → ∀ name, pattern.name = some name →
    ∀ value, first.contains name value = second.contains name value

theorem AgreesIn.symm (h : pattern.AgreesIn first second) : pattern.AgreesIn second first :=
  ⟨fun hkind name hname => (h.bound hkind name hname).symm,
    fun hkind name hname value => (h.member hkind name hname value).symm⟩

theorem AgreesIn.imp (h : pattern.AgreesIn first second)
    (hmatches : pattern.Matches first segment) :
    pattern.Matches second segment := by
  cases hmatches with
  | literal => exact .literal
  | bound hlookup =>
      rw [h.bound rfl _ rfl] at hlookup
      exact .bound hlookup
  | member hcontains =>
      rw [h.member rfl _ rfl] at hcontains
      exact .member hcontains
  | universal => exact .universal

end SegmentPattern

/-- Environments that agree on the names in patterns let them cover the same
segments. -/
theorem covers_iff_of_agreesIn (h : ∀ pattern ∈ patterns, pattern.AgreesIn first second) :
    Covers first patterns segments ↔ Covers second patterns segments :=
  ⟨Covers.imp fun pattern hpattern _ => (h pattern hpattern).imp,
    Covers.imp fun pattern hpattern _ => (h pattern hpattern).symm.imp⟩

end RoleAccess

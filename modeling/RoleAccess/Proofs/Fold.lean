import Mathlib.Data.List.Basic

/-!
# Folds that can fail

A fold whose step can fail has failed exactly if some element is the first one at
which the step fails (`foldlM_eq_error_iff`), and what each step keeps of the
elements seen so far holds of all of them when the fold succeeds
(`foldlM_ok_induction`). Where a step fails or not by its element alone, whatever the
state, the fold fails for the first bad element (`foldlM_eq_error_iff_isFirstFault`).
-/

namespace RoleAccess.Fold

variable {α β ε : Type} {step : β → α → Except ε β} {start last : β} {elements : List α}

/-- The two ways of a bind to a value. -/
theorem bind_eq_ok_iff {γ : Type} {first : Except ε β} {next : β → Except ε γ} {value : γ} :
    (first >>= next) = .ok value ↔ ∃ middle, first = .ok middle ∧ next middle = .ok value := by
  cases first with
  | error e => simp [bind, Except.bind]
  | ok middle => simp [bind, Except.bind]

theorem bind_eq_error_iff {γ : Type} {first : Except ε β} {next : β → Except ε γ} {fault : ε} :
    (first >>= next) = .error fault ↔
      first = .error fault ∨ ∃ middle, first = .ok middle ∧ next middle = .error fault := by
  cases first with
  | error e => simp [bind, Except.bind]
  | ok middle => simp [bind, Except.bind]

theorem mapError_eq_ok_iff {ε' : Type} {outcome : Except ε α} {change : ε → ε'} {value : α} :
    outcome.mapError change = .ok value ↔ outcome = .ok value := by
  cases outcome <;> simp [Except.mapError]

theorem mapError_eq_error_iff {ε' : Type} {outcome : Except ε α} {change : ε → ε'} {fault : ε'} :
    outcome.mapError change = .error fault ↔
      ∃ cause, outcome = .error cause ∧ fault = change cause := by
  cases outcome <;> simp [Except.mapError, eq_comm]

/-- A fold fails at the first element whose step fails. -/
theorem foldlM_eq_error_iff {fault : ε} :
    elements.foldlM step start = .error fault ↔
      ∃ before element after middle, elements = before ++ element :: after ∧
        before.foldlM step start = .ok middle ∧ step middle element = .error fault := by
  constructor
  · intro h
    induction elements generalizing start with
    | nil => cases h
    | cons first rest ih =>
        rw [List.foldlM_cons, bind_eq_error_iff] at h
        rcases h with h | ⟨middle, hfirst, hrest⟩
        · exact ⟨[], first, rest, start, rfl, rfl, h⟩
        · obtain ⟨before, element, after, state, rfl, hbefore, hfault⟩ := ih hrest
          refine ⟨first :: before, element, after, state, rfl, ?_, hfault⟩
          rw [List.foldlM_cons, hfirst]
          exact hbefore
  · rintro ⟨before, element, after, middle, rfl, hbefore, hfault⟩
    rw [List.foldlM_append, hbefore]
    show (element :: after).foldlM step middle = .error fault
    rw [List.foldlM_cons, hfault]
    rfl

/-- What every step keeps holds at the end of a fold that succeeds. -/
theorem foldlM_ok_induction (Kept : List α → β → Prop) (init : Kept [] start)
    (keep : ∀ seen element state next, Kept seen state → step state element = .ok next →
      Kept (seen ++ [element]) next)
    (h : elements.foldlM step start = .ok last) : Kept elements last := by
  -- The statement for the elements after those already seen carries the induction.
  have key : ∀ rest seen state, Kept seen state → rest.foldlM step state = .ok last →
      Kept (seen ++ rest) last := by
    intro rest
    induction rest with
    | nil =>
        intro seen state hkept hok
        cases hok
        rwa [List.append_nil]
    | cons element rest ih =>
        intro seen state hkept hok
        rw [List.foldlM_cons, bind_eq_ok_iff] at hok
        obtain ⟨next, hstep, hrest⟩ := hok
        have hnext := ih (seen ++ [element]) next (keep seen element state next hkept hstep) hrest
        rwa [List.append_assoc] at hnext
  exact key elements [] start init h

/-! ## Steps that fail by their element alone -/

/-- What is wrong with the first bad element of a list. -/
def IsFirstFault (Bad : α → ε → Prop) (elements : List α) (fault : ε) : Prop :=
  ∃ before element after, elements = before ++ element :: after ∧
    (∀ other ∈ before, ∀ fault, ¬Bad other fault) ∧ Bad element fault

theorem IsFirstFault.exists_mem {Bad : α → ε → Prop} {fault : ε}
    (h : IsFirstFault Bad elements fault) : ∃ element ∈ elements, Bad element fault := by
  obtain ⟨before, element, after, rfl, -, hbad⟩ := h
  exact ⟨element, by simp, hbad⟩

section
variable {Bad : α → ε → Prop}
  (hstep : ∀ state element fault, step state element = .error fault ↔ Bad element fault)
include hstep

/-- A fold succeeds exactly if no element is bad. -/
theorem exists_foldlM_eq_ok_iff (start : β) :
    (∃ last, elements.foldlM step start = .ok last) ↔
      ∀ element ∈ elements, ∀ fault, ¬Bad element fault := by
  induction elements generalizing start with
  | nil => exact ⟨fun _ element helement => absurd helement List.not_mem_nil, fun _ => ⟨start, rfl⟩⟩
  | cons first rest ih =>
      rw [List.forall_mem_cons]
      constructor
      · rintro ⟨last, h⟩
        rw [List.foldlM_cons, bind_eq_ok_iff] at h
        obtain ⟨next, hfirst, hrest⟩ := h
        refine ⟨fun fault hbad => ?_, (ih next).1 ⟨last, hrest⟩⟩
        rw [(hstep start first fault).2 hbad] at hfirst
        cases hfirst
      · rintro ⟨hgood, hrest⟩
        cases hfirst : step start first with
        | error fault => exact absurd ((hstep start first fault).1 hfirst) (hgood fault)
        | ok next =>
            obtain ⟨last, hlast⟩ := (ih next).2 hrest
            exact ⟨last, by rw [List.foldlM_cons, hfirst]; exact hlast⟩

/-- A fold fails for what is wrong with its first bad element. -/
theorem foldlM_eq_error_iff_isFirstFault {fault : ε} :
    elements.foldlM step start = .error fault ↔ IsFirstFault Bad elements fault := by
  rw [foldlM_eq_error_iff]
  constructor
  · rintro ⟨before, element, after, middle, rfl, hbefore, hfault⟩
    exact ⟨before, element, after, rfl, (exists_foldlM_eq_ok_iff hstep start).1 ⟨middle, hbefore⟩,
      (hstep _ _ _).1 hfault⟩
  · rintro ⟨before, element, after, rfl, hbefore, hbad⟩
    obtain ⟨middle, hmiddle⟩ := (exists_foldlM_eq_ok_iff hstep start).2 hbefore
    exact ⟨before, element, after, middle, rfl, hmiddle, (hstep _ _ _).2 hbad⟩

end

end RoleAccess.Fold

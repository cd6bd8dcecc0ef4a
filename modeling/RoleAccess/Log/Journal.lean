import RoleAccess.Log.Record

/-!
# Reported computations

A `Journal` is the outcome of a computation together with the records that it
made on its way. After a failure nothing more is reported. The outcome of a
sequence is the sequence of the outcomes (`outcome_bind`), so a statement about
outcomes never has to speak of records.
-/

namespace RoleAccess.Log

/-- An outcome and the records made on the way to it. -/
structure Journal (ε α : Type) where
  records : List Record
  outcome : Except ε α

namespace Journal

variable {ε α β : Type}

/-- Goes on with the value of a success; a failure ends the journal. -/
def andThen (journal : Journal ε α) (next : α → Journal ε β) : Journal ε β :=
  match journal.outcome with
  | .error e => ⟨journal.records, .error e⟩
  | .ok a => ⟨journal.records ++ (next a).records, (next a).outcome⟩

instance : Monad (Journal ε) where
  pure a := ⟨[], .ok a⟩
  bind := andThen

/-- Records and nothing else. -/
def report (records : List Record) : Journal ε Unit := ⟨records, .ok ()⟩

/-- A record and nothing else. -/
def note (level : Level) (logger message : String) : Journal ε Unit :=
  report [⟨level, logger, message⟩]

/-- An outcome without records. -/
def silent (outcome : Except ε α) : Journal ε α := ⟨[], outcome⟩

/-- The journal with its error changed. -/
def mapError {ε' : Type} (journal : Journal ε α) (change : ε → ε') : Journal ε' α :=
  ⟨journal.records, journal.outcome.mapError change⟩

@[simp] theorem outcome_mapError {ε' : Type} (journal : Journal ε α) (change : ε → ε') :
    (journal.mapError change).outcome = journal.outcome.mapError change := rfl

@[simp] theorem outcome_pure (a : α) : (pure a : Journal ε α).outcome = .ok a := rfl

@[simp] theorem outcome_silent (outcome : Except ε α) :
    (silent outcome).outcome = outcome := rfl

@[simp] theorem outcome_report (records : List Record) :
    (report records : Journal ε Unit).outcome = .ok () := rfl

@[simp] theorem outcome_note (level : Level) (logger message : String) :
    (note level logger message : Journal ε Unit).outcome = .ok () := rfl

@[simp] theorem outcome_bind (journal : Journal ε α) (next : α → Journal ε β) :
    (journal >>= next).outcome = journal.outcome >>= fun a => (next a).outcome := by
  obtain ⟨records, outcome⟩ := journal
  cases outcome <;> rfl

end Journal

end RoleAccess.Log

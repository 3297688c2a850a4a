import WorldForge.Journal
import WorldForge.Ledger.Basic
import WorldForge.Ledger.Fault
import WorldForge.Ledger.Flaw

/-!
# Sites

A site is a ledger as it is called: with the faults that are planned for it, and with the records
of what has been done there. A call that meets a fault fails in the ledger's place, and the ledger
does not learn of it.
-/

namespace WorldForge

/-- A ledger, the faults planned for it, and the records written so far, oldest first. -/
structure Site where
  ledger : Ledger
  faults : List Fault
  log : List LogRecord

/-- A computation on a site. -/
abbrev SiteM := EStateM Error Site

namespace Site

/-- A site as callers find it, before it has anything to report. -/
def opened (ledger : Ledger) (faults : List Fault) : Site := ⟨ledger, faults, []⟩

def report (r : LogRecord) : SiteM Unit := modify fun s => { s with log := s.log ++ [r] }

/-- Counts a call, and raises the error of a fault that strikes. -/
def meetFaults (c : LedgerCall) : SiteM Unit := fun s =>
  match Fault.meet c s.faults with
  | (some e, faults) => .error e { s with faults }
  | (none, faults) => .ok () { s with faults }

/-- Does something on the ledger, or raises its refusal. -/
def onLedger {α : Type} (op : Ledger → Except LedgerError (α × Ledger)) : SiteM α := fun s =>
  match op s.ledger with
  | .error e => .error e s
  | .ok (a, ledger) => .ok a { s with ledger }

/-- Calls the ledger, unless a fault is met. -/
def call {α : Type} (c : LedgerCall) (op : Ledger → Except LedgerError (α × Ledger)) :
    SiteM α := do
  meetFaults c
  onLedger op

/-- Calls the ledger to look something up by a value, which must be a key. A flaw in what it finds
in the catalog is raised. -/
def callBy {α : Type} (key : Value) (flaw? : Option Error) (c : LedgerCall)
    (op : Ledger → Except LedgerError (α × Ledger)) : SiteM α := do
  meetFaults c
  let _ ← orRaise .notKey key.asKey
  flaw?.forM fun e => throw e
  onLedger op

/-- The record of a deployment. -/
def deployed (h : InstanceHandle) : Ledger.Plan → LogRecord
  | .executor template => .executorDeployed h template
  | .world template name _ => .worldDeployed name h template

/-- Deploys with the arguments that are listed. -/
def deploy (c : Catalog) (given : Value) (args : List Argument) : SiteM InstanceHandle := do
  let (plan, h) ← callBy given (c.deploymentFlaw? given) .deploy fun l => l.deploy c given args
  report (deployed h plan)
  return h

/-- Deploys with the arguments that a value gives. The template is looked at before them. -/
def deployFrom (c : Catalog) (given args : Value) : SiteM InstanceHandle :=
  match args.items? with
  | some items => deploy c given (Argument.values items)
  | none => do
    let _ ← callBy given (c.deploymentFlaw? given) .deploy fun l =>
      (Ledger.deployable c given).map fun d => (d, l)
    throw (.notIterable args)

def destroy (given : Value) : SiteM Unit := do
  callBy given none .destroy fun l => l.destroy given
  report (.instanceDestroyed given)

/-- The live world at a handle. -/
def dispatcher (given : Value) : SiteM World :=
  callBy given none .dispatcher fun l => (l.dispatcher given).map fun w => (w, l)

/-- Registers a part. -/
def register (c : Catalog) (world : InstanceHandle) (k : PartKind) (given : Value) :
    SiteM Unit := do
  let d ← callBy given (c.registrationFlaw? k given) (.register k) fun l =>
    l.register c world k given
  report (.partEntered world k given d.name)

/-- Removes a registration. It is found by going through all there are, so any value will do. -/
def deregister (world : InstanceHandle) (k : PartKind) (given : Value) : SiteM Unit :=
  call (.deregister k) fun l => l.deregister world k given

end Site

end WorldForge

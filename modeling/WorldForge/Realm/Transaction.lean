import WorldForge.Realm.Sink

/-!
# Transactions

A transaction collects, while it is open, what would undo the work done so far, and the events to
tell of when the work is done. It ends once. Committing delivers the events; if that fails, and in
a rollback, everything in the journal is undone, newest first. Sinks and compensations may call
the transaction they belong to, so each operation looks at its state anew.
-/

namespace WorldForge

variable {κ : Type}

namespace Compensation

/-- What a compensation is called unless it is given another name. -/
def name : Compensation κ → String
  | leaveLabel _ => "record"
  | fail .. => "fail"
  | run _ => "steps"

/-- The arguments of a compensation, each as it would be written down. -/
def arguments : Compensation κ → List String
  | leaveLabel label => [label.literal]
  | fail .. | run _ => []

def perform (exec : κ → Act κ Unit) : Compensation κ → Act κ Unit
  | leaveLabel label => Act.note (.undone label)
  | fail kind message => throw (.raised kind message)
  | run code => exec code

end Compensation

namespace JournalEntry

/-- An entry with a description; an empty one stands for the compensation's own name. -/
def described (description : Text) (action : Compensation κ) : JournalEntry κ :=
  ⟨if description = "" then action.name else description, action⟩

def text (e : JournalEntry κ) : CallText := ⟨e.description, e.action.arguments⟩

end JournalEntry

namespace Transaction

/-- A transaction that has just begun. -/
def begun (sink : Value) : Transaction κ := ⟨sink, [], [], false⟩

/-- The state of a transaction that must not have ended. -/
def whileOpen (i : Nat) : Act κ (Transaction κ) := do
  let t := (← get).transaction i
  if t.closed then throw .transactionClosed else return t

/-- Holds back an event until the end. -/
def stage (i : Nat) (event : Value) : Act κ Unit := do
  let t ← whileOpen i
  modify (Realm.putTransaction i { t with staged := t.staged ++ [event] })

/-- Enters a compensation for a side effect that has just happened. -/
def onRollback (i : Nat) (e : JournalEntry κ) : Act κ Unit := do
  let t ← whileOpen i
  modify (Realm.putTransaction i { t with journal := e :: t.journal })
  Act.report (.journaled e.text)

/-- The number of compensations in the journal. -/
def pending (i : Nat) : Act κ Nat := return ((← get).transaction i).journal.length

/-- Ends a transaction by undoing everything in its journal. Staged events are dropped. -/
def rollback (run : κ → Act κ Unit) (i : Nat) : Act κ Unit := do
  let t ← whileOpen i
  -- ended before the first compensation runs, so that no compensation can run twice
  modify (Realm.putTransaction i { t with journal := [], staged := [], closed := true })
  let failures ← unwind Act.report JournalEntry.text (fun e => e.action.perform run) t.journal
  unless failures.isEmpty do throw (.rollbackFailed failures none)

/-- Rolls back because of an error, and raises it, or the failure of the rollback with the error
as its cause. -/
def rollbackAfter {α : Type} (run : κ → Act κ Unit) (i : Nat) (e : Error) : Act κ α := do
  match ← attempt (rollback run i) with
  | .ok () => throw e
  | .error (.rollbackFailed failures _) => throw (.rollbackFailed failures (some e))
  -- somebody else ended the transaction meanwhile
  | .error other => throw other

/-- Ends a transaction by delivering the staged events. The journal is kept until all have been
delivered, and is unwound if one is not. -/
def commit (run : κ → Act κ Unit) (i : Nat) : Act κ Unit := do
  let t ← whileOpen i
  -- an event that a sink stages from here on is not among those delivered
  modify (Realm.putTransaction i { t with staged := [] })
  match ← attempt (Sink.deliver run t.sink t.staged) with
  | .ok () =>
    -- a sink may have used the transaction, so the rest of its state is the present one
    modify fun r =>
      r.putTransaction i { r.transaction i with journal := [], closed := true }
  | .error e =>
    Act.report (.deliveryFailed (← pending i) e)
    rollbackAfter run i e

/-- Leaves the block of a transaction, which came out as given: commits after success and rolls
back after an error. A transaction that has ended already is left alone, and the error passes. -/
def leave (run : κ → Act κ Unit) (i : Nat) (outcome : Except Error Unit) : Act κ Unit := do
  if ((← get).transaction i).closed then release outcome
  else
    match outcome with
    | .ok () => commit run i
    | .error e =>
      Act.report (.rollingBack (← pending i) e)
      rollbackAfter run i e

/-- Runs the body of a transaction's block, and leaves the block however the body came out. -/
def within (run : κ → Act κ Unit) (i : Nat) (body : Act κ Unit) : Act κ Unit := do
  leave run i (← attempt body)

end Transaction

end WorldForge

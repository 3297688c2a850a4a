import WorldForge.Scenario.Call

/-!
# Playing scenarios

Playing a scenario runs its steps in order. Every step that is run leaves an entry in the trace
when it is over, after the entries of the steps that ran inside it; its result is bound to the
step's name if it succeeds. An error stays where it is, unless the step is one that throws: then
it ends the list of steps that the step is in.

Steps run steps, through sinks and compensations, and how deep that goes cannot be read off the
text of a scenario. But each step of the text is run at most once: a script is read on from where
it stood, a compensation runs once at most, a block once. So the number of steps bounds the depth.
-/

namespace WorldForge.Scenario

/-- A value that may be left out; null stands for it then. -/
def optional? : List Value → Option Value
  | [] => some .null
  | [v] => some v
  | _ => none

/-! ## Making objects -/

/-- Adds an object of a kind, and gives it as a value. -/
def addObject {α : Type} (kind : ObjectKind) (put : Nat → α → Realm Code → Realm Code)
    (a : α) : Act Code Answer := do
  return .value (.object kind (← Realm.add put a))

/-- The catalog of a new ledger: the one that is handed over, if anything is declared in it, and
one of its own in place of a value that counts as nothing. -/
def ledgerCatalog (given : Value) : Act Code Value := do
  if (← get).countsAsNothing given then
    return .object .catalog (← Realm.add Realm.putCatalog .empty)
  else return given

/-- The faults of a ledger because of what it has for a catalog: where nothing can be looked up,
every deployment fails. -/
def catalogFaults : Value → List Fault
  | .object .catalog _ | .dictionary _ => []
  | other => [.always .deploy (.lacking other "get")]

/-- Makes an object, or a request. -/
def makeObject (what : Creation) (args : List Value) : Act Code Answer :=
  match what, args with
  | .catalog, [] => addObject .catalog Realm.putCatalog .empty
  | .allocator, [] => addObject .allocator Realm.putAllocator (.ok .fromFirst)
  | .allocator, [first] =>
    addObject .allocator Realm.putAllocator <|
      match first.numeral? with
      | none => .error first
      | some n => .ok (.startingAt n)
  | .eventLog, [] => addObject .eventLog Realm.putSink ⟨[], []⟩
  | .configuration, [] => addObject .configuration Realm.putConfiguration .blank
  | .unmetered, [] => addObject .budget Realm.putBudget .unmetered
  | .request, _ => do Call.give (← release (requestOf args))
  | .factory, ledger :: rest =>
    match rest with
    | [] => addObject .factory Realm.putFactory ⟨ledger, .null, .null, .blank⟩
    | [sink] => addObject .factory Realm.putFactory ⟨ledger, sink, .null, .blank⟩
    | [sink, steps] => addObject .factory Realm.putFactory ⟨ledger, sink, steps, .blank⟩
    | _ => refuse
  | .configuredFactory loaded, ledger :: rest =>
    match optional? rest with
    | none => refuse
    | some sink => do
      let settings ← orRaise .settings loaded
      if let some recipe := settings.recipe? then Act.report (.configured recipe)
      addObject .factory Realm.putFactory (.ofSettings ledger sink settings)
  | _, _ =>
    match what, optional? args with
    | .ledger faults, some given => do
      let catalog ← ledgerCatalog given
      addObject .ledger Realm.putLedger ⟨catalog, .empty, faults ++ catalogFaults catalog⟩
    | .budget, some limit => do
      addObject .budget Realm.putBudget (← orRaise .budget (Budget.ofValue limit))
    | .transaction, some sink => addObject .transaction Realm.putTransaction (.begun sink)
    | _, _ => refuse
where
  /-- Refuses arguments that are too many or too few. -/
  refuse : Act Code Answer := throw (what.refusal args.length)

/-! ## Running steps -/

/-- Binds a name in the realm. -/
def bindName (name : Option String) (v : Value) : Act Code Unit :=
  name.forM fun n => modify fun r => { r with names := r.names.insert n v }

/-- Does what a task says. `run` runs the code that comes up on the way. -/
def Task.perform (run : Code → Act Code Unit) (inputs : Inputs) : Task → Act Code Answer
  | .create what => makeObject what inputs.args
  | .createScripted script => addObject .scriptSink Realm.putSink ⟨[], script⟩
  | .call method => Call.invoke run inputs.target method inputs.args inputs.budget
  | .deploy strangers =>
    Call.deployWith run strangers inputs.target inputs.args inputs.budget
  | .onRollback description action =>
    match inputs.target with
    | .object .transaction i => do
      Transaction.onRollback i (.described description action)
      Call.done
    | other => throw (.lacking other "on_rollback")
  | .raise kind message => throw (.raised kind message)
  | .block name body =>
    match optional? inputs.args with
    | none => throw (Creation.transaction.refusal inputs.args.length)
    | some sink => do
      let i ← Realm.add Realm.putTransaction (Transaction.begun sink)
      bindName name (.object .transaction i)
      Transaction.within run i (run body)
      Call.done

/-- Ends a step that came out as given. -/
def Step.finish (task : Task) (result : Option String) (throws : Bool) :
    Except Error Answer → Act Code Unit
  | .error e => do
    Act.note (.step task.label (.failed e))
    if throws then throw e
  | .ok answer => do
    bindName result answer.bound
    Act.note (.step task.label (.done answer))

/-- Runs one step. -/
def Step.run (run : Code → Act Code Unit) : Step → Act Code Unit
  | .mk task operands result throws => do
    match operands.resolve (← get).names with
    | .error (.unbound n) => Act.note (.step task.label (.skipped n))
    | .error (.failed e) => Step.finish task result throws (.error e)
    | .ok inputs => Step.finish task result throws (← attempt (task.perform run inputs))

/-- Runs code, with steps inside steps to a depth below `depth`. -/
def runCode : Nat → Code → Act Code Unit
  | 0, _ => pure ()
  | depth + 1, code =>
    -- an error leaves the loop, and with it the list of steps
    code.forM (Step.run (runCode depth))

/-- Runs the steps of a scenario: at the top an error ends nothing. -/
def playFrom (r : Realm Code) (steps : Code) : Realm Code :=
  steps.foldl (fun r s =>
    match s.run (runCode (codeSize steps)) r with
    | .ok () r' => r'
    | .error _ r' => r') r

/-- The trace of a scenario. -/
def play (steps : Code) : List Entry := (playFrom .empty steps).trace

/-- The trace of a scenario without the records of the log. -/
def playQuietly (steps : Code) : List Entry := (play steps).filter fun e => !e.isLog

end WorldForge.Scenario

import WorldForge.Realm.Sink

/-!
# Factories

A factory makes worlds by the recipe that its configuration holds. Its work on the ledger comes
first; then the sink is told; and if either fails, everything that was done is undone, newest
first. Nobody but the factory can reach the journal of an operation, so the journal is a value that
is handed on, and what a sink's reaction does meanwhile, to whichever object, has no part in it.
-/

namespace WorldForge

variable {κ : Type}

namespace Factory

/-! ## Administration -/

/-- Puts a new recipe in force, and gives it. -/
def reconfigure (i : Nat) (change : Configuration → Except ConfigurationError Recipe) :
    Act κ Recipe := do
  let f := (← get).factory i
  match change f.configuration with
  | .error e => throw (.configuration e)
  | .ok recipe =>
    modify (Realm.putFactory i { f with configuration := .holding recipe })
    return recipe

/-- Sets template and executor, once. -/
def setUp (i : Nat) (template executor : Value) : Act κ Unit := do
  let recipe ← reconfigure i fun c => c.setUp template executor
  Act.report (.configured recipe)

/-- Sets the executor of the worlds to come. -/
def setExecutor (i : Nat) (executor : Value) : Act κ Unit := do
  let recipe ← reconfigure i fun c => c.setExecutor executor
  Act.report (.executorSet recipe.executor)

/-- Sets the template of the worlds to come. -/
def setTemplate (i : Nat) (template : Value) : Act κ Unit := do
  let recipe ← reconfigure i fun c => c.setTemplate template
  Act.report (.templateSet recipe.template)

/-- The recipe in force. -/
def recipe (f : Factory) : Except Error Recipe :=
  match f.configuration.snapshot with
  | .error e => .error (.configuration e)
  | .ok c => .ok c

/-- A factory made from settings: it is set up exactly if both identifiers are there. -/
def ofSettings (ledger sink : Value) (s : Settings) : Factory where
  ledger := ledger
  sink := sink
  stepBudget := (s.stepBudget.map Value.int).getD .null
  configuration := ⟨s.recipe?⟩

/-! ## Making worlds -/

/-- What pays for an operation: the budget that is handed over, or a fresh one of the factory's
number of steps. -/
def purse (f : Factory) : Value → Act κ Purse
  | .null =>
    match Budget.ofValue f.stepBudget with
    | .error e => throw (.budget e)
    | .ok b => return .budget b
  | .object .budget i => return .budget ((← get).budget i)
  | other => return .other other

/-- Keeps what was spent from a budget that was handed over. -/
def keepPurse (purse : Purse) (budget : Value) : Act κ Unit :=
  match purse, budget with
  | .budget b, .object .budget i => modify (Realm.putBudget i b)
  | _, _ => pure ()

/-- The steps that have been paid for at the end of an operation. -/
def spent (purse : Purse) (budget : Value) : Act κ Int :=
  match budget with
  | .object .budget i => return ((← get).budget i).used
  | _ => release purse.used

/-- Why a value that is no ledger cannot be called as one. A factory deploys too, but by a name
alone. -/
def notLedger : Value → LedgerCall → Error
  | .object .factory _, .deploy =>
    .misfit (ObjectKind.label .factory ++ "." ++ LedgerCall.label .deploy) (.unary "name") 2
  | other, call => .lacking other call.label

/-- Does work on the factory's ledger, which begins with a call: gives how it came out, the purse
afterwards, and the journal. -/
def perform {α : Type} (f : Factory) (purse : Purse) (first : LedgerCall)
    (work : Catalog → Work α) : Act κ (Except Error α × Purse × List Undo) :=
  match f.ledger with
  | .object .ledger i =>
    Act.onSite i fun c site =>
      match work c ⟨site, purse, []⟩ with
      | .ok a w => .ok (.ok a, w.purse, w.journal) w.site
      | .error e w => .ok (.error e, w.purse, w.journal) w.site
  | other => return (.error (notLedger other first), purse, [])

/-- Undoes a journal, and gives what failed. -/
def undoAll (f : Factory) (journal : List Undo) : Act κ (List Error) :=
  match f.ledger with
  | .object .ledger i => Act.onSite i fun _ => Undo.runAll journal
  | _ => return []

/-- Undoes a journal because of an error, and raises what there is to raise. -/
def abandon {α : Type} (f : Factory) (journal : List Undo) (e : Error) : Act κ α := do
  throw (afterRollback (← f.undoAll journal) e)

/-- Ends an operation: tells the sink of the events of a success, and undoes the journal if the
operation or the telling has failed. -/
def conclude {α : Type} (run : κ → Act κ Unit) (f : Factory) (journal : List Undo)
    (outcome : Except Error α) (events : α → List Value) : Act κ α := do
  match outcome with
  | .error e =>
    Act.report (.rollingBack journal.length e)
    f.abandon journal e
  | .ok a =>
    match ← attempt (Sink.deliver run f.sink (events a)) with
    | .ok () => return a
    | .error e =>
      Act.report (.deliveryFailed journal.length e)
      f.abandon journal e

/-- Makes a world and registers its parts, all or nothing. -/
def spawn (run : κ → Act κ Unit) (i : Nat) (name : Value) (components systems : List Value)
    (budget : Value) : Act κ InstanceHandle := do
  let f := (← get).factory i
  let recipe ← release f.recipe
  let purse ← f.purse budget
  let (outcome, purse, journal) ←
    f.perform purse .deploy fun c => Work.makeWorld c recipe name components systems
  -- spent steps stay spent, and a reaction of the sink may go on spending
  keepPurse purse budget
  let h ← conclude run f journal outcome fun h => [.worldCreated h]
  let used ← spent purse budget
  Act.report (.worldSpawned name h components.length systems.length used)
  return h

/-- Makes the world that a value requests. A value that is no request fails: it has no parts to
register, even if it has a name to deploy a world by. -/
def spawnRequest (run : κ → Act κ Unit) (i : Nat) (request budget : Value) :
    Act κ InstanceHandle := do
  match request with
  | .request name components systems => spawn run i name components systems budget
  | other =>
    let f := (← get).factory i
    let recipe ← release f.recipe
    let purse ← f.purse budget
    match other.name? with
    | none => conclude run f [] (.error (.lacking other "name")) fun _ => []
    | some name =>
      let (outcome, _, journal) ← f.perform purse .deploy fun c => do
        let _ ← Work.deployWorld c recipe name
        throw (.lacking other "component_ids")
      conclude run f journal outcome fun _ => []

/-- Makes a world without parts. -/
def deploy (run : κ → Act κ Unit) (i : Nat) (name : Value) : Act κ InstanceHandle := do
  let f := (← get).factory i
  let recipe ← release f.recipe
  let (outcome, _, journal) ←
    f.perform (.budget .unmetered) .deploy fun c => Work.deployWorld c recipe name
  conclude run f journal outcome fun h => [.worldCreated h]

/-- Registers parts in a world that is there, all or none. -/
def registerAll (run : κ → Act κ Unit) (i : Nat) (world components systems budget : Value) :
    Act κ Unit := do
  let f := (← get).factory i
  let _ ← release f.recipe
  let purse ← f.purse budget
  let (outcome, purse, journal) ←
    f.perform purse .dispatcher fun c => Work.registerParts c world components systems
  keepPurse purse budget
  conclude run f journal outcome fun _ => []

end Factory

end WorldForge

import WorldForge.Ledger.Argument
import WorldForge.Realm.Basic
import WorldForge.Scenario.Signature
import WorldForge.Value.Equality

/-!
# Scenarios

A scenario is a list of steps. A step makes an object, makes a call, or opens a transaction around
other steps, and can give its result a name for later steps to use. What it works on is named by
its operands. Steps are also what the reactions of sinks and the compensations of transactions run.
-/

namespace WorldForge.Scenario

/-- An argument of a step: a value, perhaps with names in it. -/
inductive Arg where
  | value (v : Value)
  | name (n : String)
  | list (items : List Arg)
  | dictionary (entries : List (Arg × Arg))
  | recipe (template executor : Arg)
  | declaration (id name : Arg) (kind : TemplateKind)
  | request (fields : List Arg)

/-- What a step works on: its arguments, the object that it calls, the budget that it hands over. -/
structure Operands where
  args : List Arg
  on : Option String
  budget : Option String

/-- What a step makes, scripted sinks apart. -/
inductive Creation where
  | catalog
  | allocator
  | ledger (faults : List Fault)
  | eventLog
  | configuration
  | budget
  | unmetered
  | request
  | transaction
  | factory
  /-- A factory from settings; what has come of loading them decides whether it is made. -/
  | configuredFactory (loaded : Except Settings.Report Settings)

def Creation.label : Creation → String
  | catalog => "TemplateCatalog"
  | allocator => "HandleAllocator"
  | ledger _ => "LocalLedger"
  | eventLog => "EventLog"
  | configuration => "ConfigStore"
  | budget => "StepBudget"
  | unmetered => "StepBudget.unmetered"
  | request => "SpawnRequest.of"
  | transaction => "Transaction"
  | factory => "WorldFactory"
  | configuredFactory _ => "WorldFactory.from_settings"

/-- What making something takes. -/
def Creation.signature : Creation → Signature
  | catalog | eventLog | configuration | unmetered => .nullary
  | allocator | ledger _ | budget | transaction => ⟨[], 1⟩
  | request => ⟨["name"], 2⟩
  | factory => ⟨["ledger"], 2⟩
  | configuredFactory _ => ⟨["ledger"], 1⟩

/-- The call by which something is made. -/
def Creation.call : Creation → String
  | unmetered => unmetered.label
  | request => request.label
  | configuredFactory s => (configuredFactory s).label
  | what => what.label ++ ".__init__"

/-- Why something is not made of a number of arguments. -/
def Creation.refusal (what : Creation) (given : Nat) : Error :=
  .misfit what.call what.signature given

mutual

/-- One step: what it does and on what, the name for its result, and whether an error in it is
raised to whatever runs the step. -/
inductive Step where
  | mk (task : Task) (operands : Operands) (result : Option String) (throws : Bool)

/-- What a step does. -/
inductive Task where
  | create (what : Creation)
  | createScripted (script : List (Option (Reaction (List Step))))
  | call (method : Method)
  /-- Deploys with strangers at some of the places of the arguments. -/
  | deploy (strangers : List (Nat × Stranger))
  | onRollback (description : Text) (action : Compensation (List Step))
  | raise (kind : ErrorKind) (message : Text)
  /-- Runs steps in the block of a new transaction, which has a name while they run. -/
  | block (transaction : Option String) (body : List Step)

end

/-- What a scenario's sinks and transactions run. -/
abbrev Code := List Step

/-- How a task is shown in the trace. -/
def Task.label : Task → String
  | create what => "new " ++ what.label
  | createScripted _ => "new " ++ ObjectKind.label .scriptSink
  | call method => method.label
  | deploy _ => Method.label .deploy
  | onRollback .. => "on_rollback"
  | raise .. => "raise"
  | block .. => "with"

/-! ## Size -/

mutual

/-- The number of steps in a step, itself included. -/
def Step.size : Step → Nat
  | .mk task _ _ _ => task.size + 1

def Task.size : Task → Nat
  | .createScripted script => scriptSize script
  | .onRollback _ (.run code) => codeSize code
  | .block _ body => codeSize body
  | _ => 0

/-- The number of steps in a list of steps. -/
def codeSize : List Step → Nat
  | [] => 0
  | s :: rest => s.size + codeSize rest

def scriptSize : List (Option (Reaction (List Step))) → Nat
  | [] => 0
  | some ⟨some code, _⟩ :: rest => codeSize code + scriptSize rest
  | some ⟨none, _⟩ :: rest => scriptSize rest
  | none :: rest => scriptSize rest

end

/-! ## Names -/

/-- What a step can use of a realm: the values that names are bound to. -/
abbrev Names := Table String Value

/-- Why an argument has no value. -/
inductive Unresolved where
  | unbound (name : String)
  | failed (e : Error)

/-- The value of a name, if it is bound. -/
def lookUp (names : Names) (n : String) : Except Unresolved Value :=
  match names.find? n with
  | none => .error (.unbound n)
  | some v => .ok v

/-- The parts that stand at the end of a call and may be left out: components, then systems. -/
def partsOf? : List Value → Option (Value × Value)
  | [] => some (.list [], .list [])
  | [components] => some (components, .list [])
  | [components, systems] => some (components, systems)
  | _ => none

/-- A name, and what gives components and systems, as a request. -/
def requestFor (name components systems : Value) : Except Error Value :=
  match components.items with
  | .error e => .error e
  | .ok cs => systems.items.map fun ss => .request name cs ss

/-- A request from its fields: a name, and parts that may be left out. -/
def requestOf : List Value → Except Error Value
  | [] => .error (Creation.request.refusal 0)
  | name :: parts =>
    match partsOf? parts with
    | none => .error (Creation.request.refusal (parts.length + 1))
    | some (components, systems) => requestFor name components systems

mutual

/-- The value of an argument. Of several names that are not bound the first counts. -/
def Arg.resolve (names : Names) : Arg → Except Unresolved Value
  | .value v => .ok v
  | .name n => lookUp names n
  | .list items =>
    match resolveList names items with
    | .error e => .error e
    | .ok vs => .ok (.list vs)
  | .dictionary entries =>
    match resolveEntries names entries with
    | .error e => .error e
    | .ok es => .ok (.dictionaryOf es)
  | .recipe template executor =>
    match template.resolve names with
    | .error e => .error e
    | .ok t =>
      match executor.resolve names with
      | .error e => .error e
      | .ok h => .ok (.recipe t h)
  | .declaration id name kind =>
    match id.resolve names with
    | .error e => .error e
    | .ok i =>
      match name.resolve names with
      | .error e => .error e
      | .ok n => .ok (.declaration i n (.kind kind))
  | .request fields =>
    match resolveList names fields with
    | .error e => .error e
    | .ok vs =>
      match requestOf vs with
      | .error e => .error (.failed e)
      | .ok v => .ok v

def resolveList (names : Names) : List Arg → Except Unresolved (List Value)
  | [] => .ok []
  | a :: rest =>
    match a.resolve names with
    | .error e => .error e
    | .ok v =>
      match resolveList names rest with
      | .error e => .error e
      | .ok vs => .ok (v :: vs)

def resolveEntries (names : Names) :
    List (Arg × Arg) → Except Unresolved (List (Value × Value))
  | [] => .ok []
  | (k, a) :: rest =>
    match k.resolve names with
    | .error e => .error e
    | .ok kv =>
      match a.resolve names with
      | .error e => .error e
      | .ok v =>
        match kv.asKey with
        | .error refusal => .error (.failed refusal)
        | .ok _ =>
          match resolveEntries names rest with
          | .error e => .error e
          | .ok es => .ok ((kv, v) :: es)

end

/-- Operands by value. An object that is not named is null. -/
structure Inputs where
  args : List Value
  target : Value
  budget : Option Value

/-- The values of operands: arguments come first, then the object, then the budget. -/
def Operands.resolve (names : Names) (o : Operands) : Except Unresolved Inputs := do
  let args ← resolveList names o.args
  let target ← o.on.mapM (lookUp names)
  let budget ← o.budget.mapM (lookUp names)
  return ⟨args, target.getD .null, budget⟩

end WorldForge.Scenario

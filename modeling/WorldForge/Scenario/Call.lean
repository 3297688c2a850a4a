import WorldForge.Realm.Factory
import WorldForge.Realm.Transaction
import WorldForge.Scenario.Step

/-!
# Answering calls

How the objects of a realm answer the calls of a scenario. Arguments that may be left out have
their defaults here; a call that does not go with its object's signature is refused. Every value
can be asked for its length.
-/

namespace WorldForge.Scenario

variable {κ : Type}

namespace Call

/-- A value as an answer. -/
def give (v : Value) : Act κ Answer := return .value v

/-- The answer of a call that has nothing to tell. -/
def done : Act κ Answer := give .null

/-- Refuses a call that a value does not answer. -/
def refuse (target : Value) (m : Method) (args : List Value) : Act κ Answer :=
  throw (unanswered target m args.length)

/-! ## Catalogs and allocators -/

/-- Refuses a value that is no key. -/
def mustBeKey (v : Value) : Act κ Unit := do
  let _ ← orRaise .notKey v.asKey

/-- The id that is given for a declaration; null is none. -/
def givenId : Value → Option Value
  | .null => none
  | id => some id

/-- Declares a template in a catalog. -/
def declare (catalog : Nat) (name kind id : Value) : Act κ Answer := do
  if (← get).countsAsNothing name then throw (.catalog .emptyName)
  let (id, c) ← orRaise .catalog (((← get).catalog catalog).declare kind name (givenId id))
  modify (Realm.putCatalog catalog c)
  give id

/-- Gives a declaration, in which the kind is told of by its name. -/
def giveDeclaration (d : Declaration) : Act κ Answer := do
  if d.kind.name?.isNone then throw (.lacking d.kind "name")
  give d.value

def onCatalog (i : Nat) (m : Method) (args : List Value) : Act κ Answer := do
  let c := (← get).catalog i
  match m, args with
  | .declare, [name, kind] => declare i name kind .null
  | .declare, [name, kind, id] => declare i name kind id
  | .get, [v] => do
    mustBeKey v
    match c.get? v with
    | none => give .null
    | some d => giveDeclaration d
  | .isDeclared, [v] => do
    mustBeKey v
    give (.bool (c.isDeclared v))
  | .dump, _ => return .dump (.catalog c.size)
  | _, _ => refuse (.object .catalog i) m args

def onAllocator (i : Nat) (m : Method) (args : List Value) : Act κ Answer := do
  let o := (← get).allocator i
  -- nothing is alive where there is nothing to count from
  let a := o.toOption.getD default
  match m, args with
  | .allocate, [] =>
    match o with
    | .error first => throw (.noSuccessor first)
    | .ok a => do
      let (h, a) := a.allocate
      modify (Realm.putAllocator i (.ok a))
      give h
  | .deallocate, [v] => do
    mustBeKey v
    match a.deallocate? v.key with
    | none => throw (.notAlive v)
    | some a => do modify (Realm.putAllocator i (.ok a)); done
  | .isAlive, [v] => do
    mustBeKey v
    give (.bool (a.isAlive v.key))
  | .alive, [] => give (.handles a.alive)
  | .dump, _ => return .dump (.allocator a.alive)
  | _, _ => refuse (.object .allocator i) m args

/-! ## Ledgers and worlds -/

/-- Declares a template in the catalog of a ledger. -/
def declareOn (i : Nat) (name kind id : Value) : Act κ Answer := do
  let r ← get
  -- the catalog of a ledger is older than the ledger, so there are no more than that
  match r.catalogBehind r.next (r.ledger i).catalog with
  | .ok c => declare c name kind id
  | .error other => throw (.lacking other "declare")

def onLedger (i : Nat) (m : Method) (args : List Value) : Act κ Answer := do
  let o := (← get).ledger i
  let l := o.ledger
  match m, args with
  | .declare, [name, kind] => declareOn i name kind .null
  | .declare, [name, kind, id] => declareOn i name kind id
  | .deploy, [v, arguments] =>
    give (← Act.onSite i fun c => Site.deployFrom c v arguments)
  | .destroy, [v] => do Act.onSite i fun _ => Site.destroy v; done
  | .dispatcher, [v] => do
    let w ← Act.onSite i fun _ => Site.dispatcher v
    give (.world i w.handle w.name)
  | .templateOf, [v] => do
    mustBeKey v
    give (← orRaise .ledger (l.templateOf v))
  | .isAlive, [v] => do
    mustBeKey v
    give (.bool (l.isAlive v))
  | .liveInstances, [] => give (.handles l.allocator.alive)
  | .worlds, [] => give (.list (l.worlds.values.map fun w => .world i w.handle w.name))
  | .catalog, _ => give o.catalog
  | .dump, _ =>
    match (← get).lengthOf? o.catalog with
    | none => throw (.noLength o.catalog)
    | some declared => return .dump (.ledger l.allocator.alive l.worlds.values declared)
  | _, _ => refuse (.object .ledger i) m args

def onWorld (i : Nat) (h : InstanceHandle) (m : Method) (args : List Value) : Act κ Answer := do
  match ((← get).ledger i).ledger.world? h with
  | none => throw (.ledger (.noWorld h))
  | some w =>
    match m, args with
    | .register k, [v] => do Act.onSite i fun c => Site.register c h k v; done
    | .deregister k, [v] => do Act.onSite i fun _ => Site.deregister h k v; done
    | .resolve k, [v] => do
      mustBeKey v
      give (← orRaise .ledger (w.resolve k v))
    | .parts k, [] => give (w.roster k).value
    | .dump, _ => return .dump (.world w)
    | _, _ => refuse (.world i h w.name) m args

/-! ## Sinks, budgets and configurations -/

/-- What every sink answers, of either kind. -/
def onSink (run : κ → Act κ Unit) (kind : ObjectKind) (i : Nat) (m : Method) (args : List Value) :
    Act κ Answer := do
  let s := (← get).sink i
  match m, args with
  | .emit, [v] => do Sink.emit run i v; done
  | .events, _ => give (.list s.events)
  | .dump, _ => return .dump (.events s.events)
  | _, _ => refuse (.object kind i) m args

/-- What an event log answers besides. Only a log forgets events: a scripted sink counts them to
find its place. -/
def onEventLog (run : κ → Act κ Unit) (i : Nat) (m : Method) (args : List Value) :
    Act κ Answer := do
  let s := (← get).sink i
  match m, args with
  | .ofType, [type] => give (.list (s.events.filter fun v => v.typeName = type.plain))
  | .clear, [] => do modify (Realm.putSink i { s with events := [] }); done
  | _, _ => onSink run .eventLog i m args

def onBudget (i : Nat) (m : Method) (args : List Value) : Act κ Answer := do
  let b := (← get).budget i
  match m, args with
  | .charge, [] => charge b (.number 1)
  | .charge, [v] => do charge b (← orRaise .budget v.asSteps)
  | .limit, _ => give ((b.limit.map Value.ofNumeral).getD .null)
  | .used, _ => give (.int b.used)
  | .remaining, _ => give ((b.remaining?.map Value.int).getD .null)
  | .isMetered, [] => give (.bool b.isMetered)
  | .dump, _ => return .dump (.budget b)
  | _, _ => refuse (.object .budget i) m args
where
  /-- Keeps the budget after a charge. -/
  charge (b : Budget) (n : Numeral) : Act κ Answer := do
    let b ← orRaise .budget (b.charge n)
    modify (Realm.putBudget i b)
    done

def onConfiguration (i : Nat) (m : Method) (args : List Value) : Act κ Answer := do
  let c := (← get).configuration i
  match m, args with
  | .isSetUp, _ => give (.bool c.isSetUp)
  | .setUp, [t, h] => keep (c.setUp t h)
  | .setExecutor, [h] => keep (c.setExecutor h)
  | .setTemplate, [t] => keep (c.setTemplate t)
  | .snapshot, [] => do give (← orRaise .configuration c.snapshot).value
  | .getExecutor, [] => do give (← orRaise .configuration c.snapshot).executor
  | .getTemplate, [] => do give (← orRaise .configuration c.snapshot).template
  | .dump, _ => return .dump (.configuration c)
  | _, _ => refuse (.object .configuration i) m args
where
  /-- Keeps the recipe that is now in force. -/
  keep (outcome : Except ConfigurationError Recipe) : Act κ Answer := do
    let r ← orRaise .configuration outcome
    modify (Realm.putConfiguration i (.holding r))
    done

/-! ## Transactions and factories -/

def onTransaction (run : κ → Act κ Unit) (i : Nat) (m : Method) (args : List Value) :
    Act κ Answer :=
  match m, args with
  | .stage, [v] => do Transaction.stage i v; done
  | .pending, _ => do give (.int (← Transaction.pending i))
  | .commit, [] => do Transaction.commit run i; done
  | .rollback, [] => do Transaction.rollback run i; done
  | .dump, _ => do return .dump (.transaction (← Transaction.pending i))
  | _, _ => refuse (.object .transaction i) m args

def onFactory (run : κ → Act κ Unit) (i : Nat) (m : Method) (args : List Value)
    (budget : Option Value) : Act κ Answer := do
  let f := (← get).factory i
  match m, args with
  | .setUp, [t, h] => do Factory.setUp i t h; done
  | .setExecutor, [h] => do Factory.setExecutor i h; done
  | .setTemplate, [t] => do Factory.setTemplate i t; done
  | .executor, [] => do give (← release f.recipe).executor
  | .worldTemplate, [] => do give (← release f.recipe).template
  | .spawn, name :: parts =>
    match partsOf? parts with
    | none => refuse (.object .factory i) m args
    | some (components, systems) => do
      let cs ← release components.items
      let ss ← release systems.items
      give (← Factory.spawn run i name cs ss (budget.getD .null))
  | .spawnRequest, [request] => do give (← Factory.spawnRequest run i request (budget.getD .null))
  | .deploy, [name] => do give (← Factory.deploy run i name)
  | .registerAll, [world, components, systems] => do
    Factory.registerAll run i world components systems (budget.getD .null)
    done
  | .registerAll, [world, components, systems, b] => do
    if budget.isSome then throw (.repeated (callText (.object .factory i) m) "budget")
    Factory.registerAll run i world components systems b
    done
  | .dump, _ => return .dump (.factory f.recipe)
  | _, _ => refuse (.object .factory i) m args

/-! ## Values of any kind -/

/-- How many others are in a value. -/
def lengthOf (v : Value) : Act κ Answer := do
  match (← get).lengthOf? v with
  | none => throw (.noLength v)
  | some n => give (.int n)

/-- What stands in a dictionary under a key, or null. -/
def onDictionary (entries : List (Value × Value)) (m : Method) (args : List Value) :
    Act κ Answer :=
  match m, args with
  | .get, [v] => do
    mustBeKey v
    give (((entries.find? fun e => e.1.key = v.key).map Prod.snd).getD .null)
  | _, _ => refuse (.dictionary entries) m args

/-- How a value answers a call, for which a budget may be handed over. -/
def invoke (run : κ → Act κ Unit) (target : Value) (m : Method) (args : List Value)
    (budget : Option Value) : Act κ Answer := do
  if budget.isSome && (signature? target m).isSome && !takesBudget target m then
    throw (.unexpected (callText target m) "budget")
  match m with
  | .len => lengthOf target
  | _ =>
    match target with
    | .dictionary entries => onDictionary entries m args
    | .object .catalog i => onCatalog i m args
    | .object .allocator i => onAllocator i m args
    | .object .ledger i => onLedger i m args
    | .object .eventLog i => onEventLog run i m args
    | .object .scriptSink i => onSink run .scriptSink i m args
    | .object .budget i => onBudget i m args
    | .object .configuration i => onConfiguration i m args
    | .object .transaction i => onTransaction run i m args
    | .object .factory i => onFactory run i m args budget
    | .world i h _ => onWorld i h m args
    | other => refuse other m args

/-- How a value answers a deployment with strangers at some of the places of the arguments. Nothing
but a ledger looks at them: anything else is called with the values that hold these places. -/
def deployWith (run : κ → Act κ Unit) (strangers : List (Nat × Stranger)) (target : Value)
    (args : List Value) (budget : Option Value) : Act κ Answer :=
  match target, args, budget with
  | .object .ledger i, [given, .list items], none => do
    give (← Act.onSite i fun c => Site.deploy c given (Argument.withStrangers items strangers))
  | _, _, _ => invoke run target .deploy args budget

end Call

end WorldForge.Scenario

import WorldForge.Ledger.Allocator
import WorldForge.Ledger.World

/-!
# The ledger

A ledger deploys executors and worlds from a catalog's templates, tells which instances are alive
and which template each came from, and hands out its worlds. Every operation either yields a new
ledger or a refusal, and a refusal leaves no ledger behind that could differ from the old one.

A destroyed world leaves the live ones, but is kept: whoever holds it may go on using it.
-/

namespace WorldForge

/-- The state of a ledger. -/
structure Ledger where
  allocator : Allocator
  /-- The template of every live instance. -/
  templates : Table Key Value
  /-- The live worlds, in the order of deployment. -/
  worlds : Table Key World
  /-- The worlds that have been destroyed. -/
  retired : Table Key World

namespace Ledger

/-- The ledger on which nothing has been deployed. -/
def empty : Ledger := ⟨.fromFirst, .empty, .empty, .empty⟩

instance : Inhabited Ledger := ⟨empty⟩

/-! ## Questions -/

def isAlive (l : Ledger) (given : Value) : Bool := l.allocator.isAlive given.key

/-- The live world at a handle. -/
def liveWorld? (l : Ledger) (given : Value) : Option World := l.worlds.find? given.key

/-- The world that was deployed at a handle, alive or not. -/
def world? (l : Ledger) (h : InstanceHandle) : Option World :=
  (l.worlds.find? h.key).or (l.retired.find? h.key)

/-- The template that a live instance was deployed from. -/
def templateOf (l : Ledger) (given : Value) : Except LedgerError Value :=
  match l.templates.find? given.key with
  | none => .error (.noInstance given)
  | some template => .ok template

/-- The live world at a handle, to register parts in. -/
def dispatcher (l : Ledger) (given : Value) : Except LedgerError World :=
  match l.liveWorld? given with
  | none => .error (.noWorld given)
  | some w => .ok w

/-! ## Deployment -/

/-- What a deployment makes. -/
inductive Plan where
  | executor (template : Value)
  | world (template : Value) (name : Text) (executor : InstanceHandle)

/-- The name of a new world: a text that is not empty. -/
def nameFrom : Argument → Except LedgerError Text
  | .value (.str name) => if name = "" then .error (.worldName (.str name)) else .ok name
  | .value other => .error (.worldName other)
  | .stranger o => .error (.telling .strangerName o.literal)

/-- Whether an instance is alive and no world. A world is alive too, but nothing runs on it. -/
def isLiveExecutor (l : Ledger) (h : InstanceHandle) : Bool :=
  !l.worlds.contains h.key && l.allocator.isAlive h.key

/-- The executor of a new world: a handle, that of an instance that is alive and no world. -/
def executorFrom (l : Ledger) : Argument → Except LedgerError InstanceHandle
  | .value (.handle h) => if l.isLiveExecutor h then .ok h else .error (.executorNotLive h)
  | .value other => .error (.executorType other)
  | .stranger o =>
    match o.handle? with
    | none => .error (.telling .strangerExecutor o.literal)
    | some (.error e) => .error (.untold e)
    | some (.ok none) => .error (.telling .strangerNotLive o.text)
    | some (.ok (some n)) =>
      if l.isLiveExecutor (.ofInt n) then .ok (.ofInt n)
      else .error (.telling .strangerNotLive o.text)

/-- Checks the arguments for a new world: a name that is not empty, and a live executor. -/
def checkWorldArguments (l : Ledger) (template : Value) :
    List Argument → Except LedgerError Plan
  | [name, executor] =>
    match nameFrom name with
    | .error e => .error e
    | .ok text =>
      match l.executorFrom executor with
      | .error e => .error e
      | .ok h => .ok (.world template text h)
  | args => .error (.worldArguments args.length)

/-- The declaration of a template that can be deployed. -/
def deployable (c : Catalog) (given : Value) : Except LedgerError Declaration :=
  match c.get? given with
  | none => .error (.notDeclared given)
  | some d => if d.isDeployable then .ok d else .error (.notDeployable given d.kind)

/-- Checks the arguments for a new instance of a declared template. Only worlds take any. -/
def checkArguments (l : Ledger) (d : Declaration) (template : Value) (args : List Argument) :
    Except LedgerError Plan :=
  if d.isOf .world then l.checkWorldArguments template args
  else if args.isEmpty then .ok (.executor template)
  else .error (.executorArguments args.length)

/-- Decides whether a deployment is accepted, and what it makes. -/
def plan (c : Catalog) (l : Ledger) (given : Value) (args : List Argument) :
    Except LedgerError Plan :=
  match deployable c given with
  | .error e => .error e
  | .ok d => l.checkArguments d given args

/-- Makes a planned instance at the next handle. -/
def place (l : Ledger) (p : Plan) : InstanceHandle × Ledger :=
  let (h, allocator) := l.allocator.allocate
  match p with
  | .executor t => (h, { l with allocator, templates := l.templates.insert h.key t })
  | .world t name executor =>
    (h, { l with
      allocator
      templates := l.templates.insert h.key t
      worlds := l.worlds.insert h.key (.bare h t name executor) })

/-- Deploys an instance: gives its plan and its handle. -/
def deploy (c : Catalog) (l : Ledger) (given : Value) (args : List Argument) :
    Except LedgerError ((Plan × InstanceHandle) × Ledger) :=
  match l.plan c given args with
  | .error e => .error e
  | .ok p => let (h, l') := l.place p; .ok ((p, h), l')

/-- Takes an instance away, given the allocator in which its handle is dead. -/
def remove (l : Ledger) (k : Key) (allocator : Allocator) : Ledger where
  allocator := allocator
  templates := l.templates.erase k
  worlds := l.worlds.erase k
  retired :=
    match l.worlds.find? k with
    | none => l.retired
    | some w => l.retired.insert k w

/-- Destroys a live instance. -/
def destroy (l : Ledger) (given : Value) : Except LedgerError (Unit × Ledger) :=
  match l.allocator.deallocate? given.key with
  | none => .error (.noInstance given)
  | some allocator => .ok ((), l.remove given.key allocator)

/-! ## Worlds, alive or not -/

/-- Puts a changed world back where it was. -/
def putWorld (l : Ledger) (w : World) : Ledger :=
  if l.worlds.contains w.handle.key then { l with worlds := l.worlds.insert w.handle.key w }
  else { l with retired := l.retired.insert w.handle.key w }

/-- Registers a template in a world, and gives its declaration. -/
def register (c : Catalog) (l : Ledger) (world : InstanceHandle) (k : PartKind)
    (given : Value) : Except LedgerError (Declaration × Ledger) :=
  match l.world? world with
  | none => .error (.noWorld world)
  | some w =>
    match w.register c k given with
    | .error e => .error e
    | .ok (d, w') => .ok (d, l.putWorld w')

/-- Removes a template's registration in a world. -/
def deregister (l : Ledger) (world : InstanceHandle) (k : PartKind) (given : Value) :
    Except LedgerError (Unit × Ledger) :=
  match l.world? world with
  | none => .error (.noWorld world)
  | some w =>
    match w.deregister k given with
    | .error e => .error e
    | .ok w' => .ok ((), l.putWorld w')

end Ledger

end WorldForge

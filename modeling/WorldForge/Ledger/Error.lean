import WorldForge.Ledger.Argument
import WorldForge.Value.Literal

/-!
# Why a ledger refuses

The causes for which a ledger, or a world on it, turns a call down. Each has a kind, by which
callers tell refusals apart, and a message.

A refusal of a stranger tells how the stranger is written down, or shown. If this raises an error,
there is no refusal to tell of, and the error is raised in its place (`LedgerError.untold`). -/

namespace WorldForge

/-- Why a ledger or one of its worlds refuses a call. -/
inductive LedgerError where
  /-- Only declared templates are deployed. -/
  | notDeclared (given : Value)
  /-- Components and systems are registered, never deployed. -/
  | notDeployable (given kind : Value)
  | executorArguments (count : Nat)
  | worldArguments (count : Nat)
  | worldName (given : Value)
  | executorType (given : Value)
  /-- A world runs on an executor that is alive; another world is none. -/
  | executorNotLive (h : InstanceHandle)
  /-- A stranger stands for the name of a world. -/
  | strangerName (literal : Text)
  /-- A stranger that is no handle stands for an executor. -/
  | strangerExecutor (literal : Text)
  /-- A stranger that is a handle, but not that of a live executor. -/
  | strangerNotLive (text : Text)
  /-- A stranger raised an error when it was looked at. -/
  | untold (e : Raised)
  | partNotDeclared (world : Text) (given : Value)
  | partKind (world : Text) (given actual : Value) (expected : PartKind)
  /-- A world holds each name once per kind of part. -/
  | partTaken (world : Text) (kind : PartKind) (name : Value)
  | partNotRegistered (world : Text) (kind : PartKind) (given : Value)
  | partNameUnknown (world : Text) (kind : PartKind) (given : Value)
  | noInstance (given : Value)
  | noWorld (given : Value)

namespace LedgerError

def kind : LedgerError → ErrorKind
  | notDeclared _ | notDeployable .. | executorArguments _ | worldArguments _ | worldName _
  | executorType _ | executorNotLive _ | strangerName _ | strangerExecutor _
  | strangerNotLive _ => .deployRejected
  | untold e => e.kind
  | partNotDeclared .. | partKind .. | partTaken .. => .dispatchRejected
  | partNotRegistered .. | partNameUnknown .. => .notRegistered
  | noInstance _ | noWorld _ => .unknownInstance

/-- The start of every refusal by a world. -/
def inWorld (name : Text) : String := "World " ++ Text.quoted name ++ ": "

def message : LedgerError → Text
  | notDeclared v => "Template " ++ v.plain ++ " is not declared"
  | notDeployable v kind =>
    "Template " ++ v.plain ++ " (" ++ kind.nameText ++ ") cannot be deployed"
  | executorArguments n => "Executor template takes no constructor args, got " ++ toString n
  | worldArguments n =>
    "World template takes (name, executor), got " ++ toString n ++ " args"
  | worldName v => "World name must be a non-empty str, got " ++ v.literal
  | executorType v => "Executor must be an InstanceHandle, got " ++ v.literal
  | executorNotLive h => h.text ++ " is not a live executor"
  | strangerName literal => "World name must be a non-empty str, got " ++ literal
  | strangerExecutor literal => "Executor must be an InstanceHandle, got " ++ literal
  | strangerNotLive text => text ++ " is not a live executor"
  | untold e => e.message
  | partNotDeclared world v => inWorld world ++ "template " ++ v.plain ++ " not declared"
  | partKind world v actual expected =>
    inWorld world ++ v.plain ++ " is a " ++ actual.nameText ++ " template, expected "
      ++ expected.label
  | partTaken world kind name =>
    inWorld world ++ kind.noun ++ " " ++ name.literal ++ " already registered"
  | partNotRegistered world kind v =>
    inWorld world ++ kind.noun ++ " " ++ v.plain ++ " is not registered"
  | partNameUnknown world kind v =>
    inWorld world ++ "no " ++ kind.noun ++ " registered as " ++ v.literal
  | noInstance v => "No live instance at " ++ v.plain
  | noWorld v => "No live world at " ++ v.plain

/-- Whether it is a refusal that is raised, and no error of a stranger. -/
def isTold : LedgerError → Bool
  | untold _ => false
  | _ => true

/-- A refusal that tells of a stranger, or the error of the stranger. -/
def telling (refusal : Text → LedgerError) : Except Raised Text → LedgerError
  | .ok text => refusal text
  | .error e => untold e

/-- Every refusal of a ledger belongs to the family of ledger errors. -/
theorem kind_within {e : LedgerError} (h : e.isTold = true) : e.kind.within .ledger = true := by
  cases e with
  | untold e => cases h
  | _ => rfl

end LedgerError

end WorldForge

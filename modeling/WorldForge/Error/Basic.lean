import WorldForge.Budget
import WorldForge.Catalog
import WorldForge.Configuration
import WorldForge.Event
import WorldForge.Ledger.Error
import WorldForge.Settings.Basic
import WorldForge.Signature

/-!
# Errors

An error is the cause for which a call fails. The parts of the library have causes of their own;
what a factory adds is the step that failed, around the error that made it fail. Kind and message
follow from the cause.
-/

namespace WorldForge

/-- Why a call fails. -/
inductive Error where
  /-- Raised on purpose: by a planned fault, by a scenario. -/
  | raised (kind : ErrorKind) (message : Text)
  | catalog (e : CatalogError)
  /-- A handle that is given back is alive. -/
  | notAlive (given : Value)
  | ledger (e : LedgerError)
  | budget (e : BudgetError)
  | configuration (e : ConfigurationError)
  | event (e : EventError)
  /-- Settings do not load. -/
  | settings (report : Settings.Report)
  /-- A transaction ends once. -/
  | transactionClosed
  | deploymentFailed (name : Value) (template : TemplateId) (cause : Error)
  | cannotDispatch (world : Value) (cause : Error)
  | registrationRejected (given : Value) (kind : PartKind) (cause : Error)
  | registrationFailed (name : Value) (world : InstanceHandle) (cause : Error)
  /-- Compensations failed; the cause is the error that called for the rollback. -/
  | rollbackFailed (failures : List Error) (cause : Option Error)
  /-- A value stands where something is needed that gives others one after the other. -/
  | notIterable (given : Value)
  /-- Something is looked up by a value that is no key. -/
  | notKey (refusal : KeyRefusal)
  /-- Something is asked of a value that does not have it. -/
  | lacking (given : Value) (feature : String)
  /-- A value that has no others in it is asked how many. -/
  | noLength (given : Value)
  /-- Handles cannot be counted from a value that is no number. -/
  | noSuccessor (first : Value)
  /-- A call is made with more or fewer arguments than it takes. -/
  | misfit (call : String) (s : Signature) (given : Nat)
  /-- A call is handed an argument by a name that it does not know. -/
  | unexpected (call argument : String)
  /-- A call is handed an argument by its name that it has already. -/
  | repeated (call argument : String)

instance : Inhabited Error := ⟨.transactionClosed⟩

instance : Coe CatalogError Error := ⟨Error.catalog⟩

instance : Coe KeyRefusal Error := ⟨Error.notKey⟩

instance : Coe LedgerError Error := ⟨Error.ledger⟩

instance : Coe BudgetError Error := ⟨Error.budget⟩

instance : Coe ConfigurationError Error := ⟨Error.configuration⟩

namespace Error

def kind : Error → ErrorKind
  | raised k _ => k
  | catalog e => e.kind
  | notAlive _ => .badValue
  | ledger e => e.kind
  | budget e => e.kind
  | configuration e => e.kind
  | event e => e.kind
  | settings _ => .validation
  | transactionClosed => .badState
  | deploymentFailed .. => .deploymentFailed
  | cannotDispatch .. => .registration
  | registrationRejected .. => .registrationRejected
  | registrationFailed .. => .registrationFailed
  | rollbackFailed .. => .rollback
  | notIterable _ | notKey _ | noLength _ | noSuccessor _ => .badType
  | misfit .. | unexpected .. | repeated .. => .badType
  | lacking .. => .lacking

/-- The message of an error. Those around another error end with its message. -/
def message : Error → Text
  | raised _ message => message
  | catalog e => e.message
  | notAlive v => "Cannot deallocate " ++ v.plain ++ ": not alive"
  | ledger e => e.message
  | budget e => e.message
  | configuration e => e.message
  | event e => e.message
  | settings report => report.text
  | transactionClosed => "Transaction already committed or rolled back"
  | deploymentFailed name template cause =>
    "Deploying world " ++ name.literal ++ " from " ++ template.text ++ " failed: "
      ++ cause.message
  | cannotDispatch world cause => "Cannot dispatch to " ++ world.plain ++ ": " ++ cause.message
  | registrationRejected given kind cause =>
    kind.noun ++ " " ++ given.plain ++ " rejected: " ++ cause.message
  | registrationFailed name world cause =>
    "Spawning " ++ name.literal ++ " at " ++ world.text ++ " failed: " ++ cause.message
  | rollbackFailed failures _ =>
    toString failures.length ++ " compensating action(s) failed during rollback"
  | notIterable v => "'" ++ v.typeName ++ "' object is not iterable"
  | notKey refusal => refusal.message
  | lacking v feature => v.lackText feature
  | noLength v => "object of type '" ++ v.typeName ++ "' has no len()"
  | noSuccessor (.str _) => "can only concatenate str (not \"int\") to str"
  | noSuccessor (.list _) => "'int' object is not iterable"
  | noSuccessor v =>
    "unsupported operand type(s) for +=: '" ++ v.typeName ++ "' and 'int'"
  | misfit call s given => s.misfitText call given
  | unexpected call argument =>
    call ++ "() got an unexpected keyword argument '" ++ argument ++ "'"
  | repeated call argument =>
    call ++ "() got multiple values for argument '" ++ argument ++ "'"

/-- The error that made this one come about. -/
def cause? : Error → Option Error
  | deploymentFailed _ _ cause => some cause
  | cannotDispatch _ cause => some cause
  | registrationRejected _ _ cause => some cause
  | registrationFailed _ _ cause => some cause
  | rollbackFailed _ cause => cause
  | _ => none

/-- What failed compensations raised, in the order in which they ran. -/
def failures : Error → List Error
  | rollbackFailed failures _ => failures
  | _ => []

/-- Whether an error is of a family. -/
def within (e : Error) (family : ErrorKind) : Bool := e.kind.within family

end Error

/-- What a value gives one after the other; a value that gives nothing is an error. -/
def Value.items (v : Value) : Except Error (List Value) :=
  match v.items? with
  | none => .error (.notIterable v)
  | some items => .ok items

@[simp] theorem Value.items_list (l : List Value) : (Value.list l).items = .ok l := rfl

end WorldForge

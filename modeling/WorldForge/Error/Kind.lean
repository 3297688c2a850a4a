/-!
# Kinds of errors

Every error belongs to a kind, and kinds form families: whoever handles the family of ledger
errors, say, handles a rejected deployment too. `ErrorKind.within` is that relation.
-/

namespace WorldForge

/-- The kinds of errors. -/
inductive ErrorKind where
  /-- An object is not in a state that allows the call. -/
  | badState
  /-- An argument of the right type has a value that is not allowed. -/
  | badValue
  /-- A text has no bytes. -/
  | unencodable
  /-- An argument has the wrong type. -/
  | badType
  /-- An object lacks what is asked of it. -/
  | lacking
  | lookup
  /-- Settings do not read as what they should be. -/
  | validation
  | factory
  | notInitialized
  | alreadyInitialized
  | spawn
  | deploymentFailed
  | registrationFailed
  | registration
  | outOfBudget
  | registrationRejected
  | rollback
  | ledger
  | deployRejected
  | dispatchRejected
  | notRegistered
  | unknownInstance
  deriving DecidableEq

namespace ErrorKind

/-- The name of a kind. -/
def label : ErrorKind → String
  | badState => "RuntimeError"
  | badValue => "ValueError"
  | unencodable => "UnicodeEncodeError"
  | badType => "TypeError"
  | lacking => "AttributeError"
  | lookup => "LookupError"
  | validation => "ValidationError"
  | factory => "FactoryError"
  | notInitialized => "NotInitializedError"
  | alreadyInitialized => "AlreadyInitializedError"
  | spawn => "SpawnError"
  | deploymentFailed => "DeploymentFailedError"
  | registrationFailed => "RegistrationFailedError"
  | registration => "RegistrationError"
  | outOfBudget => "OutOfBudgetError"
  | registrationRejected => "RegistrationRejectedError"
  | rollback => "RollbackError"
  | ledger => "LedgerError"
  | deployRejected => "DeployRejectedError"
  | dispatchRejected => "DispatchRejectedError"
  | notRegistered => "NotRegisteredError"
  | unknownInstance => "UnknownInstanceError"

def all : List ErrorKind :=
  [badState, badValue, unencodable, badType, lacking, lookup, validation, factory, notInitialized,
   alreadyInitialized, spawn, deploymentFailed, registrationFailed, registration, outOfBudget,
   registrationRejected, rollback, ledger, deployRejected, dispatchRejected, notRegistered,
   unknownInstance]

/-- The kind with a given name. -/
def ofLabel? (s : String) : Option ErrorKind := all.find? fun k => k.label = s

/-- The families that a kind belongs to, itself first, each before the family around it. -/
def families : ErrorKind → List ErrorKind
  | notInitialized => [notInitialized, factory]
  | alreadyInitialized => [alreadyInitialized, factory]
  | spawn => [spawn, factory]
  | deploymentFailed => [deploymentFailed, spawn, factory]
  | registrationFailed => [registrationFailed, spawn, factory]
  | registration => [registration, factory]
  | outOfBudget => [outOfBudget, registration, factory]
  | registrationRejected => [registrationRejected, registration, factory]
  | rollback => [rollback, factory]
  | deployRejected => [deployRejected, ledger]
  | dispatchRejected => [dispatchRejected, ledger]
  | notRegistered => [notRegistered, ledger, lookup]
  | unknownInstance => [unknownInstance, ledger]
  | validation => [validation, badValue]
  | unencodable => [unencodable, badValue]
  | k => [k]

/-- Whether a kind is `family` or belongs to it. -/
def within (k family : ErrorKind) : Bool := family ∈ k.families

/-- The families that a report of a kind's place lists, in this order. -/
def reportedFamilies : List ErrorKind := [factory, ledger, lookup, registration, spawn]

/-- A kind's place among the reported families. -/
def place (k : ErrorKind) : List ErrorKind := reportedFamilies.filter k.within

end ErrorKind

end WorldForge

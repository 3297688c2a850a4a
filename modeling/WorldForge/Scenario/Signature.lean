import WorldForge.Error.Basic
import WorldForge.Scenario.Method

/-!
# What calls take

Every object answers its own calls, each with a signature. Facts about an object, such as how many
steps a budget has left, are asked for without arguments, and any that are handed over are left
aside; they have no signature.
-/

namespace WorldForge.Scenario

/-- The signature of a call that an object of a kind answers. -/
def objectSignature? : ObjectKind → Method → Option Signature
  | .catalog, .declare | .ledger, .declare => some ⟨["name", "kind"], 1⟩
  | .catalog, .get | .catalog, .isDeclared => some (.unary "template_id")
  | .allocator, .deallocate | .allocator, .isAlive => some (.unary "handle")
  | .allocator, .allocate | .allocator, .alive => some .nullary
  | .ledger, .deploy => some ⟨["template_id", "constructor_args"], 0⟩
  | .ledger, .destroy | .ledger, .dispatcher | .ledger, .templateOf | .ledger, .isAlive =>
    some (.unary "handle")
  | .ledger, .liveInstances | .ledger, .worlds => some .nullary
  | .eventLog, .emit | .scriptSink, .emit => some (.unary "event")
  | .eventLog, .ofType => some (.unary "event_type")
  | .eventLog, .clear => some .nullary
  | .budget, .charge => some ⟨[], 1⟩
  | .budget, .isMetered => some .nullary
  | .configuration, .setUp | .factory, .setUp =>
    some ⟨["world_template_id", "executor_handle"], 0⟩
  | .configuration, .setExecutor | .factory, .setExecutor => some (.unary "executor_handle")
  | .configuration, .setTemplate | .factory, .setTemplate => some (.unary "world_template_id")
  | .configuration, .snapshot | .configuration, .getExecutor | .configuration, .getTemplate =>
    some .nullary
  | .transaction, .stage => some (.unary "event")
  | .transaction, .commit | .transaction, .rollback => some .nullary
  | .factory, .executor | .factory, .worldTemplate => some .nullary
  | .factory, .spawn => some ⟨["name"], 2⟩
  | .factory, .spawnRequest => some (.unary "request")
  | .factory, .deploy => some (.unary "name")
  | .factory, .registerAll => some ⟨["world_handle", "component_ids", "system_ids"], 1⟩
  | _, _ => none

/-- The signature of a call that worlds answer. -/
def worldSignature? : Method → Option Signature
  | .register _ | .deregister _ => some (.unary "template_id")
  | .resolve _ => some (.unary "name")
  | .parts _ => some .nullary
  | _ => none

/-- The signature of a call that a value answers. -/
def signature? : Value → Method → Option Signature
  | .object k _, m => objectSignature? k m
  | .world .., m => worldSignature? m
  | _, _ => none

/-- The name of a call, and of whom it belongs to. -/
def callText (target : Value) (m : Method) : String := target.typeName ++ "." ++ m.label

/-- Whether a call can be handed a budget by name. -/
def takesBudget : Value → Method → Bool
  | .object .factory _, .spawn | .object .factory _, .spawnRequest
  | .object .factory _, .registerAll => true
  | _, _ => false

/-- Why a value does not answer a call with a number of arguments: it has no such call, or one with
another signature. -/
def unanswered (target : Value) (m : Method) (given : Nat) : Error :=
  match signature? target m with
  | none => .lacking target m.label
  | some s => .misfit (callText target m) s given

end WorldForge.Scenario

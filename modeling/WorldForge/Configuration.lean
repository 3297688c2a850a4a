import WorldForge.Error.Kind
import WorldForge.Recipe

/-!
# The configuration of a factory

A configuration holds the recipe in force, or none at first. It is set up exactly once; after
that, each of the recipe's two fields can be set by itself. What is handed over is checked for the
family of its identifier, after the state of the configuration. Each operation gives the recipe
that is in force after it; where it gives an error, nothing has changed.

* `setUp_eq_ok_iff`, `setExecutor_eq_ok_iff`, `setTemplate_eq_ok_iff` — when an operation
  succeeds, and with which recipe.
-/

namespace WorldForge

/-- The recipe in force, if there is one. -/
structure Configuration where
  current : Option Recipe
  deriving DecidableEq

/-- Why a configuration refuses a call. -/
inductive ConfigurationError where
  | notSetUp
  | alreadySetUp
  | notTemplate (given : Value)
  | notHandle (given : Value)

namespace ConfigurationError

def kind : ConfigurationError → ErrorKind
  | notSetUp => .notInitialized
  | alreadySetUp => .alreadyInitialized
  | notTemplate _ | notHandle _ => .badType

def message : ConfigurationError → String
  | notSetUp => "Factory config is not initialized"
  | alreadySetUp => "Factory config is already initialized"
  | notTemplate v => "Expected TemplateId, got " ++ v.typeName
  | notHandle v => "Expected InstanceHandle, got " ++ v.typeName

end ConfigurationError

/-- The template that a value names. -/
def Value.asTemplate : Value → Except ConfigurationError TemplateId
  | .template id => .ok id
  | v => .error (.notTemplate v)

/-- The instance that a value names. -/
def Value.asHandle : Value → Except ConfigurationError InstanceHandle
  | .handle h => .ok h
  | v => .error (.notHandle v)

namespace Configuration

/-- The configuration before it is set up. -/
def blank : Configuration := ⟨none⟩

/-- The configuration with a recipe in force. -/
def holding (r : Recipe) : Configuration := ⟨some r⟩

instance : Inhabited Configuration := ⟨blank⟩

def isSetUp (c : Configuration) : Bool := c.current.isSome

/-- The recipe in force. It is a value: later calls do not change it. -/
def snapshot (c : Configuration) : Except ConfigurationError Recipe :=
  match c.current with
  | none => .error .notSetUp
  | some r => .ok r

/-- Puts a first recipe in force; of two wrong arguments the template is named. -/
def setUp (c : Configuration) (template executor : Value) : Except ConfigurationError Recipe :=
  match c.current with
  | some _ => .error .alreadySetUp
  | none => do
    let t ← template.asTemplate
    let h ← executor.asHandle
    return ⟨t, h⟩

/-- Sets the executor alone. -/
def setExecutor (c : Configuration) (executor : Value) : Except ConfigurationError Recipe := do
  let r ← c.snapshot
  let h ← executor.asHandle
  return { r with executor := h }

/-- Sets the template alone. -/
def setTemplate (c : Configuration) (template : Value) : Except ConfigurationError Recipe := do
  let r ← c.snapshot
  let t ← template.asTemplate
  return { r with template := t }

/-! ## When operations succeed -/

variable {c : Configuration} {r : Recipe} {v w : Value}

/-- A snapshot gives the recipe in force, if there is one. A configuration that has not been set up
has none to give. -/
theorem snapshot_eq_ok_iff : c.snapshot = .ok r ↔ c = holding r := by
  obtain ⟨_ | old⟩ := c <;> simp [snapshot, holding]

/-- A configuration can be set up once, with a template and a handle, which make the recipe that is
in force from then on. -/
theorem setUp_eq_ok_iff :
    c.setUp v w = .ok r ↔ c = blank ∧ v = .template r.template ∧ w = .handle r.executor := by
  obtain ⟨_ | old⟩ := c
  · cases v <;> cases w <;>
      simp [setUp, blank, Value.asTemplate, Value.asHandle, bind, Except.bind, pure, Except.pure,
        Recipe.ext_iff]
  · simp [setUp, blank]

/-- The executor can be replaced once there is a recipe, and only by a handle. The template
stays. -/
theorem setExecutor_eq_ok_iff :
    c.setExecutor v = .ok r ↔
      ∃ old h, c = holding old ∧ v = .handle h ∧ { old with executor := h } = r := by
  obtain ⟨_ | old⟩ := c
  · simp [setExecutor, snapshot, holding, bind, Except.bind]
  · cases v <;>
      simp [setExecutor, snapshot, holding, Value.asHandle, bind, Except.bind, pure, Except.pure]

/-- The template can be replaced once there is a recipe, and only by a template. The executor
stays. -/
theorem setTemplate_eq_ok_iff :
    c.setTemplate v = .ok r ↔
      ∃ old t, c = holding old ∧ v = .template t ∧ { old with template := t } = r := by
  obtain ⟨_ | old⟩ := c
  · simp [setTemplate, snapshot, holding, bind, Except.bind]
  · cases v <;>
      simp [setTemplate, snapshot, holding, Value.asTemplate, bind, Except.bind, pure, Except.pure]

end Configuration

end WorldForge

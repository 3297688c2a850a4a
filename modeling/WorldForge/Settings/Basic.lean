import WorldForge.Recipe
import WorldForge.Settings.Library

/-!
# Settings

A factory can be configured from outside: which template new worlds have, which executor, how many
steps a spawn may take. The three fields are declared here, and a library reads them from the
sources that there are. What it gives back are the settings, from which a factory can be made. -/

namespace WorldForge

namespace Settings

/-- The fields that can be set. -/
inductive Field where
  | worldTemplate
  | executor
  | stepBudget
  deriving DecidableEq

namespace Field

/-- The name of a field. -/
def label : Field → String
  | worldTemplate => "world_template_id"
  | executor => "executor_handle"
  | stepBudget => "step_budget"

/-- The least number that a field takes. Only the budget of steps has one. -/
def least? : Field → Option Int
  | stepBudget => some 0
  | worldTemplate | executor => none

/-- What is declared of a field. -/
def spec (f : Field) : FieldSpec := ⟨f.label, f.least?⟩

/-- The fields in order. -/
def all : List Field := [worldTemplate, executor, stepBudget]

end Field

/-- What is declared of the settings of a factory. -/
def declared : Declared := ⟨"WORLDFACTORY_", Field.all.map Field.spec⟩

end Settings

/-- Settings that have been loaded. -/
structure Settings where
  worldTemplate : Option Int
  executor : Option Int
  stepBudget : Option Int
  deriving DecidableEq

namespace Settings

/-- The value of a field. -/
def get (s : Settings) : Field → Option Int
  | .worldTemplate => s.worldTemplate
  | .executor => s.executor
  | .stepBudget => s.stepBudget

/-- Settings from the values of fields by their names. -/
def ofValues (values : String → Option Int) : Settings where
  worldTemplate := values Field.worldTemplate.label
  executor := values Field.executor.label
  stepBudget := values Field.stepBudget.label

@[simp] theorem get_ofValues (values : String → Option Int) (f : Field) :
    (ofValues values).get f = values f.label := by
  cases f <;> rfl

/-- Loads the settings from sources, by a library; or gives the report of the library. -/
def load {γ : Type} (lib : Library γ) (s : Sources γ) : Except Report Settings :=
  (lib.read declared s).map ofValues

/-- The template that the settings name. -/
def templateId? (s : Settings) : Option TemplateId := s.worldTemplate.map .ofInt

/-- The executor that the settings name. -/
def executorHandle? (s : Settings) : Option InstanceHandle := s.executor.map .ofInt

/-- Whether both identifiers of a recipe are there. -/
def isComplete (s : Settings) : Bool := s.worldTemplate.isSome && s.executor.isSome

/-- The recipe that the settings make, if they are complete. -/
def recipe? (s : Settings) : Option Recipe :=
  s.templateId?.bind fun t => s.executorHandle?.map fun h => ⟨t, h⟩

end Settings

end WorldForge

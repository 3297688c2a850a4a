import WorldForge.Numeral
import WorldForge.Text.Hex

/-!
# Identifiers and kinds

Templates are code that can be deployed or registered, and instances are what a deployment makes.
Each has identifiers of its own, and the two families never meet. Within its family an identifier
stands for its number (`TemplateId.number`, `InstanceHandle.number`), however that was given.

What an identifier holds is checked nowhere. These here are the ones that hold what their type says:
a number, or a truth value, which counts as one. A handle that holds anything else can be met where
a world is deployed, and is a stranger there. -/

namespace WorldForge

/-- Names a template. -/
structure TemplateId where
  value : Numeral
  deriving DecidableEq

/-- Names a deployed instance, alive or dead. -/
structure InstanceHandle where
  value : Numeral
  deriving DecidableEq

/-- What a template is for. -/
inductive TemplateKind where
  | world
  | executor
  | component
  | system
  deriving DecidableEq

/-- What can be registered in a world. -/
inductive PartKind where
  | component
  | system
  deriving DecidableEq

/-! ## Numbers -/

namespace TemplateId

/-- The identifier of a number. -/
def ofInt (n : Int) : TemplateId := ⟨.number n⟩

/-- The number that tells the identifiers of templates apart. -/
def number (id : TemplateId) : Int := id.value.toInt

@[simp] theorem number_ofInt (n : Int) : (ofInt n).number = n := rfl

/-- An identifier is shown by its number in base sixteen. -/
def text (id : TemplateId) : String := Text.hex id.number

end TemplateId

namespace InstanceHandle

/-- The identifier of a number. -/
def ofInt (n : Int) : InstanceHandle := ⟨.number n⟩

/-- The number that tells the identifiers of instances apart. -/
def number (h : InstanceHandle) : Int := h.value.toInt

@[simp] theorem number_ofInt (n : Int) : (ofInt n).number = n := rfl

/-- An identifier is shown by its number in base sixteen. -/
def text (h : InstanceHandle) : String := Text.hex h.number

end InstanceHandle

/-! ## Kinds -/

namespace TemplateKind

/-- The kind's name in capitals, as it stands in messages and in the text that ids derive from. -/
def label : TemplateKind → String
  | world => "WORLD"
  | executor => "EXECUTOR"
  | component => "COMPONENT"
  | system => "SYSTEM"

/-- The kind's number. -/
def number : TemplateKind → Nat
  | world => 1
  | executor => 2
  | component => 3
  | system => 4

/-- Whether templates of this kind can be deployed as instances. -/
def isDeployable : TemplateKind → Bool
  | world | executor => true
  | component | system => false

def all : List TemplateKind := [world, executor, component, system]

/-- The kind with a given label. -/
def ofLabel? (s : String) : Option TemplateKind := all.find? fun k => k.label = s

end TemplateKind

namespace PartKind

/-- The kind that a template must have to be registered as this part. -/
def toTemplateKind : PartKind → TemplateKind
  | component => .component
  | system => .system

def label (k : PartKind) : String := k.toTemplateKind.label

/-- The part's name in running text. -/
def noun : PartKind → String
  | component => "component"
  | system => "system"

end PartKind

instance : Coe PartKind TemplateKind := ⟨PartKind.toTemplateKind⟩

end WorldForge

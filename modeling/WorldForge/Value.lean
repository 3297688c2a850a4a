import WorldForge.Identity
import WorldForge.Text.Basic

/-!
# Values

Callers hand over, and get back, values whose type is only known when they are looked at: a world's
name may turn out to be a number, an executor may turn out to be a template. `Value` is the type
of all of them. Objects that hold state of their own are values by reference: their kind, and a
number that tells them apart.
-/

namespace WorldForge

/-- The kinds of objects that hold state. -/
inductive ObjectKind where
  | catalog
  | allocator
  | ledger
  | eventLog
  | scriptSink
  | budget
  | configuration
  | transaction
  | factory
  deriving DecidableEq

/-- A value of any type. -/
inductive Value where
  | null
  | bool (b : Bool)
  | int (n : Int)
  | str (s : Text)
  | list (items : List Value)
  | dictionary (entries : List (Value × Value))
  | handles (members : List InstanceHandle)
  | template (id : TemplateId)
  | handle (h : InstanceHandle)
  | kind (k : TemplateKind)
  /-- The notification that a world was created. -/
  | worldCreated (h : InstanceHandle)
  /-- What a recipe consists of: a template and an executor, or whatever stands for them. -/
  | recipe (template executor : Value)
  /-- What a declaration consists of: an id, a name and a kind, or whatever stands for them. -/
  | declaration (id name kind : Value)
  /-- What a world is to be made of: its name, its components, its systems. -/
  | request (name : Value) (components systems : List Value)
  /-- The world that a ledger deployed at a handle under a name, alive or not. -/
  | world (ledger : Nat) (h : InstanceHandle) (name : Text)
  | object (kind : ObjectKind) (index : Nat)

instance : Inhabited Value := ⟨.null⟩

/-- The name of an object's kind. -/
def ObjectKind.label : ObjectKind → String
  | catalog => "TemplateCatalog"
  | allocator => "HandleAllocator"
  | ledger => "LocalLedger"
  | eventLog => "EventLog"
  | scriptSink => "ScriptSink"
  | budget => "StepBudget"
  | configuration => "ConfigStore"
  | transaction => "Transaction"
  | factory => "WorldFactory"

namespace Value

/-- The name of a value's type, as messages give it. -/
def typeName : Value → String
  | null => "NoneType"
  | bool _ => "bool"
  | int _ => "int"
  | str _ => "str"
  | list _ => "list"
  | dictionary _ => "dict"
  | handles _ => "frozenset"
  | template _ => "TemplateId"
  | handle _ => "InstanceHandle"
  | kind _ => "TemplateKind"
  | worldCreated _ => "WorldCreated"
  | recipe .. => "FactoryConfig"
  | declaration .. => "TemplateInfo"
  | request .. => "SpawnRequest"
  | world .. => "LocalWorld"
  | object k _ => k.label

def ofNumeral : Numeral → Value
  | .number n => int n
  | .truth b => bool b

/-- The numeral that a value is, if it is one. -/
def numeral? : Value → Option Numeral
  | int n => some (.number n)
  | bool b => some (.truth b)
  | _ => none

@[simp] theorem numeral?_ofNumeral (n : Numeral) : (ofNumeral n).numeral? = some n := by
  cases n <;> rfl

/-- The kind of template that a value is, if it is one. -/
def kind? : Value → Option TemplateKind
  | kind k => some k
  | _ => none

@[simp] theorem kind?_kind (k : TemplateKind) : (kind k).kind? = some k := rfl

/-- The name that a value has, if it has one. -/
def name? : Value → Option Value
  | kind k => some (str k.label)
  | declaration _ name _ => some name
  | request name _ _ => some name
  | world _ _ name => some (str name)
  | _ => none

/-- What is said of a value that has not got what is asked of it. -/
def lackText (v : Value) (feature : String) : String :=
  "'" ++ v.typeName ++ "' object has no attribute '" ++ feature ++ "'"

/-- What a value gives one after the other: a list its items, a text its code points, a dictionary
its keys, a set its members. Other values give nothing. -/
def items? : Value → Option (List Value)
  | list items => some items
  | str s => some (s.points.map str)
  | dictionary entries => some (entries.map Prod.fst)
  | handles members => some (members.map handle)
  | _ => none

/-- Whether a value counts as nothing, as zero does and an empty text. -/
def isNothing : Value → Bool
  | null | bool false | int 0 | str (.whole "") | list [] | dictionary [] | handles [] => true
  | _ => false

end Value

instance : Coe TemplateId Value := ⟨Value.template⟩

instance : Coe InstanceHandle Value := ⟨Value.handle⟩

end WorldForge

import WorldForge.Text.Literal
import WorldForge.Text.Quoted
import WorldForge.Value

/-!
# Literal text of values

Messages and log records show values as they would be written down: texts between quotes, numbers
in base ten, records by the names of their fields. Two identifiers of equal number are told apart
by their type's name, and a number is shown as it was given.
-/

namespace WorldForge

def TemplateId.literal (id : TemplateId) : String :=
  Text.record "TemplateId" [("value", id.value.text)]

def InstanceHandle.literal (h : InstanceHandle) : String :=
  Text.record "InstanceHandle" [("value", h.value.text)]

def TemplateKind.literal (k : TemplateKind) : String :=
  "<TemplateKind." ++ k.label ++ ": " ++ toString k.number ++ ">"

namespace Value

mutual

/-- A value as it would be written down. -/
def literal : Value → String
  | null => Text.nothing
  | bool b => Text.truth b
  | int n => toString n
  | str s => Text.quoted s
  | list items => Text.squareList (literals items)
  | dictionary entries => Text.curlyList (entryLiterals entries)
  | handles [] => "frozenset()"
  | handles members =>
    "frozenset(" ++ Text.curlyList (members.map InstanceHandle.literal) ++ ")"
  | template id => id.literal
  | handle h => h.literal
  | kind k => k.literal
  | worldCreated h => Text.record "WorldCreated" [("handle", h.literal)]
  | recipe t h =>
    Text.record "FactoryConfig" [("world_template_id", literal t), ("executor_handle", literal h)]
  | declaration id name k =>
    Text.record "TemplateInfo"
      [("template_id", literal id), ("name", literal name), ("kind", literal k)]
  | request name components systems =>
    Text.record "SpawnRequest"
      [("name", literal name),
       ("component_ids", Text.roundList (literals components)),
       ("system_ids", Text.roundList (literals systems))]
  | world _ h _ => "<LocalWorld " ++ h.text ++ ">"
  | object k _ => "<" ++ k.label ++ ">"

def literals : List Value → List String
  | [] => []
  | v :: rest => literal v :: literals rest

def entryLiterals : List (Value × Value) → List String
  | [] => []
  | (k, v) :: rest => Text.entry (literal k) (literal v) :: entryLiterals rest

end

/-- A value in running text: a text as it is, an identifier by its number, a kind by its name. -/
def plain : Value → Text
  | str s => s
  | template id => id.text
  | handle h => h.text
  | kind k => "TemplateKind." ++ k.label
  | v => v.literal

/-- A value in running text by its name; a value without a name stands for itself. -/
def nameText (v : Value) : Text := (v.name?.getD v).plain

@[simp] theorem nameText_kind (k : TemplateKind) : (kind k).nameText = k.label := rfl

end Value

end WorldForge

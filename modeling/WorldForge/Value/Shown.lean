import WorldForge.Event

/-!
# What is shown of values

An answer shows a value as plain data: an identifier as a record that holds its text, a dictionary
as the list of its entries, an object by the name of its kind. Plain data is a value again, and
then a record is a dictionary (`Shown.value`).
-/

namespace WorldForge

/-- Plain data. The names in a record are in order. -/
inductive Shown where
  | null
  | bool (b : Bool)
  | int (n : Int)
  | str (s : Text)
  | list (items : List Shown)
  | record (fields : List (String × Shown))

namespace Shown

def ofNumeral : Numeral → Shown
  | .number n => int n
  | .truth b => bool b

/-- What may be missing, with null in its place. -/
def ofOption {α : Type} (shown : α → Shown) : Option α → Shown
  | none => null
  | some a => shown a

mutual

/-- Plain data as a value. -/
def value : Shown → Value
  | null => .null
  | bool b => .bool b
  | int n => .int n
  | str s => .str s
  | list items => .list (values items)
  | record fields => .dictionary (entries fields)

def values : List Shown → List Value
  | [] => []
  | s :: rest => value s :: values rest

def entries : List (String × Shown) → List (Value × Value)
  | [] => []
  | (name, s) :: rest => (.str name, value s) :: entries rest

end

end Shown

/-! ## Identifiers and values -/

def TemplateId.shown (id : TemplateId) : Shown := .record [("t", .str id.text)]

def InstanceHandle.shown (h : InstanceHandle) : Shown := .record [("h", .str h.text)]

def TemplateKind.shown (k : TemplateKind) : Shown := .record [("kind", .str k.label)]

/-- The record of a created world as it is shown. -/
def InstanceHandle.shownCreation (h : InstanceHandle) : Shown :=
  .record [("type", .str worldCreatedType), ("handle", .ofNumeral h.value)]

namespace Value

mutual

/-- What is shown of a value. -/
def shown : Value → Shown
  | null => .null
  | bool b => .bool b
  | int n => .int n
  | str s => .str s
  | list items => .list (shownAll items)
  | dictionary entries => .list (shownEntries entries)
  | handles members => .list (members.map InstanceHandle.shown)
  | template id => id.shown
  | handle h => h.shown
  | kind k => k.shown
  | worldCreated h => .record [("event", h.shownCreation)]
  | recipe t h => .record [("config", .list [shown t, shown h])]
  | declaration id name k => .record [("info", .list [shown id, shown name, shownName k])]
  | request name components systems =>
    .record [("request",
      .list [shown name, .list (shownAll components), .list (shownAll systems)])]
  | world _ h _ => .record [("world", .str h.text)]
  | object k _ => .record [("object", .str k.label)]

/-- A kind is shown by its name, and so is what stands for one. -/
def shownName : Value → Shown
  | kind k => .str k.label
  | declaration _ name _ => shown name
  | request name _ _ => shown name
  | world _ _ name => .str name
  | v => .str v.literal

/-- What is shown of each of several values. -/
def shownAll : List Value → List Shown
  | [] => []
  | v :: rest => shown v :: shownAll rest

/-- What is shown of each entry of a dictionary. -/
def shownEntries : List (Value × Value) → List Shown
  | [] => []
  | (k, v) :: rest => .list [shown k, shown v] :: shownEntries rest

end

end Value

end WorldForge

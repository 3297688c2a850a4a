import WorldForge.Value

/-!
# Values as keys

A value under which something is stored finds it again, and so does every value equal to it. What
counts of a value there is its `Key`: a truth value counts as one or zero, an identifier as the
number of its family, an object as itself. Two keys are equal exactly if the values are.

Only a value that cannot change is a key: lists and dictionaries can change, and so can whatever
holds one. Asking for such a key is refused, and the refusal names the first part that can change.

* `key_template_eq_iff` — identifiers of a family agree by their numbers;
* `asKey_template`, `asKey_handle`, `asKey_str` — identifiers and texts are keys.
-/

namespace WorldForge

/-- What counts of a value when something is looked up by it. -/
inductive Key where
  | null
  | number (n : Int)
  | text (s : Text)
  | template (n : Int)
  | handle (n : Int)
  | kind (k : TemplateKind)
  | worldCreated (n : Int)
  | handles (numbers : List Int)
  | recipe (template executor : Key)
  | declaration (id name kind : Key)
  | request (name components systems : Key)
  | world (ledger : Nat) (n : Int)
  | object (kind : ObjectKind) (index : Nat)
  | list (items : Key)
  | dictionary (entries : Key)
  /-- The end of several keys. -/
  | nil
  /-- The first of several keys, and those after it. -/
  | cons (first rest : Key)
  deriving DecidableEq

def TemplateId.key (id : TemplateId) : Key := .template id.number

def InstanceHandle.key (h : InstanceHandle) : Key := .handle h.number

/-- The refusal of a value as a key, because a part of it can change. -/
structure KeyRefusal where
  part : Value

def KeyRefusal.message (r : KeyRefusal) : String := "unhashable type: '" ++ r.part.typeName ++ "'"

namespace Value

mutual

/-- What counts of a value. -/
def key : Value → Key
  | null => .null
  | bool b => .number (if b then 1 else 0)
  | int n => .number n
  | str s => .text s
  | list items => .list (keyOfAll items)
  | dictionary entries => .dictionary (keyOfEntries entries)
  | handles members => .handles ((members.map InstanceHandle.number).mergeSort (· ≤ ·))
  | template id => id.key
  | handle h => h.key
  | kind k => .kind k
  | worldCreated h => .worldCreated h.number
  | recipe t h => .recipe (key t) (key h)
  | declaration id name k => .declaration (key id) (key name) (key k)
  | request name components systems =>
    .request (key name) (keyOfAll components) (keyOfAll systems)
  | world l h _ => .world l h.number
  | object k i => .object k i

/-- What counts of several values. -/
def keyOfAll : List Value → Key
  | [] => .nil
  | v :: rest => .cons (key v) (keyOfAll rest)

/-- What counts of the entries of a dictionary. -/
def keyOfEntries : List (Value × Value) → Key
  | [] => .nil
  | (k, v) :: rest => .cons (.cons (key k) (key v)) (keyOfEntries rest)

end

@[simp] theorem key_str (s : Text) : (str s).key = .text s := by simp [key]

@[simp] theorem key_kind (k : TemplateKind) : (kind k).key = .kind k := by simp [key]

@[simp] theorem key_template (id : TemplateId) : (template id).key = id.key := by simp [key]

@[simp] theorem key_handle (h : InstanceHandle) : (handle h).key = h.key := by simp [key]

/-- Two identifiers of templates are the same key exactly if they have the same number, in whichever
form it was given. -/
theorem key_template_eq_iff {i j : TemplateId} :
    (template i).key = (template j).key ↔ i.number = j.number := by
  simp [TemplateId.key]

mutual

/-- The first part of a value that can change. -/
def changeable? : Value → Option Value
  | list items => some (list items)
  | dictionary entries => some (dictionary entries)
  | recipe t h => (changeable? t).or (changeable? h)
  | declaration id name k => (changeable? id).or ((changeable? name).or (changeable? k))
  | request name components systems =>
    (changeable? name).or ((firstChangeable? components).or (firstChangeable? systems))
  | _ => none

/-- The first part of several values that can change. -/
def firstChangeable? : List Value → Option Value
  | [] => none
  | v :: rest => (changeable? v).or (firstChangeable? rest)

end

/-- The key that a value is. -/
def asKey (v : Value) : Except KeyRefusal Key :=
  match v.changeable? with
  | none => .ok v.key
  | some part => .error ⟨part⟩

@[simp] theorem asKey_str (s : Text) : (str s).asKey = .ok (.text s) := by
  simp [asKey, changeable?]

@[simp] theorem asKey_kind (k : TemplateKind) : (kind k).asKey = .ok (.kind k) := by
  simp [asKey, changeable?]

@[simp] theorem asKey_template (id : TemplateId) : (template id).asKey = .ok id.key := by
  simp [asKey, changeable?]

@[simp] theorem asKey_handle (h : InstanceHandle) : (handle h).asKey = .ok h.key := by
  simp [asKey, changeable?]

/-- The number of different values in a list, which are told apart as keys. -/
def countDistinct (values : List Value) : Except KeyRefusal Nat :=
  (values.mapM asKey).map fun keys => keys.eraseDups.length

end Value

end WorldForge

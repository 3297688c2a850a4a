import WorldForge.Digest.Sha256
import WorldForge.Error.Kind
import WorldForge.Table
import WorldForge.Value.Key
import WorldForge.Value.Literal

/-!
# The template catalog

A catalog holds what has been declared: a template has an id, a name and a kind, and is found either
by its id or by its kind and name. Declaring the same kind and name again gives the same id. A
template without an id of its own gets one derived from its kind and name, so that the same
declarations yield the same ids in every catalog. The id is derived from bytes, so there is none for
a name in which surrogates stand; under an id of its own such a template can be declared like any
other.

Names are texts and ids are identifiers of templates as a rule, but any value will do for either
that is a key, and so it will for a kind. A catalog gives all of them back as they were given.

* `get?_enter` — what is found by its id after an entry.
-/

namespace WorldForge

/-- A declared template. -/
structure Declaration where
  id : Value
  name : Value
  kind : Value

namespace Declaration

/-- A declaration as a value. -/
def value (d : Declaration) : Value := .declaration d.id d.name d.kind

/-- Whether a template is of a kind. -/
def isOf (d : Declaration) (k : TemplateKind) : Bool := d.kind.kind? = some k

/-- Whether a template is of a kind that is deployed. -/
def isDeployable (d : Declaration) : Bool := d.kind.kind?.any TemplateKind.isDeployable

end Declaration

/-- The declaration that a value is, if it is one. -/
def Value.declaration? : Value → Option Declaration
  | declaration id name k => some ⟨id, name, k⟩
  | _ => none

@[simp] theorem Value.declaration?_value (d : Declaration) : d.value.declaration? = some d := rfl

/-- Declared templates, by id and by kind and name. -/
structure Catalog where
  byId : Table Key Declaration
  byName : Table (Key × Key) Value
  /-- What stands under an id without being a declaration. Declaring never puts it there. -/
  strays : Table Key Value

/-- Why a declaration is refused. -/
inductive CatalogError where
  /-- Every template has a name. -/
  | emptyName
  /-- The kind, the name, or the id is no key. -/
  | notKey (refusal : KeyRefusal)
  /-- What stands for a kind has no name, and one is needed to tell of it or to derive an id. -/
  | namelessKind (given : Value)
  /-- The text that an id is to derive from has no bytes. -/
  | unencodable (e : Text.EncodingError)
  /-- The kind and name are declared under another id. -/
  | alreadyDeclared (kind name existing : Value)
  /-- The id belongs to another declaration. -/
  | idTaken (kind name : Value) (owner : Declaration) (id : Value)

namespace CatalogError

def kind : CatalogError → ErrorKind
  | emptyName => .badValue
  | notKey _ => .badType
  | namelessKind _ => .lacking
  | unencodable _ => .unencodable
  | alreadyDeclared .. | idTaken .. => .badState

def message : CatalogError → Text
  | emptyName => "Template name must not be empty"
  | notKey refusal => refusal.message
  | namelessKind given => given.lackText "name"
  | unencodable e => e.message
  | alreadyDeclared kind name existing =>
    kind.nameText ++ " template " ++ name.literal ++ " already declared as " ++ existing.plain
  | idTaken kind name owner id =>
    "Template ID collision: " ++ kind.nameText ++ " " ++ name.literal ++ " and "
      ++ owner.kind.nameText ++ " " ++ owner.name.literal ++ " share " ++ id.plain

/-- A refusal that tells of kinds. If one of them has no name, that is refused instead. -/
def telling (kinds : List Value) (e : CatalogError) : CatalogError :=
  match kinds.find? fun kind => kind.name?.isNone with
  | none => e
  | some kind => .namelessKind kind

end CatalogError

/-- The text that an id derives from: the name of the kind, a colon, the name. -/
def declarationText (kind name : Text) : Text := kind ++ ":" ++ name

/-- The id of a template that is declared without one: the leading 64 bits of the digest of its
declaration text, if this has bytes to digest. -/
def derivedId (kind name : Text) : Except Text.EncodingError TemplateId :=
  (declarationText kind name).encode.map fun bytes => .ofInt (Digest.sha256 bytes).leading64

namespace Catalog

def empty : Catalog := ⟨.empty, .empty, .empty⟩

instance : Inhabited Catalog := ⟨empty⟩

/-- The catalog that a dictionary is, where anything may stand under an id. Null stands for nothing
there, and by kind and name nothing is found. -/
def ofEntries (entries : List (Value × Value)) : Catalog where
  byId := .ofList (entries.filterMap fun e => e.2.declaration?.map fun d => (e.1.key, d))
  byName := .empty
  strays :=
    .ofList <| entries.filterMap fun e =>
      match e.2, e.2.declaration? with
      | .null, _ | _, some _ => none
      | v, none => some (e.1.key, v)

/-- The declaration under an id. -/
def get? (c : Catalog) (id : Value) : Option Declaration := c.byId.find? id.key

/-- What stands under an id in place of a declaration. -/
def stray? (c : Catalog) (id : Value) : Option Value := c.strays.find? id.key

def isDeclared (c : Catalog) (id : Value) : Bool := (c.get? id).isSome

/-- The id under which a kind and name are declared. -/
def idOf? (c : Catalog) (kind name : Value) : Option Value :=
  c.byName.find? (kind.key, name.key)

/-- The number of declarations. -/
def size (c : Catalog) : Nat := c.byId.size

/-- Enters a declaration in both tables. -/
def enter (c : Catalog) (d : Declaration) : Catalog :=
  ⟨c.byId.insert d.id.key d, c.byName.insert (d.kind.key, d.name.key) d.id, c.strays⟩

/-- A declaration that is entered is found by its own id, whatever was there before, and what is
found by any other id is as it was. -/
theorem get?_enter (c : Catalog) (d : Declaration) (id : Value) :
    (c.enter d).get? id = if id.key = d.id.key then some d else c.get? id :=
  c.byId.find?_insert d.id.key id.key d

/-- The id of an entered declaration is found by its kind and name, and the id of any other kind or
name is as it was. -/
theorem idOf?_enter (c : Catalog) (d : Declaration) (kind name : Value) :
    (c.enter d).idOf? kind name =
      if (kind.key, name.key) = (d.kind.key, d.name.key) then some d.id else c.idOf? kind name :=
  c.byName.find?_insert (d.kind.key, d.name.key) (kind.key, name.key) d.id

/-- Adds a template of a new kind and name, unless its id is taken. -/
def add (c : Catalog) (kind name id : Value) :
    Except CatalogError (Value × Catalog) :=
  match id.asKey with
  | .error refusal => .error (.notKey refusal)
  | .ok _ =>
    match c.get? id with
    | some owner => .error (.telling [kind, owner.kind] (.idTaken kind name owner id))
    | none => .ok (id, c.enter ⟨id, name, kind⟩)

/-- The id of a new declaration: the given one, else the derived one. -/
def idFor (kind name : Value) : Option Value → Except CatalogError Value
  | some id => .ok id
  | none =>
    match kind.name? with
    | none => .error (.namelessKind kind)
    | some kindName =>
      match derivedId kindName.plain name.plain with
      | .error e => .error (.unencodable e)
      | .ok id => .ok id

/-- Declares a template and gives its id: the one it has if kind and name are declared already,
else the given id, else the derived one. A name that counts as nothing is empty. -/
def declare (c : Catalog) (kind name : Value) (id : Option Value) :
    Except CatalogError (Value × Catalog) :=
  if name.isNothing then .error .emptyName
  else
    match kind.asKey, name.asKey with
    | .error refusal, _ | _, .error refusal => .error (.notKey refusal)
    | .ok _, .ok _ =>
      match c.idOf? kind name with
      | some existing =>
        if id.all (·.key = existing.key) then .ok (existing, c)
        else .error (.telling [kind] (.alreadyDeclared kind name existing))
      | none =>
        match idFor kind name id with
        | .error e => .error e
        | .ok id => c.add kind name id

end Catalog

end WorldForge

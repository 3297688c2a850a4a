import WorldForge.Catalog
import WorldForge.Ledger.Error

/-!
# Worlds

A deployed world knows its handle, its template, its name and its executor, and keeps one roster
for each kind of part: which template is registered under which name, in the order of
registration. A template is registered under the name that it was declared with, so a roster holds
a name once. A world answers the same way after it has been destroyed.
-/

namespace WorldForge

/-- A registered template, and the name that it was declared with. -/
structure Registration where
  name : Value
  template : Value

/-- Registrations by name, in the order in which they were made. -/
abbrev Roster := Table Key Registration

/-- A roster as a value: the templates by their names. -/
def Roster.value (r : Roster) : Value := .dictionary (r.values.map fun e => (e.name, e.template))

/-- A deployed world. -/
structure World where
  handle : InstanceHandle
  template : Value
  name : Text
  executor : InstanceHandle
  components : Roster
  systems : Roster

namespace World

/-- A world as it is deployed, with nothing registered. -/
def bare (handle : InstanceHandle) (template : Value) (name : Text)
    (executor : InstanceHandle) : World :=
  ⟨handle, template, name, executor, .empty, .empty⟩

/-- The roster of one kind of part. -/
def roster (w : World) : PartKind → Roster
  | .component => w.components
  | .system => w.systems

/-- The world with another roster for one kind of part. -/
def withRoster (w : World) (k : PartKind) (r : Roster) : World :=
  match k with
  | .component => { w with components := r }
  | .system => { w with systems := r }

/-- The two rosters of a world are apart from each other. -/
theorem roster_withRoster (w : World) (k j : PartKind) (r : Roster) :
    (w.withRoster k r).roster j = if j = k then r else w.roster j := by
  cases k <;> cases j <;> rfl

/-- Registers a template under its declared name, and gives its declaration. -/
def register (c : Catalog) (k : PartKind) (given : Value) (w : World) :
    Except LedgerError (Declaration × World) :=
  match c.get? given with
  | none => .error (.partNotDeclared w.name given)
  | some d =>
    if !d.isOf k.toTemplateKind then .error (.partKind w.name given d.kind k)
    else if (w.roster k).contains d.name.key then .error (.partTaken w.name k d.name)
    else .ok (d, w.withRoster k ((w.roster k).insert d.name.key ⟨d.name, given⟩))

/-- The key of the name under which a template is registered. -/
def nameOf? (w : World) (k : PartKind) (given : Value) : Option Key :=
  ((w.roster k).entries.find? fun e => e.2.template.key = given.key).map Prod.fst

/-- Removes the registration of a template. -/
def deregister (k : PartKind) (given : Value) (w : World) : Except LedgerError World :=
  match w.nameOf? k given with
  | none => .error (.partNotRegistered w.name k given)
  | some name => .ok (w.withRoster k ((w.roster k).erase name))

/-- The template that is registered under a name. -/
def resolve (w : World) (k : PartKind) (given : Value) : Except LedgerError Value :=
  match (w.roster k).find? given.key with
  | none => .error (.partNameUnknown w.name k given)
  | some r => .ok r.template

end World

end WorldForge

import WorldForge.Factory.Work
import WorldForge.Realm.Entry

/-!
# Realms

A realm holds the objects of a session, the names they are known by, and the trace. Objects refer
to each other by number, so two ledgers can share a catalog and two factories a sink; every object
has a number of its own, whatever its kind.

Sinks and transactions can be given code to run when they are used. What code is does not matter
here: `κ` is its type, and the operations that run it take the way to run it as an argument.
-/

namespace WorldForge

/-- An allocator as an object. One that was made with a value that is no number has nothing to
count from. -/
abbrev AllocatorObject := Except Value Allocator

/-- A ledger as an object: the catalog it deploys from, its state, the faults planned for it. -/
structure LedgerObject where
  /-- The catalog, or whatever was handed over for it. -/
  catalog : Value
  ledger : Ledger
  faults : List Fault

/-- What a sink does when it is told of an event: it runs code, and then it may raise an error. -/
structure Reaction (κ : Type) where
  code : Option κ
  error : Option (ErrorKind × Text)

/-- A sink keeps the events it was told of, oldest first; at the n-th of them it reacts as the n-th
place of its script says. -/
structure Sink (κ : Type) where
  events : List Value
  script : List (Option (Reaction κ))

/-- What a compensation does. -/
inductive Compensation (κ : Type) where
  | leaveLabel (label : Datum)
  | fail (kind : ErrorKind) (message : Text)
  | run (code : κ)

/-- A compensation, and what it is called. -/
structure JournalEntry (κ : Type) where
  description : Text
  action : Compensation κ

/-- A transaction: what is to be undone, newest first, and which events are held back, oldest
first, until it ends. -/
structure Transaction (κ : Type) where
  /-- Whom it tells of the events; null for nobody. -/
  sink : Value
  journal : List (JournalEntry κ)
  staged : List Value
  closed : Bool

/-- A factory: where it deploys, whom it tells, how many steps a spawn may take, and what worlds it
makes. What it was made from is looked at only when it is used, so any value may stand there. -/
structure Factory where
  ledger : Value
  /-- Whom it tells of its worlds; null for nobody. -/
  sink : Value
  /-- The number of steps; null for any number. -/
  stepBudget : Value
  configuration : Configuration

/-- The objects of a session, their names, and what the session has shown. -/
structure Realm (κ : Type) where
  /-- The number that the next object gets. -/
  next : Nat
  catalogs : Table Nat Catalog
  allocators : Table Nat AllocatorObject
  ledgers : Table Nat LedgerObject
  sinks : Table Nat (Sink κ)
  budgets : Table Nat Budget
  configurations : Table Nat Configuration
  transactions : Table Nat (Transaction κ)
  factories : Table Nat Factory
  names : Table String Value
  trace : List Entry

/-- A computation on a realm. -/
abbrev Act (κ : Type) := EStateM Error (Realm κ)

namespace Realm

variable {κ : Type}

def empty : Realm κ :=
  ⟨0, .empty, .empty, .empty, .empty, .empty, .empty, .empty, .empty, .empty, []⟩

instance : Inhabited (Realm κ) := ⟨empty⟩

/-! ## Objects by number

A number under which there is no object of a kind stands for an empty one. -/

def catalog (r : Realm κ) (i : Nat) : Catalog := (r.catalogs.find? i).getD .empty

def allocator (r : Realm κ) (i : Nat) : AllocatorObject :=
  (r.allocators.find? i).getD (.ok default)

/-- What has been declared in what stands for a catalog: a dictionary does if declarations are in
it. -/
def catalogOf (r : Realm κ) : Value → Catalog
  | .object .catalog i => r.catalog i
  | .dictionary entries => .ofEntries entries
  | _ => .empty

def ledger (r : Realm κ) (i : Nat) : LedgerObject := (r.ledgers.find? i).getD ⟨.null, .empty, []⟩

def sink (r : Realm κ) (i : Nat) : Sink κ := (r.sinks.find? i).getD ⟨[], []⟩

def budget (r : Realm κ) (i : Nat) : Budget := (r.budgets.find? i).getD .unmetered

def configuration (r : Realm κ) (i : Nat) : Configuration := (r.configurations.find? i).getD .blank

def transaction (r : Realm κ) (i : Nat) : Transaction κ :=
  (r.transactions.find? i).getD ⟨.null, [], [], true⟩

def factory (r : Realm κ) (i : Nat) : Factory :=
  (r.factories.find? i).getD ⟨.null, .null, .null, .blank⟩

def putCatalog (i : Nat) (c : Catalog) (r : Realm κ) : Realm κ :=
  { r with catalogs := r.catalogs.insert i c }

def putAllocator (i : Nat) (a : AllocatorObject) (r : Realm κ) : Realm κ :=
  { r with allocators := r.allocators.insert i a }

def putLedger (i : Nat) (l : LedgerObject) (r : Realm κ) : Realm κ :=
  { r with ledgers := r.ledgers.insert i l }

def putSink (i : Nat) (s : Sink κ) (r : Realm κ) : Realm κ :=
  { r with sinks := r.sinks.insert i s }

def putBudget (i : Nat) (b : Budget) (r : Realm κ) : Realm κ :=
  { r with budgets := r.budgets.insert i b }

def putConfiguration (i : Nat) (s : Configuration) (r : Realm κ) : Realm κ :=
  { r with configurations := r.configurations.insert i s }

def putTransaction (i : Nat) (t : Transaction κ) (r : Realm κ) : Realm κ :=
  { r with transactions := r.transactions.insert i t }

def putFactory (i : Nat) (f : Factory) (r : Realm κ) : Realm κ :=
  { r with factories := r.factories.insert i f }

/-- Adds an object: `put` stores it under the next number, which is given. -/
def add {α : Type} (put : Nat → α → Realm κ → Realm κ) (a : α) : Act κ Nat := fun r =>
  .ok r.next (put r.next a { r with next := r.next + 1 })

/-! ## Questions about values -/

/-- How many others a value has, if it has any number of them. -/
def lengthOf? (r : Realm κ) : Value → Option Nat
  | .object .catalog i => some (r.catalog i).size
  | .object .eventLog i => some (r.sink i).events.length
  | v => v.items?.map List.length

/-- Whether a value counts as nothing. Of the objects, a catalog without declarations does, and an
event log without events. -/
def countsAsNothing (r : Realm κ) : Value → Bool
  | .object k i => r.lengthOf? (.object k i) = some 0
  | v => v.isNothing

/-- The catalog in which a ledger declares that has a value for its catalog. If that is a ledger,
it is the one in which this ledger declares, and so on for `depth` ledgers at most. Where there is
none, gives the value that does not lead to any. -/
def catalogBehind (r : Realm κ) : Nat → Value → Except Value Nat
  | _, .object .catalog i => .ok i
  | depth + 1, .object .ledger i => r.catalogBehind depth (r.ledger i).catalog
  | _, other => .error other

/-! ## The trace -/

def appendTrace (entries : List Entry) (r : Realm κ) : Realm κ :=
  { r with trace := r.trace ++ entries }

end Realm

namespace Act

variable {κ : Type}

/-- Puts an entry at the end of the trace. -/
def note (e : Entry) : Act κ Unit := modify (Realm.appendTrace [e])

/-- Writes a record. -/
def report (r : LogRecord) : Act κ Unit := note (.log r)

/-- Does something on the site of a ledger, with its catalog at hand. What is reported there goes
to the trace. -/
def onSite {α : Type} (i : Nat) (x : Catalog → SiteM α) : Act κ α := fun r =>
  let o := r.ledger i
  let close (s : Site) : Realm κ :=
    (r.putLedger i { o with ledger := s.ledger, faults := s.faults }).appendTrace (s.log.map .log)
  match x (r.catalogOf o.catalog) (.opened o.ledger o.faults) with
  | .ok a s => .ok a (close s)
  | .error e s => .error e (close s)

end Act

end WorldForge

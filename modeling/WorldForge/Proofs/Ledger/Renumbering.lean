import WorldForge.Factory.Work
import WorldForge.Realm.Basic

/-!
# Renumbering handles

The number of a handle says when the handle was given out. To compare two histories in which a
different number of handles was given out, the handles of one are renumbered: `renumber g` puts
`g n` in the place of the number `n` wherever an instance is named, be it by a caller, in a ledger,
in an error or in an event. A handle that keeps its number is left as it was given.

A value that stands where no instance is named, as a world's name or a template does, is left alone,
even if it happens to be a handle.

* `number_renumber`, `key_renumber` — what a renumbered handle is, and by what it is found;
* `kind_renumber` — an error stays of its kind, and so does whatever is decided by the kind.
-/

namespace WorldForge

/-- Data that may name instances, and what becomes of it when handles get other numbers. -/
class Renumbers (α : Type) where
  renumber : (Int → Int) → α → α

export Renumbers (renumber)

variable {α β ε : Type} {g : Int → Int}

/-! ## Names of instances -/

/-- A handle with another number, unless the number is the same. -/
def InstanceHandle.renumbered (g : Int → Int) (h : InstanceHandle) : InstanceHandle :=
  -- a handle may have been made from a truth value, and then it is shown as one
  if g h.number = h.number then h else .ofInt (g h.number)

instance : Renumbers InstanceHandle := ⟨InstanceHandle.renumbered⟩

/-- A handle that keeps its number stays the very same, also if it was not written plainly. -/
theorem renumber_of_eq {h : InstanceHandle} (hSame : g h.number = h.number) : renumber g h = h :=
  if_pos hSame

/-- A handle that gets another number is written plainly then. -/
theorem renumber_of_ne {h : InstanceHandle} (hNe : g h.number ≠ h.number) :
    renumber g h = .ofInt (g h.number) :=
  if_neg hNe

@[simp] theorem number_renumber (h : InstanceHandle) : (renumber g h).number = g h.number := by
  by_cases hSame : g h.number = h.number
  · rw [renumber_of_eq hSame, hSame]
  · rw [renumber_of_ne hSame, InstanceHandle.number_ofInt]

@[simp] theorem renumber_ofInt (n : Int) : renumber g (InstanceHandle.ofInt n) = .ofInt (g n) := by
  by_cases hSame : g n = n
  · rw [renumber_of_eq (by simpa using hSame), hSame]
  · rw [renumber_of_ne (by simpa using hSame), InstanceHandle.number_ofInt]

/-- What is found by a handle, under the new number. -/
def Key.renumbered (g : Int → Int) : Key → Key
  | .handle n => .handle (g n)
  | .worldCreated n => .worldCreated (g n)
  | k => k

instance : Renumbers Key := ⟨Key.renumbered⟩

/-- A value names an instance if it is a handle, or the notification that a world was created. -/
def Value.renumbered (g : Int → Int) : Value → Value
  | .handle h => .handle (renumber g h)
  | .worldCreated h => .worldCreated (renumber g h)
  | v => v

instance : Renumbers Value := ⟨Value.renumbered⟩

/-- The instances that a value names. -/
def Value.instances : Value → List InstanceHandle
  | .handle h | .worldCreated h => [h]
  | _ => []

@[simp] theorem renumber_handle (h : InstanceHandle) :
    renumber g (Value.handle h) = .handle (renumber g h) := rfl

@[simp] theorem renumber_worldCreated (h : InstanceHandle) :
    renumber g (Value.worldCreated h) = .worldCreated (renumber g h) := rfl

@[simp] theorem InstanceHandle.key_renumber (h : InstanceHandle) :
    (renumber g h).key = renumber g h.key :=
  congrArg Key.handle (number_renumber h)

@[simp] theorem Value.key_renumber (v : Value) : (renumber g v).key = renumber g v.key := by
  cases v with
  | handle h => rw [renumber_handle, key_handle, key_handle, InstanceHandle.key_renumber]
  | worldCreated h =>
    simp only [renumber_worldCreated, key, number_renumber]
    rfl
  | template id =>
    rw [key_template]
    exact key_template id
  | _ =>
    show Value.key _ = renumber g (Value.key _)
    simp only [key]
    rfl

/-- Whether a value can change has nothing to do with the instance that it names. -/
@[simp] theorem Value.changeable?_renumber (v : Value) :
    (renumber g v).changeable? = v.changeable? := by
  cases v with
  | handle h => simp [changeable?]
  | worldCreated h => simp [changeable?]
  | _ => rfl

/-- Where different numbers go over into different ones, so do the keys of handles. The other keys
stay as they are. -/
theorem Key.renumber_injective (hg : Function.Injective g) :
    Function.Injective (renumber g : Key → Key) := by
  intro j k h
  -- only keys of two sorts hold the number of an instance
  cases j <;> cases k <;> first | exact h | cases h | skip
  · rw [hg (Key.handle.inj h)]
  · rw [hg (Key.worldCreated.inj h)]

/-! ## Data that holds such names -/

instance : Renumbers Unit := ⟨fun _ a => a⟩

instance : Renumbers Int := ⟨fun _ a => a⟩

instance : Renumbers Declaration := ⟨fun _ a => a⟩

instance : Renumbers Purse := ⟨fun _ a => a⟩

instance [Renumbers α] : Renumbers (List α) := ⟨fun g => List.map (renumber g)⟩

instance [Renumbers α] : Renumbers (Option α) := ⟨fun g => Option.map (renumber g)⟩

instance [Renumbers α] [Renumbers β] : Renumbers (α × β) :=
  ⟨fun g => Prod.map (renumber g) (renumber g)⟩

instance [Renumbers ε] [Renumbers α] : Renumbers (Except ε α) where
  renumber g := fun
    | .error e => .error (renumber g e)
    | .ok a => .ok (renumber g a)

instance : Renumbers Recipe := ⟨fun g r => { r with executor := renumber g r.executor }⟩

instance : Renumbers Configuration := ⟨fun g c => ⟨renumber g c.current⟩⟩

instance : Renumbers World :=
  ⟨fun g w => { w with handle := renumber g w.handle, executor := renumber g w.executor }⟩

instance : Renumbers Ledger.Plan where
  renumber g := fun
    | .executor t => .executor t
    | .world t name executor => .world t name (renumber g executor)

instance : Renumbers Undo where
  renumber g := fun
    | .destroy h => .destroy (renumber g h)
    | .deregister world k t => .deregister (renumber g world) k t

/-! ## Errors -/

instance : Renumbers LedgerError where
  renumber g := fun
    | .executorType v => .executorType (renumber g v)
    | .executorNotLive h => .executorNotLive (renumber g h)
    | .noInstance v => .noInstance (renumber g v)
    | .noWorld v => .noWorld (renumber g v)
    | e => e

instance : Renumbers ConfigurationError where
  renumber g := fun
    | .notTemplate v => .notTemplate (renumber g v)
    | .notHandle v => .notHandle (renumber g v)
    | e => e

namespace Error

mutual

/-- An error names the instance that it is about, and so may the errors behind it. -/
def renumbered (g : Int → Int) : Error → Error
  | ledger e => ledger (renumber g e)
  | configuration e => configuration (renumber g e)
  | deploymentFailed name template cause => deploymentFailed name template (renumbered g cause)
  | cannotDispatch world cause => cannotDispatch (renumber g world) (renumbered g cause)
  | registrationRejected given kind cause => registrationRejected given kind (renumbered g cause)
  | registrationFailed name world cause =>
    registrationFailed name (renumber g world) (renumbered g cause)
  | rollbackFailed failures none => rollbackFailed (renumberedAll g failures) none
  | rollbackFailed failures (some cause) =>
    rollbackFailed (renumberedAll g failures) (some (renumbered g cause))
  | e => e

def renumberedAll (g : Int → Int) : List Error → List Error
  | [] => []
  | e :: rest => renumbered g e :: renumberedAll g rest

end

instance : Renumbers Error := ⟨renumbered⟩

/-- The errors in a list are renumbered one by one. The definition has its own recursion for them,
as errors can hold errors. -/
theorem renumberedAll_eq (failures : List Error) :
    renumberedAll g failures = renumber g failures := by
  induction failures with
  | nil => rfl
  | cons e rest ih =>
    rw [renumberedAll, ih]
    rfl

end Error

/-! ## Renumbering, part by part -/

@[simp] theorem renumber_purse (p : Purse) : renumber g p = p := rfl

@[simp] theorem renumber_nil [Renumbers α] : renumber g ([] : List α) = [] := rfl

@[simp] theorem renumber_cons [Renumbers α] (a : α) (l : List α) :
    renumber g (a :: l) = renumber g a :: renumber g l := rfl

@[simp] theorem renumber_none [Renumbers α] : renumber g (none : Option α) = none := rfl

@[simp] theorem renumber_some [Renumbers α] (a : α) :
    renumber g (some a) = some (renumber g a) := rfl

@[simp] theorem renumber_pair [Renumbers α] [Renumbers β] (a : α) (b : β) :
    renumber g (a, b) = (renumber g a, renumber g b) := rfl

@[simp] theorem renumber_ok [Renumbers ε] [Renumbers α] (a : α) :
    renumber g (.ok a : Except ε α) = .ok (renumber g a) := rfl

@[simp] theorem renumber_error [Renumbers ε] [Renumbers α] (e : ε) :
    renumber g (.error e : Except ε α) = .error (renumber g e) := rfl

/-- A value stays the same if the instances that it names keep their numbers. -/
theorem Value.renumber_eq_self {v : Value} (h : ∀ x ∈ v.instances, g x.number = x.number) :
    renumber g v = v := by
  cases v with
  | handle x => rw [renumber_handle, renumber_of_eq (h x (.head _))]
  | worldCreated x => rw [renumber_worldCreated, renumber_of_eq (h x (.head _))]
  | _ => rfl

/-- Values stay the same if all handles among them keep their numbers. -/
theorem renumber_values_eq_self {l : List Value}
    (h : ∀ v ∈ l, ∀ x ∈ v.instances, g x.number = x.number) : renumber g l = l := by
  refine Eq.trans (List.map_congr_left fun v hMem => ?_) (List.map_id l)
  exact Value.renumber_eq_self (h v hMem)

/-- What is in two lists is renumbered in each of them by itself. -/
theorem renumber_append [Renumbers α] (l m : List α) :
    renumber g (l ++ m) = renumber g l ++ renumber g m :=
  List.map_append

theorem length_renumber [Renumbers α] (l : List α) : (renumber g l).length = l.length :=
  List.length_map _

@[simp] theorem kind_renumber_ledgerError (e : LedgerError) : (renumber g e).kind = e.kind := by
  cases e <;> rfl

@[simp] theorem kind_renumber_configurationError (e : ConfigurationError) :
    (renumber g e).kind = e.kind := by
  cases e <;> rfl

/-- **An error stays of its kind.** -/
@[simp] theorem kind_renumber (e : Error) : (renumber g e).kind = e.kind := by
  show (Error.renumbered g e).kind = e.kind
  cases e with
  | ledger e => exact kind_renumber_ledgerError e
  | configuration e => exact kind_renumber_configurationError e
  | rollbackFailed failures cause? => cases cause? <;> rfl
  | _ => rfl

/-- An error belongs to the same families of errors, whatever handles its text tells. -/
theorem within_renumber (e : Error) (family : ErrorKind) :
    (renumber g e).within family = e.within family := by
  rw [Error.within, Error.within, kind_renumber]

end WorldForge

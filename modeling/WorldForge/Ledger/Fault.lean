import WorldForge.Error.Basic

/-!
# Planned faults

To see how callers cope, a ledger can be given faults in advance. A fault waits for one kind of
call, lets a number of them pass, and then raises its error in place of as many calls as it is
told. Each call is counted by the faults that wait for it, from the first on, up to the one that
raises.

* `meet_of_forall_ne` — a call that no fault waits for goes through uncounted.
-/

namespace WorldForge

/-- The calls of a ledger, and of the worlds on it, for which a fault can wait. -/
inductive LedgerCall where
  | deploy
  | destroy
  | dispatcher
  | register (k : PartKind)
  | deregister (k : PartKind)
  deriving DecidableEq

namespace LedgerCall

def label : LedgerCall → String
  | deploy => "deploy"
  | destroy => "destroy"
  | dispatcher => "dispatcher"
  | register k => "register_" ++ k.noun
  | deregister k => "deregister_" ++ k.noun

def all : List LedgerCall :=
  [deploy, destroy, dispatcher, register .component, register .system, deregister .component,
   deregister .system]

def ofLabel? (s : String) : Option LedgerCall := all.find? fun c => c.label = s

end LedgerCall

/-- An error that is planned for some calls. -/
structure Fault where
  call : LedgerCall
  kind : ErrorKind
  message : Text
  /-- The number of the call after which calls begin to fail, the first call being number one. -/
  skip : Int
  /-- How many numbers after that one are those of calls that fail; without a count, all are.
  Numbers below one are of no call. -/
  count : Option Int
  /-- How many calls have been counted. -/
  seen : Nat
  deriving DecidableEq

namespace Fault

def error (f : Fault) : Error := .raised f.kind f.message

/-- The fault after one more call. -/
def counted (f : Fault) : Fault := { f with seen := f.seen + 1 }

/-- Whether the last call that was counted is one of those that fail. -/
def strikes (f : Fault) : Bool := f.skip < f.seen && f.count.all (f.seen ≤ f.skip + ·)

/-- The fault that raises an error in place of every call. -/
def always (call : LedgerCall) (e : Error) : Fault := ⟨call, e.kind, e.message, 0, none, 0⟩

/-- Counts a call, and gives the error to raise in its place, if there is one. -/
def meet (c : LedgerCall) : List Fault → Option Error × List Fault
  | [] => (none, [])
  | f :: rest =>
    if f.call = c then
      -- the faults behind one that strikes do not see the call
      if f.counted.strikes then (some f.error, f.counted :: rest)
      else
        let (e, rest') := meet c rest
        (e, f.counted :: rest')
    else
      let (e, rest') := meet c rest
      (e, f :: rest')

/-- A call for which no fault is planned meets none, and leaves the plan as it is, counts
included. -/
theorem meet_of_forall_ne {c : LedgerCall} {faults : List Fault}
    (h : ∀ f ∈ faults, f.call ≠ c) : meet c faults = (none, faults) := by
  induction faults with
  | nil => rfl
  | cons f rest ih =>
    have hFirst : f.call ≠ c := h f (.head _)
    have hRest := ih fun g hg => h g (.tail _ hg)
    simp [meet, hFirst, hRest]

end Fault

end WorldForge

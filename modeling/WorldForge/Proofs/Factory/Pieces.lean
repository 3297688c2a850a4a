import WorldForge.Proofs.Factory.Operation
import WorldForge.Proofs.Keeping

/-!
# The pieces of work

The work of an operation is put together of few pieces: a world is deployed by the recipe, and with
the name that is asked for; a live world is looked up; parts are paid for and registered; and all of
it is recorded. So a condition that each of these pieces keeps is kept by all work, however it comes
out.

Main results:

* `Site.keeps_callBy` — a call on a ledger keeps what its operation keeps;
* `Operation.keeps_work` — the work of an operation keeps what all pieces of work keep.
-/

namespace WorldForge

/-! ## Records -/

/-- Whether a record tells of a new recipe in force. -/
def LogRecord.isSetting : LogRecord → Bool
  | configured _ | executorSet _ | templateSet _ => true
  | _ => false

/-! ## Calls -/

namespace Site

section Calls

-- planned faults have no part in the condition
variable {V : Site → Prop} (hFaults : ∀ s faults, V s → V { s with faults })
include hFaults

/-- The search for a fault keeps a condition that planned faults have no part in. It only counts
calls. -/
theorem keeps_meetFaults (call : LedgerCall) : Keeps V (meetFaults call) := by
  refine leads_of_forall fun s hs => ?_
  cases hMeet : (Fault.meet call s.faults).1 with
  | none =>
    rw [ends_of_ok (meetFaults_of_none hMeet)]
    exact hFaults s _ hs
  | some e =>
    rw [ends_of_error (meetFaults_of_some hMeet)]
    exact hFaults s _ hs

omit hFaults in
/-- What an operation does on a ledger keeps a condition if it does so when it succeeds. -/
theorem keeps_onLedger {α : Type} {op : Ledger → Except LedgerError (α × Ledger)}
    (hOp : ∀ s a l, V s → op s.ledger = .ok (a, l) → V { s with ledger := l }) :
    Keeps V (onLedger op) := by
  refine leads_of_forall fun s hs => ?_
  cases hDone : op s.ledger with
  | error e =>
    have hEnd : onLedger op s = .error e s := by rw [onLedger, hDone]
    rw [ends_of_error hEnd]
    exact hs
  | ok a =>
    rw [ends_of_ok (onLedger_eq_ok_iff.2 ⟨a.2, hDone, rfl⟩)]
    exact hOp s _ _ hs hDone

/-- **A call on a ledger** keeps what its operation keeps. -/
theorem keeps_callBy {α : Type} {key : Value} {flaw : Option Error} {call : LedgerCall}
    {op : Ledger → Except LedgerError (α × Ledger)}
    (hOp : ∀ s a l, V s → op s.ledger = .ok (a, l) → V { s with ledger := l }) :
    Keeps V (callBy key flaw call op) := by
  refine (keeps_meetFaults hFaults call).bind fun _ => (leads_orRaise _ _).bind fun _ => ?_
  exact (Alike.optionForM (fun e => leads_throw e) flaw).bind fun _ => keeps_onLedger hOp

/-- To look up a live world leaves the ledger as it is. -/
theorem keeps_dispatcher (given : Value) : Keeps V (dispatcher given) := by
  refine keeps_callBy hFaults fun s w l hs hFound => ?_
  cases hWorld : s.ledger.dispatcher given with
  | error e =>
    rw [hWorld] at hFound
    cases hFound
  | ok w =>
    rw [hWorld] at hFound
    cases hFound
    exact hs

end Calls

end Site

/-! ## Work -/

/-- What holds of the site of a workbench, and of its purse. -/
structure Workbench.Has (S : Site → Prop) (P : Purse → Prop) (b : Workbench) : Prop where
  site : S b.site
  purse : P b.purse

/-- The name that is asked for, if an operation deploys a world. -/
def Operation.name? : Operation → Option Value
  | spawn name .. | deploy name => some name
  | request given _ => given.name?
  | registerAll .. => none

/-- **What all pieces of work keep**: a condition on sites, and one on purses. Worlds are deployed
by one recipe, and with one name at most. -/
structure Work.Invariant (c : Catalog) (recipe : Recipe) (name? : Option Value)
    (S : Site → Prop) (P : Purse → Prop) : Prop where
  faults : ∀ s faults, S s → S { s with faults }
  reports : ∀ r : LogRecord, r.isSetting = false → Keeps S (Site.report r)
  deploys : ∀ name, name? = some name →
    Keeps S (Site.deploy c recipe.template (Argument.values [name, .handle recipe.executor]))
  registers : ∀ x k given, Keeps S (Site.register c x k given)
  pays : ∀ p q : Purse, P p → p.payStep = .ok q → P q

namespace Work

variable {c : Catalog} {recipe : Recipe} {name? : Option Value} {S : Site → Prop} {P : Purse → Prop}

/-- What is done on the site of a workbench keeps what holds of the site. The purse has no part in
it. -/
theorem keeps_onSite {α : Type} {y : SiteM α} (h : Keeps S y) :
    Keeps (Workbench.Has S P) (onSite y) := by
  refine leads_of_forall fun b hb => ?_
  rw [ends_onSite]
  exact ⟨h.holds hb.site, hb.purse⟩

namespace Invariant

variable (h : Invariant c recipe name? S P)
include h

/-- An entry in the journal keeps what holds of site and purse. It only leaves a record, and this
tells of no new recipe. -/
theorem keeps_enter (u : Undo) : Keeps (Workbench.Has S P) (enter u) := by
  refine Alike.bind (leads_modify fun _ hb => ⟨hb.site, hb.purse⟩) fun _ => ?_
  exact keeps_onSite (h.reports _ rfl)

/-- A step that is paid keeps what holds of purses before and after it, and a step that is not paid
changes nothing. -/
theorem keeps_payStep : Keeps (Workbench.Has S P) payStep := by
  refine leads_of_forall fun b hb => ?_
  cases hPay : payStep b with
  | ok _ b' =>
    obtain ⟨q, hPaid, rfl⟩ := payStep_eq_ok_iff.1 hPay
    rw [ends_of_ok hPay]
    exact ⟨hb.site, h.pays _ _ hb.purse hPaid⟩
  | error e b' =>
    obtain rfl := payStep_eq_error hPay
    rw [ends_of_error hPay]
    exact hb

/-- To deploy the world that is asked for keeps what its pieces keep: the deployment, its entry and
its record. -/
theorem keeps_deployWorld {name : Value} (hName : name? = some name) :
    Keeps (Workbench.Has S P) (deployWorld c recipe name) := by
  refine ((keeps_onSite (h.deploys name hName)).wrapping _ _).bind fun x => ?_
  exact (h.keeps_enter _).bind fun _ => (keeps_onSite (h.reports _ rfl)).bind fun _ =>
    leads_pure x

/-- To register a part keeps what its pieces keep: the payment, the registration, its entry and its
record. -/
theorem keeps_registerPart (x : InstanceHandle) (k : PartKind) (given : Value) :
    Keeps (Workbench.Has S P) (registerPart c x k given) := by
  refine h.keeps_payStep.bind fun _ => ?_
  refine ((keeps_onSite (h.registers x k given)).wrapping _ _).bind fun _ => ?_
  refine (h.keeps_enter _).bind fun _ => leads_get.bind fun b => ?_
  exact (leads_release b.purse.used).bind fun n => keeps_onSite (h.reports _ rfl)

/-- To register parts of one kind keeps what each registration keeps, up to the first that fails. -/
theorem keeps_registerEach (x : InstanceHandle) (k : PartKind) (parts : Value) :
    Keeps (Workbench.Has S P) (registerEach c x k parts) :=
  (leads_release _).bind fun ids => Alike.forM (h.keeps_registerPart x k) ids

/-- To look up a world and to register parts there keeps what these pieces keep. -/
theorem keeps_registerParts (world components systems : Value) :
    Keeps (Workbench.Has S P) (registerParts c world components systems) := by
  refine ((keeps_onSite (Site.keeps_dispatcher h.faults world)).wrapping _ _).bind fun w => ?_
  exact (h.keeps_registerEach w.handle .component components).bind fun _ =>
    h.keeps_registerEach w.handle .system systems

/-- **To make a world keeps what its pieces keep**, also if it stops half the way with an error. -/
theorem keeps_makeWorld {name : Value} (hName : name? = some name)
    (components systems : List Value) :
    Keeps (Workbench.Has S P) (makeWorld c recipe name components systems) := by
  refine (h.keeps_deployWorld hName).bind fun x => ?_
  exact ((h.keeps_registerParts _ _ _).wrapping _ _).bind fun _ => leads_pure x

end Invariant

end Work

/-- **The work of an operation keeps what all pieces of work keep.** -/
theorem Operation.keeps_work (o : Operation) {recipe : Recipe} {c : Catalog} {S : Site → Prop}
    {P : Purse → Prop} (h : Work.Invariant c recipe o.name? S P) :
    Keeps (Workbench.Has S P) (o.work recipe c) := by
  cases o with
  | spawn name components systems budget => exact h.keeps_makeWorld rfl components systems
  | deploy name => exact h.keeps_deployWorld rfl
  | registerAll world components systems budget =>
    exact h.keeps_registerParts world components systems
  | request given budget =>
    by_cases hRequest : ∃ name components systems, given = .request name components systems
    · obtain ⟨name, components, systems, rfl⟩ := hRequest
      exact h.keeps_makeWorld rfl components systems
    -- what is no request has at most a world deployed, and then fails
    · rw [work_of_not_request hRequest]
      unfold misrequest
      split
      · exact leads_throw _
      · rename_i name hName
        exact (h.keeps_deployWorld hName).bind fun _ => leads_throw _

end WorldForge

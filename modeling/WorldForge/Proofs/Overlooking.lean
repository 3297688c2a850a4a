import WorldForge.Proofs.Factory.Work

/-!
# What computations overlook

A computation that makes nothing of some part of its state comes out the same when this part is
changed, and leaves it changed in the same way. It *overlooks* the change. More generally, it may
*turn* one change into another one, if it works on the part without looking at it.

The work of a factory overlooks what has been written to the records before it, and what the journal
held when it began: it only adds to both. And if the calls of a site overlook a change of the
planned faults, so does the work.

Main results:

* `Turns.bind`, `Turns.wrapping`, `Overlooks.forM` — what is put together of parts that overlook a
  change overlooks it;
* `Work.overlooks_deployWorld`, `Work.overlooks_registerParts` — what the work of a factory
  overlooks.
-/

namespace WorldForge

variable {σ α β ε : Type} {φ ψ : σ → σ}

/-- A computation turns one change of its state into another one: where it starts with the first
change, it gives or raises the same as without, and leaves the same state but for the second. -/
def Turns (φ ψ : σ → σ) (x : EStateM Error σ α) : Prop :=
  ∀ s, ends x (φ s) = ((ends x s).1, ψ (ends x s).2)

/-- **A computation overlooks a change of its state**: it gives or raises the same, and leaves the
state that it leaves without the change, with the change. -/
abbrev Overlooks (φ : σ → σ) (x : EStateM Error σ α) : Prop := Turns φ φ x

/-! ## Rules -/

section Parts

variable {x : EStateM Error σ α}

/-- A result alone overlooks every change of the state. -/
theorem overlooks_pure (a : α) : Overlooks φ (pure a : EStateM Error σ α) := fun _ => rfl

theorem overlooks_throw (e : Error) : Overlooks φ (throw e : EStateM Error σ α) := fun _ => rfl

/-- A change of the state overlooks another one if it does not matter which of the two comes
first. -/
theorem overlooks_modify {f : σ → σ} (h : ∀ s, f (φ s) = φ (f s)) :
    Overlooks φ (modify f : EStateM Error σ Unit) :=
  fun s => congrArg (Prod.mk (Except.ok ())) (h s)

/-- To give a result back or to raise an error overlooks every change, since neither looks at the
state. -/
theorem overlooks_release (res : Except Error α) :
    Overlooks φ (release res : EStateM Error σ α) := by
  cases res with
  | ok a => exact overlooks_pure a
  | error e => exact overlooks_throw e

/-- To go on with what a part of the library gives, or to raise its error, overlooks every
change. -/
theorem overlooks_orRaise (wrap : ε → Error) (res : Except ε α) :
    Overlooks φ (orRaise wrap res : EStateM Error σ α) := by
  cases res with
  | ok a => exact overlooks_pure a
  | error e => exact overlooks_throw (wrap e)

/-- **A chain turns a change** as its first link does, if the others overlook what this has become.
-/
theorem Turns.bind {f : α → EStateM Error σ β} (h : Turns φ ψ x)
    (hNext : ∀ a, Overlooks ψ (f a)) : Turns φ ψ (x >>= f) := by
  intro s
  rw [ends_bind, ends_bind, h s]
  rcases ends x s with ⟨e | a, s₁⟩
  · rfl
  · exact hNext a s₁

/-- What goes on with a part of the state that the change leaves alone overlooks the change. -/
theorem Overlooks.get {f : σ → EStateM Error σ β} (hSame : ∀ s, f (φ s) = f s)
    (hNext : ∀ s, Overlooks φ (f s)) : Overlooks φ (get >>= f) := by
  intro s
  show ends (f (φ s)) (φ s) = _
  rw [hSame]
  exact hNext s s

/-- What turns one change into another one does so under a wrapping, which looks at the error and
not at the state. -/
theorem Turns.wrapping (h : Turns φ ψ x) (family : ErrorKind) (wrap : Error → Error) :
    Turns φ ψ (wrapping family wrap x) := by
  intro s
  rw [ends_wrapping, ends_wrapping, h s]

/-- What is done with something that may be missing overlooks a change, if it does so for everything
that may be there. -/
theorem overlooks_optionForM {f : β → EStateM Error σ Unit} (h : ∀ b, Overlooks φ (f b))
    (o : Option β) : Overlooks φ (o.forM f) := by
  cases o with
  | none => exact overlooks_pure ()
  | some b => exact h b

/-- A loop overlooks a change if its body does, whichever of the list it is at. -/
theorem Overlooks.forM {f : β → EStateM Error σ Unit} (h : ∀ b, Overlooks φ (f b)) (l : List β) :
    Overlooks φ (l.forM f) := by
  induction l with
  | nil => exact overlooks_pure ()
  | cons b rest ih => exact Turns.bind (h b) fun _ => ih

end Parts

/-! ## Sites -/

namespace Site

variable {φ : Site → Site} {c : Catalog}

/-- A change of sites that has nothing to do with their ledgers, and not with what is still to be
written to the records. -/
structure Aside (φ : Site → Site) : Prop where
  ledger : ∀ s, (φ s).ledger = s.ledger
  withLedger : ∀ s l, φ { s with ledger := l } = { φ s with ledger := l }
  report : ∀ s r, φ { s with log := s.log ++ [r] } = { φ s with log := (φ s).log ++ [r] }

section Calls

variable (hφ : Aside φ)
include hφ

/-- A record is written behind all others, so it does not matter what has been written before it. -/
theorem overlooks_report (r : LogRecord) : Overlooks φ (report r) :=
  overlooks_modify fun s => (hφ.report s r).symm

/-- An operation of the ledger overlooks a change that is none of the ledger. -/
theorem overlooks_onLedger {op : Ledger → Except LedgerError (α × Ledger)} :
    Overlooks φ (onLedger op) := by
  intro s
  rw [ends, ends, onLedger, onLedger, hφ.ledger]
  cases op s.ledger with
  | error e => rfl
  | ok a => exact congrArg (Prod.mk (Except.ok a.1)) (hφ.withLedger s a.2).symm

/-- A call turns a change as the faults do that it meets. -/
theorem turns_callBy {ψ : Site → Site} {key : Value} {flaw : Option Error} {call : LedgerCall}
    {op : Ledger → Except LedgerError (α × Ledger)} (hMeet : Turns ψ φ (meetFaults call)) :
    Turns ψ φ (callBy key flaw call op) :=
  hMeet.bind fun _ => (overlooks_orRaise _ _).bind fun _ =>
    (overlooks_optionForM (fun e => overlooks_throw e) flaw).bind fun _ => overlooks_onLedger hφ

/-- A deployment overlooks a change of the planned faults if the search for a fault does. Nothing
else in it looks at them. -/
theorem overlooks_deploy (hMeet : Overlooks φ (meetFaults .deploy)) (given : Value)
    (args : List Argument) : Overlooks φ (deploy c given args) :=
  (turns_callBy hφ hMeet).bind fun _ =>
    (overlooks_report hφ _).bind fun _ => overlooks_pure _

/-- To look a world up overlooks a change of the planned faults if the search for a fault does. -/
theorem overlooks_dispatcher (hMeet : Overlooks φ (meetFaults .dispatcher)) (given : Value) :
    Overlooks φ (dispatcher given) :=
  turns_callBy hφ hMeet

/-- A registration turns one change of the planned faults into another one as the search for its
fault does, and makes nothing of them otherwise. -/
theorem turns_register {ψ : Site → Site} {k : PartKind}
    (hMeet : Turns ψ φ (meetFaults (.register k))) (x : InstanceHandle) (given : Value) :
    Turns ψ φ (register c x k given) :=
  (turns_callBy hφ hMeet).bind fun _ => overlooks_report hφ _

end Calls

/-- No change at all has nothing to do with the ledger, and nothing with the records to come. -/
theorem aside_id : Aside id := ⟨fun _ => rfl, fun _ _ => rfl, fun _ _ => rfl⟩

/-- A site whose records begin with some others. -/
def after (log : List LogRecord) (s : Site) : Site := { s with log := log ++ s.log }

/-- To put records in front of those that are there concerns nothing but the records. -/
theorem aside_after (log : List LogRecord) : Aside (after log) where
  ledger _ := rfl
  withLedger _ _ := rfl
  report s r := by simp [after]

/-- Faults do not look at the records. -/
theorem overlooks_meetFaults (log : List LogRecord) (call : LedgerCall) :
    Overlooks (after log) (meetFaults call) := by
  intro s
  cases hMeet : (Fault.meet call s.faults).1 with
  | none =>
    rw [ends_of_ok (meetFaults_of_none hMeet),
      ends_of_ok (meetFaults_of_none (s := s.after log) hMeet)]
    rfl
  | some e =>
    rw [ends_of_error (meetFaults_of_some hMeet),
      ends_of_error (meetFaults_of_some (s := s.after log) hMeet)]
    rfl

end Site

/-! ## Work -/

/-- A workbench on a changed site, with another purse, and with older entries in its journal. -/
def Workbench.over (φ : Site → Site) (pay : Purse → Purse) (older : List Undo) (b : Workbench) :
    Workbench where
  site := φ b.site
  purse := pay b.purse
  journal := b.journal ++ older

namespace Work

variable {φ ψ : Site → Site} {pay : Purse → Purse} {older : List Undo} {c : Catalog}

/-- **What is done on a site** turns changes of the workbench as it turns those of the site. Purse
and journal lie outside. -/
theorem turns_onSite {x : SiteM α} (h : Turns φ ψ x) :
    Turns (Workbench.over φ pay older) (Workbench.over ψ pay older) (onSite x) := by
  intro b
  rw [ends_onSite, ends_onSite]
  show ((ends x (φ b.site)).1, { b.over φ pay older with site := (ends x (φ b.site)).2 }) = _
  rw [h b.site]
  rfl

/-- Paying a step looks at the purse alone, so it overlooks what was written and journaled
before. -/
theorem overlooks_payStep : Overlooks (Workbench.over φ id older) payStep := by
  intro b
  cases hPay : b.purse.payStep with
  | ok p => simp only [ends, payStep, Workbench.over, id, hPay]
  | error e => simp only [ends, payStep, Workbench.over, id, hPay]

section Pieces

variable (hφ : Site.Aside φ)
include hφ

/-- A record of the work overlooks what was written before it. -/
theorem overlooks_report (r : LogRecord) : Overlooks (Workbench.over φ pay older) (report r) :=
  turns_onSite (Site.overlooks_report hφ r)

/-- An entry goes on top of the journal, so it does not matter what the journal holds below. -/
theorem overlooks_enter (u : Undo) : Overlooks (Workbench.over φ pay older) (enter u) :=
  Turns.bind (overlooks_modify fun _ => rfl) fun _ => overlooks_report hφ _

/-- **To deploy a world overlooks what came before it**: older records, an older journal, and a
change of the purse, as it pays nothing. -/
theorem overlooks_deployWorld (hMeet : Overlooks φ (Site.meetFaults .deploy)) (recipe : Recipe)
    (name : Value) : Overlooks (Workbench.over φ pay older) (deployWorld c recipe name) :=
  ((turns_onSite (Site.overlooks_deploy hφ hMeet _ _)).wrapping _ _).bind fun _ =>
    (overlooks_enter hφ _).bind fun _ => (overlooks_report hφ _).bind fun _ => overlooks_pure _

/-- To register a part overlooks older records and an older journal. The purse has to be as it is,
as it pays the step. -/
theorem overlooks_registerPart {k : PartKind}
    (hMeet : Overlooks φ (Site.meetFaults (.register k))) (x : InstanceHandle) (given : Value) :
    Overlooks (Workbench.over φ id older) (registerPart c x k given) := by
  refine overlooks_payStep.bind fun _ => ?_
  refine ((turns_onSite (Site.turns_register hφ hMeet x given)).wrapping _ _).bind
    fun _ => ?_
  refine (overlooks_enter hφ _).bind fun _ => ?_
  -- the report tells of what has been paid
  exact Overlooks.get (fun _ => rfl) fun b =>
    (overlooks_release _).bind fun _ => overlooks_report hφ _

/-- **To register parts overlooks what came before it**: first the world is looked up, and then each
part is registered, and each of these overlooks it. -/
theorem overlooks_registerParts (hDispatcher : Overlooks φ (Site.meetFaults .dispatcher))
    (hRegister : ∀ k, Overlooks φ (Site.meetFaults (.register k)))
    (world components systems : Value) :
    Overlooks (Workbench.over φ id older) (registerParts c world components systems) := by
  have hEach : ∀ x k parts, Overlooks (Workbench.over φ id older) (registerEach c x k parts) :=
    fun x k parts => (overlooks_release _).bind fun ids =>
      .forM (fun given => overlooks_registerPart hφ (hRegister k) x given) ids
  refine ((turns_onSite (Site.overlooks_dispatcher hφ hDispatcher world)).wrapping _ _).bind
    fun w => ?_
  exact (hEach _ _ _).bind fun _ => hEach _ _ _

end Pieces

end Work

end WorldForge

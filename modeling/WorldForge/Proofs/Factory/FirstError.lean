import WorldForge.Proofs.Factory.Stages

/-!
# The first error

The work of an operation is a sequence of calls, and the first of them that raises an error is the
last one. Its error comes to the caller: in the wrap of a failed deployment, of a rejected
registration or of a failed spawn, or as it is. If all calls go through, the sink is told, and its
error comes to the caller, too. After an error, whosesoever it is, there is nothing but undoing.

Main results:

* `Operation.staged_work` — the work of an operation, call by call;
* `Operation.relays_of_error` — what becomes of an error on its way to the caller;
* `Operation.first_error_kept` — how an operation comes out.
-/

namespace WorldForge

variable {κ : Type}

/-- **Nothing but undoing** comes after what has left the workbench `b`. There is a record of it,
every entry of the journal is undone without an error, and that is all that happens in the realm. -/
def Realm.Undone (r : Realm κ) (j : Nat) (b : Workbench) (r' : Realm κ) : Prop :=
  ∃ record os s,
    Unwound Site.report Undo.text Undo.run (.opened b.site.ledger b.site.faults) b.journal os s ∧
      (∀ out ∈ os, out = .ok ()) ∧ r' = (r.appendTrace [.log record]).closed j s

/-- No sink is told of an undoing. -/
theorem Realm.Undone.sinks {r r' : Realm κ} {j : Nat} {b : Workbench} (h : r.Undone j b r') :
    r'.sinks = r.sinks := by
  obtain ⟨record, os, s, -, -, rfl⟩ := h
  rfl

namespace Operation

open Work

variable {run : κ → Act κ Unit} {i j : Nat} {o : Operation} {r r' : Realm κ} {recipe : Recipe}
  {c : Catalog} {p : Budget} {x : InstanceHandle} {stage : Stage} {b b' : Workbench} {e : Error}
  {handed : List InstanceHandle}

/-! ## The stages of an operation -/

/-- The handle of the world that an operation works on. A world that is to be deployed gets the next
handle. -/
def home (l : Ledger) : Operation → InstanceHandle
  | registerAll world .. => ((l.liveWorld? world).map World.handle).getD l.allocator.fresh
  | _ => l.allocator.fresh

/-- The stages of the work of an operation on a world. -/
def stages (x : InstanceHandle) : Operation → List Stage
  | spawn name cs ss _ | request (.request name cs ss) _ => Stage.ofSpawn x name cs ss
  | request given _ => Stage.ofMisrequest given
  | deploy name => [.deploy name]
  | registerAll world components systems _ => Stage.ofRegistration x world components systems

/-- What an operation raises for the error of a stage. -/
def raise (recipe : Recipe) (x : InstanceHandle) : Operation → Stage → Error → Error
  | spawn name .. | request (.request name _ _) _ => Stage.raisedAt recipe name x
  | _ => Stage.raised recipe

/-- The wrap in which an operation raises an error of registrations. -/
def around (x : InstanceHandle) : Operation → Error → Error
  | spawn name .. | request (.request name _ _) _ => .registrationFailed name x
  | _ => id

/-- The work for a value that is no request stops at the latest where its parts are asked for. -/
theorem staged_misrequest (recipe : Recipe) (c : Catalog) (given : Value) (b : Workbench) :
    Staged c recipe (Stage.raised recipe) (Stage.ofMisrequest given) (misrequest recipe c given)
      b := by
  rw [misrequest, Stage.ofMisrequest]
  cases given.name? with
  | none => exact staged_lacking given _ b
  | some name =>
    exact (staged_deployWorld (fun _ => rfl) c b).bind fun _ b₁ _ => staged_lacking given _ b₁

/-- **The work of an operation is the sequence of its stages.** -/
theorem staged_work (o : Operation) (recipe : Recipe) (c : Catalog) (b : Workbench) :
    Staged c recipe (o.raise recipe (o.home b.site.ledger)) (o.stages (o.home b.site.ledger))
      (o.work recipe c) b := by
  cases o with
  | spawn name cs ss budget => exact staged_makeWorld c recipe name cs ss rfl
  | deploy name => exact staged_deployWorld (fun _ => rfl) c b
  | registerAll world components systems budget =>
    refine staged_registerParts c recipe components systems fun w hLive => ?_
    rw [home, hLive]
    rfl
  | request given budget =>
    -- a request goes the way of a spawn; anything else fails on the way
    have hMisrequest := staged_misrequest recipe c given b
    cases given with
    | request name cs ss => exact staged_makeWorld c recipe name cs ss rfl
    | _ => exact hMisrequest

/-! ## The way of an error -/

/-- **What becomes of the error of a stage.** An error of a ledger is wrapped in one that tells of
the call, and a spawn wraps what stops its registrations once more. An exhausted budget stops them,
too. Any other error is raised as it is. -/
inductive Relays (recipe : Recipe) (x : InstanceHandle) (o : Operation) :
    Stage → Error → Error → Prop
  | deployment {name : Value} {e : Error} (hLedger : e.within .ledger = true) :
      Relays recipe x o (.deploy name) e (.deploymentFailed name recipe.template e)
  | dispatch {world : Value} {e : Error} (hLedger : e.within .ledger = true) :
      Relays recipe x o (.dispatcher world) e (o.around x (.cannotDispatch world e))
  | registration {y : InstanceHandle} {k : PartKind} {t : Value} {e : Error}
      (hLedger : e.within .ledger = true) :
      Relays recipe x o (.register y k t) e (o.around x (.registrationRejected t k e))
  | exhausted {limit : Numeral} {used : Int} :
      Relays recipe x o .pay (.budget (.exhausted limit used))
        (o.around x (.budget (.exhausted limit used)))
  | other {stage : Stage} {e : Error} (hLedger : e.within .ledger = false)
      (hRegistration : e.within .registration = false) : Relays recipe x o stage e e

/-- What comes up in a deployment is raised in the same way by all operations that deploy, whatever
they do afterwards. -/
theorem raise_deploy (name : Value) (e : Error) :
    o.raise recipe x (.deploy name) e = Stage.raised recipe (.deploy name) e := by
  cases o with
  | request given budget => cases given <;> rfl
  | _ => rfl

/-- Once a world is there, an error of registrations is raised in the wrap of the operation. -/
theorem raise_of_ne_deploy (hStage : ∀ name, stage ≠ .deploy name) (e : Error) :
    o.raise recipe x stage e =
      if (Stage.raised recipe stage e).within .registration then
        o.around x (Stage.raised recipe stage e) else Stage.raised recipe stage e := by
  have hSpawn : ∀ name, Stage.raisedAt recipe name x stage e =
      raisedFor name x (Stage.raised recipe stage e) := by
    intro name
    cases stage with
    | deploy name' => exact absurd rfl (hStage name')
    | _ => rfl
  have hPlain : Stage.raised recipe stage e =
      if (Stage.raised recipe stage e).within .registration then
        id (Stage.raised recipe stage e) else Stage.raised recipe stage e := (ite_self _).symm
  -- only a spawn, by itself or on request, names its world in an error
  cases o with
  | spawn name cs ss budget => exact hSpawn name
  | request given budget =>
    cases given with
    | request name cs ss => exact hSpawn name
    | _ => exact hPlain
  | _ => exact hPlain

/-- **Every error of a stage is relayed** in what the operation raises for it. -/
theorem relays_of_error (h : Fair b) (hRun : stage.run c recipe b = .error e b') :
    o.Relays recipe x stage e (o.raise recipe x stage e) := by
  rcases h.error_cases hRun with
    ⟨rfl, limit, used, rfl⟩ | ⟨hStage, hRegistration⟩
  · rw [raise_of_ne_deploy (fun name hEq => by cases hEq)]
    exact .exhausted
  cases hLedger : e.within .ledger with
  -- an error that is of neither family is wrapped nowhere
  | false =>
    have hRaised : Stage.raised recipe stage e = e := by
      cases stage <;> simp [Stage.raised, hLedger]
    have hSame : o.raise recipe x stage e = e := by
      by_cases hDeploy : ∃ name, stage = .deploy name
      · obtain ⟨name, rfl⟩ := hDeploy
        rw [raise_deploy, hRaised]
      · rw [raise_of_ne_deploy (fun name hEq => hDeploy ⟨name, hEq⟩), hRaised, hRegistration]
        rfl
    rw [hSame]
    exact .other hLedger hRegistration
  | true =>
    cases stage with
    | deploy name =>
      rw [raise_deploy, Stage.raised, if_pos hLedger]
      exact .deployment hLedger
    | dispatcher world =>
      rw [raise_of_ne_deploy (fun name hEq => by cases hEq), Stage.raised, if_pos hLedger]
      exact .dispatch hLedger
    | register y k t =>
      rw [raise_of_ne_deploy (fun name hEq => by cases hEq), Stage.raised, if_pos hLedger]
      exact .registration hLedger
    -- nothing but a call of a ledger raises an error of a ledger
    | pay => exact absurd rfl hStage
    | notIterable parts =>
      cases hRun
      cases hLedger
    | lacking given feature =>
      cases hRun
      cases hLedger

/-! ## How operations come out -/

/-- **How an operation comes out that keeps its first error.** The calls of its work are made one
after the other. At the first one that raises an error the operation stops, and what it raises is
this error, relayed. If there is none, the sink is told, and an error of the sink is raised as it
is. In both cases the undoing comes next, and is all that comes. Otherwise the operation succeeds.
-/
inductive KeepsFirst (run : κ → Act κ Unit) (i j : Nat) (recipe : Recipe) (o : Operation)
    (p : Budget) (r : Realm κ) : Except Error o.Result → Realm κ → Prop
  | stopped {done later : List Stage} {stage : Stage} {b₁ b : Workbench} {e₀ e : Error} {n : Nat}
      {r₁ r' : Realm κ}
      (hStages : o.stages (o.home (r.ledger j).ledger) = done ++ stage :: later)
      (hDone : done.forM (Stage.run (r.catalogFor j) recipe) ⟨r.site j, .budget p, []⟩ =
        .ok () b₁)
      (hRaised : stage.run (r.catalogFor j) recipe b₁ = .error e₀ b)
      (hRelays : o.Relays recipe (o.home (r.ledger j).ledger) stage e₀ e)
      (hWorked : r.Worked j o.budget n b.site r₁) (hUndone : r₁.Undone j b r')
      (hSilent : r'.sinks = r.sinks) : KeepsFirst run i j recipe o p r (.error e) r'
  | untold {a : o.Result} {b : Workbench} {e : Error} {n : Nat} {r₁ r₂ r' : Realm κ}
      (hDone : (o.stages (o.home (r.ledger j).ledger)).forM (Stage.run (r.catalogFor j) recipe)
        ⟨r.site j, .budget p, []⟩ = .ok () b)
      (hWork : o.work recipe (r.catalogFor j) ⟨r.site j, .budget p, []⟩ = .ok a b)
      (hWorked : r.Worked j o.budget n b.site r₁)
      (hTold : Sink.deliver run (r.factory i).sink (o.events a) r₁ = .error e r₂)
      (hUndone : r₂.Undone j b r') (hSilent : r'.sinks = r₂.sinks) :
      KeepsFirst run i j recipe o p r (.error e) r'
  | succeeded {a : o.Result} {b : Workbench} {n : Nat} {r₁ r₂ : Realm κ} {entries : List Entry}
      (hDone : (o.stages (o.home (r.ledger j).ledger)).forM (Stage.run (r.catalogFor j) recipe)
        ⟨r.site j, .budget p, []⟩ = .ok () b)
      (hWork : o.work recipe (r.catalogFor j) ⟨r.site j, .budget p, []⟩ = .ok a b)
      (hWorked : r.Worked j o.budget n b.site r₁)
      (hTold : Sink.deliver run (r.factory i).sink (o.events a) r₁ = .ok () r₂) :
      KeepsFirst run i j recipe o p r (.ok a) (r₂.appendTrace entries)

/-- An operation that succeeds has gone through all stages of its work, and the sink has taken the
telling. -/
theorem keepsFirst_of_ok {a : o.Result} (hLedger : (r.factory i).ledger = .object .ledger j)
    (hRecipe : (r.factory i).configuration = .holding recipe)
    (hReached : Ledger.Reached (r.catalogFor j) (r.ledger j).ledger handed)
    (hBudget : o.budget = .null ∨ ∃ k, o.budget = .object .budget k)
    (hPurse : o.purse (r.factory i) r = .ok (.budget p) r)
    (h : o.act run i r = .ok a r') : KeepsFirst run i j recipe o p r (.ok a) r' := by
  have hBudgets : ∃ b, Purse.budget p = .budget b ∧
      ∀ k, o.budget = .object .budget k → b = r.budget k := by
    rcases purse_cases (r.factory i) r hBudget with ⟨e₀, hNone⟩ | ⟨p', hPays, hBudgets⟩
    · cases hPurse.symm.trans hNone
    · cases hPurse.symm.trans hPays
      exact hBudgets
  obtain ⟨new?, n, hSize, hAccounted⟩ :=
    accounted_work (b := ⟨r.site j, .budget p, []⟩) o recipe hReached.sound rfl
  rcases hWork : ends (o.work recipe (r.catalogFor j)) ⟨r.site j, .budget p, []⟩ with ⟨res, b⟩
  rw [hWork] at hAccounted
  obtain ⟨r₁, hWorked, -, hAct⟩ :=
    act_eq hLedger hRecipe hPurse hBudgets hWork hSize hAccounted.purse
  rw [hAct run] at h
  -- an operation gives a result only if its work does so and the sink takes the event
  obtain ⟨a₁, r₂, hConclude, hFarewell⟩ := bind_eq_ok_iff.1 h
  obtain ⟨rfl, hTold⟩ := (Factory.conclude_eq_ok_iff hLedger).1 hConclude
  obtain ⟨entries, hReport⟩ := farewell_eq (o := o) ⟨_, hAccounted.purse⟩ hBudget a₁ r₂
  rw [hReport] at hFarewell
  cases hFarewell
  -- work is its stages in order, so that none of them can have failed
  have hStaged := staged_work o recipe (r.catalogFor j) ⟨r.site j, .budget p, []⟩
  rw [Staged, hWork] at hStaged
  exact .succeeded hStaged.forM_of_ok (eq_ok_of_ends hWork) hWorked hTold

/-- An operation that fails has stopped at a stage of its work, or the sink has raised an error. -/
theorem keepsFirst_of_error (hLedger : (r.factory i).ledger = .object .ledger j)
    (hRecipe : (r.factory i).configuration = .holding recipe)
    (hReached : Ledger.Reached (r.catalogFor j) (r.ledger j).ledger handed)
    (hBudget : o.budget = .null ∨ ∃ k, o.budget = .object .budget k)
    (hPurse : o.purse (r.factory i) r = .ok (.budget p) r)
    (hFaults : ∀ f ∈ (r.ledger j).faults, f.error.within .registration = false)
    (hDestroy : Fault.Spare (r.ledger j).faults .destroy)
    (hDeregister : ∀ k, Fault.Spare (r.ledger j).faults (.deregister k))
    (hSink : Sink.Discreet run (r.factory i).sink r) (h : o.act run i r = .error e r') :
    KeepsFirst run i j recipe o p r (.error e) r' := by
  rcases undone_of_fails hLedger hRecipe hReached.sound hBudget hSink h with
    ⟨e₀, hUnpaid, -⟩ |
    ⟨b, trigger, r₂, -, os, s, hFailing, hSpare, -, rfl, hUnwound, -, rfl, rfl, -⟩
  · cases hPurse.symm.trans hUnpaid
  -- the undoing raises nothing, so what is raised is what has triggered it
  have hOutcomes :=
    Undo.outcomes_of_spared (hSpare hDestroy) (fun k => hSpare (hDeregister k)) b.journal
  rw [raised_eq_nil_iff.2 hOutcomes, afterRollback_nil]
  obtain ⟨hPurse', hWork, -, -, hWorked, hTriggered⟩ := hFailing
  cases hPurse.symm.trans hPurse'
  have hStaged := staged_work o recipe (r.catalogFor j) ⟨r.site j, .budget p, []⟩
  rw [Staged, hWork] at hStaged
  have hUndone : ∀ (r₁ : Realm κ) record,
      r₁.Undone j b ((r₁.appendTrace [.log record]).closed j s) :=
    fun r₁ record => ⟨record, _, s, hUnwound, hOutcomes, rfl⟩
  cases hTriggered with
  | delivery hTold =>
    exact .untold hStaged.forM_of_ok (eq_ok_of_ends hWork) hWorked hTold (hUndone ..)
      (hUndone ..).sinks
  | @work e =>
    obtain ⟨done, stage, later, e₀, b₁, hStages, hDone, hRaised, rfl⟩ := hStaged.exists_first
    have hFair : Fair b₁ := Fair.of_forM ⟨hFaults, p, rfl⟩ hDone
    exact .stopped hStages hDone hRaised (relays_of_error hFair hRaised) hWorked (hUndone ..)
      ((hUndone ..).sinks.trans hWorked.sinks)

/-- **The first error is kept**, and neither swallowed nor replaced. Where undoing works and no
fault raises an error of registrations, the first call that fails, be it of the ledger, of the
budget or of the sink, decides how an operation comes out. -/
theorem first_error_kept (hLedger : (r.factory i).ledger = .object .ledger j)
    (hRecipe : (r.factory i).configuration = .holding recipe)
    (hReached : Ledger.Reached (r.catalogFor j) (r.ledger j).ledger handed)
    (hBudget : o.budget = .null ∨ ∃ k, o.budget = .object .budget k)
    (hPurse : o.purse (r.factory i) r = .ok (.budget p) r)
    (hFaults : ∀ f ∈ (r.ledger j).faults, f.error.within .registration = false)
    (hDestroy : Fault.Spare (r.ledger j).faults .destroy)
    (hDeregister : ∀ k, Fault.Spare (r.ledger j).faults (.deregister k))
    (hSink : Sink.Discreet run (r.factory i).sink r) :
    KeepsFirst run i j recipe o p r (ends (o.act run i) r).1 (ends (o.act run i) r).2 := by
  -- the hypotheses on faults and on the sink are needed only where something has to be undone
  cases h : o.act run i r with
  | ok a r' =>
    rw [ends_of_ok h]
    exact keepsFirst_of_ok hLedger hRecipe hReached hBudget hPurse h
  | error e r' =>
    rw [ends_of_error h]
    exact keepsFirst_of_error hLedger hRecipe hReached hBudget hPurse hFaults hDestroy
      hDeregister hSink h

/-- A ledger takes both components, but not the system. -/
theorem first_error_kept_arena :
    let r := Arena.realm [.always (.register .system) (.raised .ledger "stuck")] [] 5
    ∃ e r', Arena.spawn.act Empty.elim 4 r = .error e r' ∧ e.kind = .registrationFailed ∧
      e.cause?.map Error.kind = some .registrationRejected ∧
      KeepsFirst Empty.elim 4 1 Arena.recipe Arena.spawn (r.budget 3) r (.error e) r' := by
  intro r
  have hReached : Ledger.Reached (r.catalogFor 1) (r.ledger 1).ledger [Arena.executor] :=
    Arena.reached_ledger
  -- the one fault that is planned concerns the registration of systems
  have hSpare : ∀ call, call ≠ .register .system → Fault.Spare (r.ledger 1).faults call := by
    intro call hCall f hMem
    obtain rfl := List.mem_singleton.1 hMem
    exact hCall.symm
  have hFaults : ∀ f ∈ (r.ledger 1).faults, f.error.within .registration = false := by
    intro f hMem
    obtain rfl := List.mem_singleton.1 hMem
    rfl
  have hRecipe : (r.factory 4).configuration = .holding Arena.recipe := rfl
  have hPurse : Arena.spawn.purse (r.factory 4) r = .ok (.budget (r.budget 3)) r := rfl
  have hKept := first_error_kept rfl hRecipe hReached (.inr ⟨3, rfl⟩) hPurse hFaults
    (hSpare _ (by decide)) (fun k => hSpare _ (by simp)) (Arena.discreet Empty.elim _ _)
  have hKinds : ((ends (Arena.spawn.act Empty.elim 4) r).1.map fun _ => ()).mapError
      (fun e => (e.kind, e.cause?.map Error.kind)) =
        .error (.registrationFailed, some .registrationRejected) := by decide +kernel
  cases h : Arena.spawn.act Empty.elim 4 r with
  | ok a r' =>
    rw [ends_of_ok h] at hKinds
    cases hKinds
  | error e r' =>
    rw [ends_of_error h] at hKept hKinds
    obtain ⟨hKind, hCause⟩ := Prod.mk.inj (Except.error.inj hKinds)
    exact ⟨e, r', rfl, hKind, hCause, hKept⟩

end Operation

end WorldForge

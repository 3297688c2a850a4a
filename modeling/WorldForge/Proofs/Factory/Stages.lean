import WorldForge.Proofs.Factory.Halting

/-!
# The stages of work

The work of a factory is a sequence of calls: a world is deployed, its dispatcher is asked for, and
for each part a step is paid and the part is registered. Each call is a stage of the work (`Stage`),
and together with it goes what is entered in the journal and reported when it has gone through. The
work takes one stage after the other, in an order that is known beforehand, and stops at the first
one that raises an error. What it raises then is determined by this stage and its error.

Main results:

* `Taken.exists_first` — the stage at which work stops, and what has gone before;
* `staged_registerParts`, `staged_makeWorld` — work takes its stages one after the other;
* `Foreign.error_cases` — what a stage can raise.
-/

namespace WorldForge.Work

/-! ## Stages -/

/-- **A call that work makes**, on its ledger or on its purse. Work may also ask for what a value
does not have, and then it makes no call. -/
inductive Stage where
  | deploy (name : Value)
  | dispatcher (world : Value)
  | pay
  | register (x : InstanceHandle) (k : PartKind) (t : Value)
  | notIterable (parts : Value)
  | lacking (given : Value) (feature : String)

variable {c : Catalog} {recipe : Recipe} {stage : Stage} {stages later : List Stage}
  {raise raise' : Stage → Error → Error} {b b' b₁ : Workbench} {res : Except Error Unit}
  {e : Error} {x : InstanceHandle} {name : Value} {cs ss : List Value} {k : PartKind} {t : Value}

namespace Stage

/-- Makes the call of a stage. If it goes through, it is entered in the journal how it is undone. -/
def run (c : Catalog) (recipe : Recipe) : Stage → Work Unit
  | deploy name => do
    let h ← onSite (Site.deploy c recipe.template (Argument.values [name, .handle recipe.executor]))
    enter (.destroy h)
    report (.worldPrepared name h)
  | dispatcher world => do
    let _ ← onSite (Site.dispatcher world)
  | pay => payStep
  | register x k t => do
    onSite (Site.register c x k t)
    enter (.deregister x k t)
    report (.partRegistered k t (← release (← get).purse.used))
  | notIterable parts => throw (.notIterable parts)
  | lacking given feature => throw (.lacking given feature)

/-- What is raised for an error of a stage where no world is spawned. -/
def raised (recipe : Recipe) : Stage → Error → Error
  | deploy name, e => if e.within .ledger then .deploymentFailed name recipe.template e else e
  | dispatcher world, e => if e.within .ledger then .cannotDispatch world e else e
  | register _ k t, e => if e.within .ledger then .registrationRejected t k e else e
  | _, e => e

/-- What is raised for an error of a stage where a world is spawned at a handle. Once it has been
deployed, the error is one of its registrations. -/
def raisedAt (recipe : Recipe) (name : Value) (x : InstanceHandle) : Stage → Error → Error
  | deploy name, e => raised recipe (deploy name) e
  | stage, e => raisedFor name x (raised recipe stage e)

/-- The stages in which a part is paid for and registered. -/
def ofPart (x : InstanceHandle) (k : PartKind) (t : Value) : List Stage := [pay, register x k t]

/-- The stages in which all parts are paid for and registered that a value gives. -/
def ofParts (x : InstanceHandle) (k : PartKind) (parts : Value) : List Stage :=
  match parts.items? with
  | none => [notIterable parts]
  | some ids => ids.flatMap (ofPart x k)

/-- The stages in which parts are registered in a world. -/
def ofRegistration (x : InstanceHandle) (world components systems : Value) : List Stage :=
  dispatcher world :: (ofParts x .component components ++ ofParts x .system systems)

/-- The stages for a value that is no request. It may have a name to deploy a world by, but it has
no parts. -/
def ofMisrequest (given : Value) : List Stage :=
  match given.name? with
  | none => [lacking given "name"]
  | some name => [deploy name, lacking given "component_ids"]

/-- The stages in which a world is spawned. -/
def ofSpawn (x : InstanceHandle) (name : Value) (cs ss : List Value) : List Stage :=
  deploy name :: ofRegistration x (.handle x) (.list cs) (.list ss)

end Stage

namespace Stage

/-- The stage of a deployment goes through exactly if the ledger accepts it. The workbench has the
world then, and an entry to undo it. -/
theorem run_deploy_eq_ok_iff : (deploy name).run c recipe b = .ok () b' ↔
    ∃ x s, Site.deploy c recipe.template (Argument.values [name, .handle recipe.executor]) b.site =
        .ok x s ∧
      b' = deployedAt b s name x := by
  rw [run, bind_eq_ok_iff]
  constructor
  · rintro ⟨x, b₁, hCall, hRest⟩
    obtain ⟨s, hSite, rfl⟩ := onSite_eq_ok_iff.1 hCall
    rw [bind_of_ok (enter_eq ..), report_eq] at hRest
    cases hRest
    exact ⟨x, s, hSite, by simp [deployedAt]⟩
  · rintro ⟨x, s, hSite, rfl⟩
    refine ⟨x, _, onSite_eq_ok_iff.2 ⟨s, hSite, rfl⟩, ?_⟩
    rw [bind_of_ok (enter_eq ..), report_eq]
    simp [deployedAt]

/-- The stage of a registration goes through exactly if the ledger accepts it. Its step has been
paid in the stage before. -/
theorem run_register_eq_ok_iff {p : Budget} (hPurse : b.purse = .budget p) :
    (register x k t).run c recipe b = .ok () b' ↔
      ∃ s, Site.register c x k t b.site = .ok () s ∧ b' = registeredAt b s p x k t := by
  obtain ⟨site, purse, journal⟩ := b
  obtain rfl : purse = .budget p := hPurse
  rw [run, bind_eq_ok_iff]
  constructor
  · rintro ⟨_, b₁, hCall, hRest⟩
    obtain ⟨s, hSite, rfl⟩ := onSite_eq_ok_iff.1 hCall
    rw [bind_of_ok (enter_eq ..)] at hRest
    cases hRest
    exact ⟨s, hSite, by simp [registeredAt]⟩
  · rintro ⟨s, hSite, rfl⟩
    refine ⟨(), _, onSite_eq_ok_iff.2 ⟨s, hSite, rfl⟩, ?_⟩
    rw [bind_of_ok (enter_eq ..)]
    show EStateM.Result.ok () _ = _
    simp [registeredAt]

end Stage

/-! ## Taking stages -/

/-- **Stages are taken one after the other** until one raises an error. What is raised for it is
told by `raise`. -/
inductive Taken (c : Catalog) (recipe : Recipe) (raise : Stage → Error → Error) :
    List Stage → Workbench → Except Error Unit → Workbench → Prop
  | nil {b : Workbench} : Taken c recipe raise [] b (.ok ()) b
  | next {stage : Stage} {later : List Stage} {b b₁ b' : Workbench} {res : Except Error Unit}
      (hRun : stage.run c recipe b = .ok () b₁) (hLater : Taken c recipe raise later b₁ res b') :
      Taken c recipe raise (stage :: later) b res b'
  | stop {stage : Stage} {later : List Stage} {b b' : Workbench} {e : Error}
      (hRun : stage.run c recipe b = .error e b') :
      Taken c recipe raise (stage :: later) b (.error (raise stage e)) b'

/-- Stages that were all taken, and more of them from there on, are stages taken in one row. -/
theorem Taken.append (h : Taken c recipe raise stages b (.ok ()) b₁)
    (h₁ : Taken c recipe raise later b₁ res b') :
    Taken c recipe raise (stages ++ later) b res b' := by
  -- the induction is on how the stages were taken, for which the outcome has to be a variable
  generalize hOk : Except.ok () = done at h
  induction h with
  | nil => exact h₁
  | next hRun _ ih => exact .next hRun (ih h₁ hOk)
  | stop _ => cases hOk

/-- Stages after the one that raises an error are not reached. -/
theorem Taken.append_of_error (h : Taken c recipe raise stages b (.error e) b')
    (later : List Stage) : Taken c recipe raise (stages ++ later) b (.error e) b' := by
  generalize hError : Except.error e = done at h
  induction h with
  | nil => cases hError
  | next hRun _ ih => exact .next hRun (ih hError)
  | stop hRun => exact .stop hRun

/-- Something else may be raised for the same errors. -/
theorem Taken.mapError (h : Taken c recipe raise stages b res b') {f : Error → Error}
    (hRaise : ∀ stage ∈ stages, ∀ e, f (raise stage e) = raise' stage e) :
    Taken c recipe raise' stages b (res.mapError f) b' := by
  induction h with
  | nil => exact .nil
  | next hRun _ ih => exact .next hRun (ih fun stage hMem => hRaise stage (.tail _ hMem))
  | @stop stage _ _ _ e hRun =>
    show Taken c recipe raise' _ _ (.error (f (raise stage e))) _
    rw [hRaise stage (.head _)]
    exact .stop hRun

/-- Work that succeeds has taken all its stages. -/
theorem Taken.forM_of_ok (h : Taken c recipe raise stages b (.ok ()) b') :
    stages.forM (Stage.run c recipe) b = .ok () b' := by
  generalize hOk : Except.ok () = done at h
  induction h with
  | nil => rfl
  | next hRun _ ih => exact (bind_of_ok hRun).trans (ih hOk)
  | stop _ => cases hOk

/-- **Work that fails has come to a first stage that raised an error**: those before it have gone
through, and those after it have not been reached. -/
theorem Taken.exists_first (h : Taken c recipe raise stages b (.error e) b') :
    ∃ done stage later e₀ b₁, stages = done ++ stage :: later ∧
      done.forM (Stage.run c recipe) b = .ok () b₁ ∧ stage.run c recipe b₁ = .error e₀ b' ∧
        e = raise stage e₀ := by
  -- the induction is on the stages that were taken, for the outcome at their end
  generalize hError : Except.error e = res at h
  induction h with
  | nil => cases hError
  | @next stage _ _ _ _ _ hRun _ ih =>
    obtain ⟨done, stop, later, e₀, b₂, rfl, hDone, hStop, hRaise⟩ := ih hError
    exact ⟨stage :: done, stop, later, e₀, b₂, rfl, (bind_of_ok hRun).trans hDone, hStop, hRaise⟩
  | @stop stage later b _ e₀ hRun =>
    cases hError
    exact ⟨[], stage, later, e₀, b, rfl, rfl, hRun, rfl⟩

/-! ## Work in stages -/

/-- **Work is a sequence of stages** from a workbench. -/
def Staged {α : Type} (c : Catalog) (recipe : Recipe) (raise : Stage → Error → Error)
    (stages : List Stage) (y : Work α) (b : Workbench) : Prop :=
  Taken c recipe raise stages b ((ends y b).1.map fun _ => ()) (ends y b).2

section Rules

variable {α β : Type} {y : Work α} {f : α → Work β} {a : α}

/-- What gives a result at once has no stages. -/
theorem staged_pure (a : α) (b : Workbench) : Staged c recipe raise [] (pure a) b := .nil

/-- Work that succeeds has gone through the stages which lead to where it has come. -/
theorem staged_of_ok (h : y b = .ok a b') (hTaken : Taken c recipe raise stages b (.ok ()) b') :
    Staged c recipe raise stages y b := by
  rw [Staged, ends_of_ok h]
  exact hTaken

/-- Work that fails has gone through the stages which lead to its error. -/
theorem staged_of_error (h : y b = .error e b')
    (hTaken : Taken c recipe raise stages b (.error e) b') : Staged c recipe raise stages y b := by
  rw [Staged, ends_of_error h]
  exact hTaken

/-- A chain goes on with the stages of its second link, if the first has succeeded. -/
theorem Staged.bind (h : Staged c recipe raise stages y b)
    (hNext : ∀ a b₁, y b = .ok a b₁ → Staged c recipe raise later (f a) b₁) :
    Staged c recipe raise (stages ++ later) (y >>= f) b := by
  rw [Staged] at h
  -- if the first part fails, the stages of the second are none of those that are taken
  cases hy : y b with
  | ok a b₁ =>
    have hLater := hNext a b₁ hy
    rw [ends_of_ok hy] at h
    rw [Staged, ends_bind, ends_of_ok hy]
    exact h.append hLater
  | error e b₁ =>
    rw [ends_of_error hy] at h
    exact staged_of_error (bind_of_error hy) (h.append_of_error later)

/-- **A wrapping changes what stages raise**, and nothing else: the same stages are taken, up to the
same one. -/
theorem Staged.wrapping (h : Staged c recipe raise stages y b) (family : ErrorKind)
    (wrap : Error → Error)
    (hRaise : ∀ stage ∈ stages, ∀ e, (if (raise stage e).within family then wrap (raise stage e)
      else raise stage e) = raise' stage e) :
    Staged c recipe raise' stages (wrapping family wrap y) b := by
  rw [Staged, ends_wrapping]
  have hMapped := Taken.mapError h (f := fun e => if e.within family then wrap e else e) hRaise
  rcases hy : ends y b with ⟨_ | _, b₁⟩ <;> rw [hy] at hMapped <;> exact hMapped

end Rules

/-! ### Pieces of work -/

/-- To deploy a world is a single stage. What it raises is wrapped as that stage says. -/
theorem staged_deployWorld
    (hRaise : ∀ e, raise (.deploy name) e = Stage.raised recipe (.deploy name) e)
    (c : Catalog) (b : Workbench) :
    Staged c recipe raise [.deploy name] (deployWorld c recipe name) b := by
  cases hDone : deployWorld c recipe name b with
  | ok x b' =>
    obtain ⟨s, hSite, rfl⟩ := deployWorld_eq_ok_iff.1 hDone
    have hRun : (Stage.deploy name).run c recipe b = .ok () (deployedAt b s name x) :=
      Stage.run_deploy_eq_ok_iff.2 ⟨x, s, hSite, rfl⟩
    exact staged_of_ok hDone (.next hRun .nil)
  | error e b' =>
    obtain ⟨rfl, e₀, s, hSite, rfl⟩ := deployWorld_eq_error hDone
    obtain rfl := Site.deploy_eq_error hSite
    have hRun : (Stage.deploy name).run c recipe b =
        .error e₀ { b with site := b.site.met .deploy } :=
      bind_of_error (onSite_eq_error_iff.2 ⟨_, hSite, rfl⟩)
    -- the deployment wraps what is raised just as the stage does
    have hRaised : raise (.deploy name) e₀ = if e₀.within .ledger then
      .deploymentFailed name recipe.template e₀ else e₀ := hRaise e₀
    rw [← hRaised] at hDone
    exact staged_of_error hDone (.stop hRun)

/-- What is asked for and not there ends the work. -/
theorem staged_lacking (given : Value) (feature : String) (b : Workbench) :
    Staged c recipe (Stage.raised recipe) [.lacking given feature]
      (throw (.lacking given feature) : Work InstanceHandle) b := by
  have hRun : (Stage.lacking given feature).run c recipe b = .error (.lacking given feature) b :=
    rfl
  exact staged_of_error rfl (.stop hRun)

/-- To look up the world for registrations is a single stage. -/
theorem staged_dispatcher (c : Catalog) (recipe : Recipe) (world : Value) (b : Workbench) :
    Staged c recipe (Stage.raised recipe) [.dispatcher world]
      (wrapping .ledger (.cannotDispatch world) (onSite (Site.dispatcher world))) b := by
  cases hDone : wrapping .ledger (.cannotDispatch world) (onSite (Site.dispatcher world)) b with
  | ok w b' =>
    have hRun : (Stage.dispatcher world).run c recipe b = .ok () b' :=
      bind_of_ok (wrapping_eq_ok_iff.1 hDone)
    exact staged_of_ok hDone (.next hRun .nil)
  | error e b' =>
    obtain ⟨e₀, hCall, rfl⟩ := wrapping_eq_error_iff.1 hDone
    have hRun : (Stage.dispatcher world).run c recipe b = .error e₀ b' := bind_of_error hCall
    exact staged_of_error hDone (.stop hRun)

/-- **A part is paid for**, and then it is registered. -/
theorem staged_registerPart (c : Catalog) (recipe : Recipe) (x : InstanceHandle) (k : PartKind)
    (t : Value) (b : Workbench) :
    Staged c recipe (Stage.raised recipe) (Stage.ofPart x k t) (registerPart c x k t) b := by
  cases hDone : registerPart c x k t b with
  | ok _ b' =>
    obtain ⟨p, s, hPay, hSite, rfl⟩ := registerPart_eq_ok_iff.1 hDone
    have hPaid : Stage.pay.run c recipe b = .ok () { b with purse := .budget p } :=
      payStep_eq_ok_iff.2 ⟨_, hPay, rfl⟩
    have hRun : (Stage.register x k t).run c recipe { b with purse := .budget p } =
        .ok () (registeredAt b s p x k t) :=
      (Stage.run_register_eq_ok_iff rfl).2 ⟨s, hSite, rfl⟩
    exact staged_of_ok hDone (.next hPaid (.next hRun .nil))
  | error e b' =>
    -- the run has stopped at the payment, or after it at the ledger
    rcases registerPart_eq_error hDone with ⟨rfl, hPay⟩ | ⟨p, e₀, hPay, rfl, hSite, rfl⟩
    · have hUnpaid : Stage.pay.run c recipe b' = .error e b' := by
        rw [Stage.run, payStep, hPay]
      exact staged_of_error hDone (.stop hUnpaid)
    · have hPaid : Stage.pay.run c recipe b = .ok () { b with purse := p } :=
        payStep_eq_ok_iff.2 ⟨p, hPay, rfl⟩
      have hRun : (Stage.register x k t).run c recipe { b with purse := p } =
          .error e₀ { b with site := b.site.met (.register k), purse := p } :=
        bind_of_error (onSite_eq_error_iff.2 ⟨_, hSite, rfl⟩)
      exact staged_of_error hDone (.next hPaid (.stop hRun))

/-- **Parts are registered one after the other**, two stages for each: a step is paid, and the
ledger is called. -/
theorem staged_registerEach (c : Catalog) (recipe : Recipe) (x : InstanceHandle) (k : PartKind)
    (parts : Value) (b : Workbench) :
    Staged c recipe (Stage.raised recipe) (Stage.ofParts x k parts) (registerEach c x k parts)
      b := by
  rw [Stage.ofParts]
  split
  · rename_i hItems
    have hFails : registerEach c x k parts b = .error (.notIterable parts) b := by
      rw [registerEach, Value.items, hItems]
      rfl
    have hRun : (Stage.notIterable parts).run c recipe b = .error (.notIterable parts) b := rfl
    exact staged_of_error hFails (.stop hRun)
  · rename_i ids hItems
    rw [registerEach_of_items hItems]
    -- the induction is on the parts alone, wherever they came from
    clear hItems
    induction ids generalizing b with
    | nil => exact staged_pure () b
    | cons t rest ih => exact (staged_registerPart c recipe x k t b).bind fun _ b₁ _ => ih b₁

/-- **The stages of a run over components and systems**: the dispatcher of the world is asked for,
and then each part is paid for and registered. -/
theorem staged_registerParts (c : Catalog) (recipe : Recipe) {world : Value}
    (components systems : Value)
    (hHandle : ∀ w, b.site.ledger.liveWorld? world = some w → w.handle = x) :
    Staged c recipe (Stage.raised recipe) (Stage.ofRegistration x world components systems)
      (registerParts c world components systems) b := by
  refine (staged_dispatcher c recipe world b).bind fun w b₁ hDispatch => ?_
  -- the parts are registered in the world that was found, and that is the one at the handle
  obtain ⟨-, -, hFind, rfl⟩ := wrapping_dispatcher_eq_ok_iff.1 hDispatch
  obtain rfl := hHandle w hFind
  exact (staged_registerEach ..).bind fun _ b₂ _ => staged_registerEach ..

/-- No world is deployed among the stages in which parts are registered. -/
theorem ne_deploy_of_mem {parts : Value} (h : stage ∈ Stage.ofParts x k parts) (name : Value) :
    stage ≠ .deploy name := by
  rintro rfl
  rw [Stage.ofParts] at h
  split at h
  · simp at h
  · obtain ⟨t, -, hMem⟩ := List.mem_flatMap.1 h
    simp [Stage.ofPart] at hMem

/-- **The stages of the making of a world**: it is deployed, and its parts are registered in it. -/
theorem staged_makeWorld (c : Catalog) (recipe : Recipe) (name : Value) (cs ss : List Value)
    (hFresh : x = b.site.ledger.allocator.fresh) :
    Staged c recipe (Stage.raisedAt recipe name x) (Stage.ofSpawn x name cs ss)
      (makeWorld c recipe name cs ss) b := by
  have hSame : ∀ e, Stage.raisedAt recipe name x (.deploy name) e =
      Stage.raised recipe (.deploy name) e := fun _ => rfl
  refine (staged_deployWorld hSame c b).bind fun y b₁ hDone => ?_
  obtain ⟨hNew, -⟩ := deployWorld_spec hDone
  obtain rfl : y = x := hNew.trans hFresh.symm
  have hHandle : ∀ w, b₁.site.ledger.liveWorld? (.handle y) = some w → w.handle = y := by
    intro w hLive
    obtain ⟨text, -, rfl⟩ := (find?_of_deployWorld hDone).1 hLive
    rfl
  -- all stages but the deployment are those of registrations, whose errors are wrapped once more
  have hRaise : ∀ stage ∈ Stage.ofRegistration y (.handle y) (.list cs) (.list ss), ∀ e,
      (if (Stage.raised recipe stage e).within .registration then
        .registrationFailed name y (Stage.raised recipe stage e) else Stage.raised recipe stage e) =
          Stage.raisedAt recipe name y stage e := by
    intro stage hMem e
    cases stage with
    | deploy name' =>
      rcases List.mem_cons.1 hMem with hFirst | hRest
      · cases hFirst
      · rcases List.mem_append.1 hRest with hPart | hPart <;>
          exact absurd rfl (ne_deploy_of_mem hPart name')
    | _ => rfl
  have hParts := (staged_registerParts c recipe (.list cs) (.list ss) hHandle).wrapping
    .registration (.registrationFailed name y) hRaise
  have hAll := hParts.bind (f := fun _ => pure y) fun _ b₂ _ => staged_pure y b₂
  rwa [List.append_nil] at hAll

/-! ## What stages raise -/

/-- **A stage that goes through** leaves a budget to pay, and the faults raise what they would have
raised before. -/
theorem errors_of_run (hPurse : ∃ p, b.purse = .budget p)
    (hRun : stage.run c recipe b = .ok () b') :
    (∃ p, b'.purse = .budget p) ∧
      b'.site.faults.map Fault.error = b.site.faults.map Fault.error := by
  obtain ⟨p, hPurse⟩ := hPurse
  cases stage with
  | deploy name =>
    obtain ⟨x, s, hSite, rfl⟩ := Stage.run_deploy_eq_ok_iff.1 hRun
    obtain ⟨-, -, -, _, l, -, rfl⟩ := Site.deploy_eq_ok_iff.1 hSite
    exact ⟨⟨p, hPurse⟩, Fault.errors_meet ..⟩
  | dispatcher world =>
    obtain ⟨w, b₁, hCall, hEnd⟩ := bind_eq_ok_iff.1 hRun
    cases hEnd
    obtain ⟨s, hSite, rfl⟩ := onSite_eq_ok_iff.1 hCall
    obtain ⟨-, -, -, rfl⟩ := Site.dispatcher_eq_ok_iff.1 hSite
    exact ⟨⟨p, hPurse⟩, Fault.errors_meet ..⟩
  | pay =>
    obtain ⟨q, hPaid, rfl⟩ := payStep_eq_ok_iff.1 hRun
    obtain ⟨-, q', -, -, rfl⟩ := Purse.payStep_eq_ok_iff.1 hPaid
    exact ⟨⟨q', rfl⟩, rfl⟩
  | register x k t =>
    obtain ⟨s, hSite, rfl⟩ := (Stage.run_register_eq_ok_iff hPurse).1 hRun
    obtain ⟨-, -, -, _, l, -, rfl⟩ := Site.register_eq_ok_iff.1 hSite
    exact ⟨⟨p, rfl⟩, Fault.errors_meet ..⟩
  | notIterable parts => cases hRun
  | lacking given feature => cases hRun

/-- **Stages that go through** leave a budget to pay with, and of the planned faults each raises
what it would have raised before. Only the counts of calls have moved on. -/
theorem errors_of_forM (hPurse : ∃ p, b.purse = .budget p)
    (hDone : stages.forM (Stage.run c recipe) b = .ok () b') :
    (∃ p, b'.purse = .budget p) ∧
      b'.site.faults.map Fault.error = b.site.faults.map Fault.error := by
  induction stages generalizing b with
  | nil =>
    cases hDone
    exact ⟨hPurse, rfl⟩
  | cons stage later ih =>
    obtain ⟨_, b₁, hRun, hLater⟩ := bind_eq_ok_iff.1 hDone
    obtain ⟨hPurse₁, hErrors⟩ := errors_of_run hPurse hRun
    obtain ⟨hPurse', hErrors'⟩ := ih hPurse₁ hLater
    exact ⟨hPurse', hErrors'.trans hErrors⟩

/-- **A family of errors that no call of a ledger raises** by itself: neither its refusals belong to
the family, nor what is raised for a value that is no key or lacks something. What an argument
raises that a refusal tells of is left out. No factory hands such an argument over. -/
structure Foreign (family : ErrorKind) : Prop where
  ledger : ∀ refusal : LedgerError, refusal.isTold = true → refusal.kind.within family = false
  badType : ErrorKind.badType.within family = false
  lacking : ErrorKind.lacking.within family = false

/-- No call of a ledger raises an error of the family that a factory has for its registrations. -/
theorem foreign_registration : Foreign .registration where
  ledger refusal hTold := by
    cases refusal with
    | untold => cases hTold
    | _ => rfl
  badType := rfl
  lacking := rfl

/-- No call of a ledger raises an error of a bad value by itself. -/
theorem foreign_badValue : Foreign .badValue where
  ledger refusal hTold := by
    cases refusal with
    | untold => cases hTold
    | _ => rfl
  badType := rfl
  lacking := rfl

section Foreign

variable {family : ErrorKind}

/-- A call of a ledger raises no error of a foreign family, if neither a fault nor the flaw that it
finds is one. -/
theorem Foreign.within_of_callBy {α : Type} {key : Value} {flaw : Option Error} {call : LedgerCall}
    {op : Ledger → Except LedgerError (α × Ledger)} {s : Site} (hForeign : Foreign family)
    (hFaults : ∀ f ∈ b.site.faults, f.error.within family = false)
    (hFlaw : ∀ e, flaw = some e → e.within family = false)
    (hTold : ∀ refusal, op b.site.ledger = .error refusal → refusal.isTold = true)
    (hCall : Site.callBy key flaw call op b.site = .error e s) : e.within family = false := by
  -- the error is that of a fault, or else one that the ledger itself raises
  cases hMeet : (Fault.meet call b.site.faults).1 with
  | some e' =>
    rw [Site.callBy_of_some hMeet] at hCall
    cases hCall
    obtain ⟨f, hMem, rfl⟩ := List.mem_map.1 (Fault.mem_errors_of_meet hMeet)
    exact hFaults f hMem
  | none =>
    rcases Site.callBy_error_of_none hMeet hCall with
      ⟨refusal, -, rfl⟩ | hSome | ⟨refusal, hRefused, rfl⟩
    · exact hForeign.badType
    · exact hFlaw e hSome
    · exact hForeign.ledger refusal (hTold refusal hRefused)

/-- **What a stage raises** where faults raise no error of a foreign family and a budget pays. If a
step is not paid, the budget is exhausted, and no other stage raises an error of the family. -/
theorem Foreign.error_cases (hForeign : Foreign family)
    (hFaults : ∀ f ∈ b.site.faults, f.error.within family = false)
    (hPurse : ∃ p, b.purse = .budget p) (hRun : stage.run c recipe b = .error e b') :
    (stage = .pay ∧ ∃ limit used, e = .budget (.exhausted limit used)) ∨
      (stage ≠ .pay ∧ e.within family = false) := by
  obtain ⟨p, hPurse⟩ := hPurse
  cases stage with
  | deploy name =>
    rcases bind_eq_error_iff.1 hRun with hCall | ⟨x, b₁, -, hEnd⟩
    · obtain ⟨s, hSite, -⟩ := onSite_eq_error_iff.1 hCall
      rcases bind_eq_error_iff.1 hSite with hBy | ⟨_, s₁, -, hEnd⟩
      · refine .inr ⟨Stage.noConfusion, hForeign.within_of_callBy hFaults (fun e hFlaw => ?_)
          (fun _ h => (Ledger.told_of_deploy_error h).1) hBy⟩
        obtain ⟨v, feature, rfl⟩ := Catalog.deploymentFlaw_cases hFlaw
        exact hForeign.lacking
      · cases hEnd
    -- only the call of the ledger can fail
    · rw [bind_of_ok (enter_eq ..), report_eq] at hEnd
      cases hEnd
  | dispatcher world =>
    rcases bind_eq_error_iff.1 hRun with hCall | ⟨w, b₁, -, hEnd⟩
    · obtain ⟨s, hSite, -⟩ := onSite_eq_error_iff.1 hCall
      exact .inr ⟨Stage.noConfusion,
        hForeign.within_of_callBy hFaults (fun e hNone => by cases hNone)
          (fun _ h => Ledger.told_of_dispatcher_error h) hSite⟩
    · cases hEnd
  | pay =>
    rw [Stage.run, payStep, hPurse] at hRun
    split at hRun
    · cases hRun
    · rename_i hUnpaid
      cases hRun
      obtain ⟨limit, -, -, rfl⟩ := Purse.payStep_eq_error hUnpaid
      exact .inl ⟨rfl, limit, p.used, rfl⟩
  | register x k t =>
    rcases bind_eq_error_iff.1 hRun with hCall | ⟨_, b₁, hCall, hEnd⟩
    · obtain ⟨s, hSite, -⟩ := onSite_eq_error_iff.1 hCall
      rcases bind_eq_error_iff.1 hSite with hBy | ⟨_, s₁, -, hEnd⟩
      · refine .inr ⟨Stage.noConfusion, hForeign.within_of_callBy hFaults (fun e hFlaw => ?_)
          (fun _ h => Ledger.told_of_register_error h) hBy⟩
        rcases Catalog.registrationFlaw_cases hFlaw with ⟨v, feature, rfl⟩ | ⟨refusal, rfl⟩
        · exact hForeign.lacking
        · exact hForeign.badType
      · cases hEnd
    -- the steps of a budget can always be told
    · obtain ⟨site, purse, journal⟩ := b
      obtain rfl : purse = .budget p := hPurse
      obtain ⟨s, -, rfl⟩ := onSite_eq_ok_iff.1 hCall
      rw [bind_of_ok (enter_eq ..)] at hEnd
      cases hEnd
  | notIterable parts =>
    cases hRun
    exact .inr ⟨Stage.noConfusion, hForeign.badType⟩
  | lacking given feature =>
    cases hRun
    exact .inr ⟨Stage.noConfusion, hForeign.lacking⟩

end Foreign

/-- No fault raises an error of registrations, and what pays is a budget. -/
structure Fair (b : Workbench) : Prop where
  faults : ∀ f ∈ b.site.faults, f.error.within .registration = false
  purse : ∃ p, b.purse = .budget p

/-- **Stages that go through leave a workbench fair.** -/
theorem Fair.of_forM (h : Fair b) (hDone : stages.forM (Stage.run c recipe) b = .ok () b') :
    Fair b' := by
  obtain ⟨hPurse, hErrors⟩ := errors_of_forM h.purse hDone
  have hOld : ∀ e ∈ b.site.faults.map Fault.error, e.within .registration = false :=
    List.forall_mem_map.2 h.faults
  rw [← hErrors] at hOld
  exact ⟨List.forall_mem_map.1 hOld, hPurse⟩

/-- On a fair workbench no call of a ledger raises an error of registrations. -/
theorem Fair.error_cases (h : Fair b) (hRun : stage.run c recipe b = .error e b') :
    (stage = .pay ∧ ∃ limit used, e = .budget (.exhausted limit used)) ∨
      (stage ≠ .pay ∧ e.within .registration = false) :=
  foreign_registration.error_cases h.faults h.purse hRun

end WorldForge.Work

import WorldForge.Proofs.Factory.Account
import WorldForge.Proofs.Realm.Worked

/-!
# How operations of a factory come out

An operation of a factory goes through three realms. Its work changes a ledger, and the budget that
pays for it. Then the sink is told, if the work has succeeded. If either fails, the operation fails
with what triggered this (`Triggered`), and undoing the journal changes the ledger once more.

`Operation.Failing` is the course of an operation up to the undoing.

Main results:

* `conclude_eq_ok_iff` — an operation succeeds exactly if its work does and the sink takes all
  events;
* `Operation.act_eq` — first the work, then the telling or the undoing, and at last a report;
* `Operation.act_eq_error` — an operation that fails does so in its work or at its end;
* `Operation.undone_of_fails` — an operation that has failed has run every entry of its journal, and
  has left standing what the entries that failed had to undo.
-/

namespace WorldForge

variable {κ : Type}

namespace Factory

variable {α : Type} {run : κ → Act κ Unit} {f : Factory} {r r₁ r₂ r' : Realm κ} {j : Nat}
  {sink budget : Value} {events : α → List Value} {journal : List Undo} {size : Nat}
  {res : Except Error α} {e : Error} {a : α} {p : Purse}

/-! ## The parts of an operation -/

/-- **What is done on a site and succeeds** changes the ledger and the records of the realm, and
gives its result. -/
theorem onSite_of_ok {x : Catalog → SiteM α} {s : Site}
    (h : x (r.catalogFor j) (r.site j) = .ok a s) : Act.onSite j x r = .ok a (r.closed j s) := by
  have hRun : x (r.catalogOf (r.ledger j).catalog)
      (.opened (r.ledger j).ledger (r.ledger j).faults) = .ok a s := h
  unfold Act.onSite
  simp only [hRun]
  rfl

/-- What is done on a site and fails changes the realm in the same way: an error undoes nothing by
itself. -/
theorem onSite_of_error {x : Catalog → SiteM α} {s : Site}
    (h : x (r.catalogFor j) (r.site j) = .error e s) :
    Act.onSite j x r = .error e (r.closed j s) := by
  have hRun : x (r.catalogOf (r.ledger j).catalog)
      (.opened (r.ledger j).ledger (r.ledger j).faults) = .error e s := h
  unfold Act.onSite
  simp only [hRun]
  rfl

/-- The work on a ledger never fails as such: how it came out is handed on. -/
theorem perform_eq (hLedger : f.ledger = .object .ledger j) (p : Purse) (first : LedgerCall)
    (work : Catalog → Work α) (r : Realm κ) :
    f.perform p first work r =
      .ok ((ends (work (r.catalogFor j)) ⟨r.site j, p, []⟩).1,
          (ends (work (r.catalogFor j)) ⟨r.site j, p, []⟩).2.purse,
          (ends (work (r.catalogFor j)) ⟨r.site j, p, []⟩).2.journal)
        (r.closed j (ends (work (r.catalogFor j)) ⟨r.site j, p, []⟩).2.site) := by
  rw [perform, hLedger]
  cases hWork : work (r.catalogFor j) ⟨r.site j, p, []⟩ with
  | ok a b =>
    rw [ends_of_ok hWork]
    exact onSite_of_ok (by simp only [hWork])
  | error e b =>
    rw [ends_of_error hWork]
    exact onSite_of_ok (by simp only [hWork])

/-- The purse is put back into the budget that it came from, which never fails. -/
theorem keepPurse_eq (p : Purse) (budget : Value) (r : Realm κ) :
    keepPurse p budget r = .ok () (r.kept p budget) := by
  cases p with
  | other v => rfl
  | budget b =>
    cases budget with
    | object kind k => cases kind <;> rfl
    | _ => rfl

/-- Undoing a journal never fails as such: what there is to raise is raised afterwards. -/
theorem abandon_of_unwound {os : List (Except Error Unit)} {s : Site}
    (hLedger : f.ledger = .object .ledger j)
    (hUnwound : Unwound Site.report Undo.text Undo.run (r.site j) journal os s) (e : Error) :
    (f.abandon journal e : Act κ α) r =
      .error (afterRollback (raised os) e) (r.closed j s) := by
  have hUndo : (f.undoAll journal : Act κ (List Error)) r = .ok (raised os) (r.closed j s) := by
    rw [undoAll, hLedger]
    exact onSite_of_ok hUnwound.unwind_eq
  rw [abandon, bind_of_ok hUndo]
  rfl

/-- A factory that gives an operation up always raises an error, either the one that called for it
or that of the rollback. -/
theorem abandon_ne_ok (hLedger : f.ledger = .object .ledger j) (journal : List Undo) (e : Error)
    (r : Realm κ) : (f.abandon journal e : Act κ α) r ≠ .ok a r' := by
  obtain ⟨os, s, hUnwound⟩ :=
    exists_unwound (fun r s => ⟨_, Site.report_eq r s⟩) journal (r.site j)
  rw [abandon_of_unwound hLedger hUnwound]
  intro h
  cases h

/-- A factory may have been made with a value that is no ledger. Then an operation fails at its
first call on it. (Such a factory is said to be astray.) -/
theorem perform_astray (hAstray : ∀ j, f.ledger ≠ .object .ledger j) (p : Purse)
    (first : LedgerCall) (work : Catalog → Work α) (r : Realm κ) :
    f.perform p first work r = .ok (.error (notLedger f.ledger first), p, []) r := by
  unfold perform
  generalize f.ledger = v at hAstray
  cases v with
  | object kind j =>
    cases kind with
    | ledger => exact absurd rfl (hAstray j)
    | _ => rfl
  | _ => rfl

/-- A factory whose ledger is no ledger has nothing to undo, as nothing could be entered in its
journal. -/
theorem undoAll_astray (hAstray : ∀ j, f.ledger ≠ .object .ledger j) (journal : List Undo)
    (r : Realm κ) : (f.undoAll journal : Act κ (List Error)) r = .ok [] r := by
  unfold undoAll
  generalize f.ledger = v at hAstray
  cases v with
  | object kind j =>
    cases kind with
    | ledger => exact absurd rfl (hAstray j)
    | _ => rfl
  | _ => rfl

/-- A factory whose ledger is no ledger ends an operation with the error at hand, and with the
record of a rollback of no actions. -/
theorem conclude_astray (hAstray : ∀ j, f.ledger ≠ .object .ledger j)
    (run : κ → Act κ Unit) (e : Error) (events : α → List Value) (r : Realm κ) :
    conclude run f [] (.error e) events r = .error e (r.appendTrace [.log (.rollingBack 0 e)]) := by
  show (Act.report (.rollingBack 0 e) >>= fun _ => f.abandon [] e : Act κ α) r = _
  have hReport : (Act.report (.rollingBack 0 e) : Act κ Unit) r =
      .ok () (r.appendTrace [.log (.rollingBack 0 e)]) := rfl
  rw [bind_of_ok hReport, abandon, bind_of_ok (undoAll_astray hAstray [] _)]
  rfl

/-- **What makes an operation fail** once its work has come out, and the realm in which the undoing
starts: the work has failed, or the sink that was told of its success. -/
inductive Triggered (run : κ → Act κ Unit) (sink : Value) (events : α → List Value)
    (size : Nat) (r : Realm κ) : Except Error α → Error → Realm κ → Prop
  | work {e : Error} :
      Triggered run sink events size r (.error e) e (r.appendTrace [.log (.rollingBack size e)])
  | delivery {a : α} {e : Error} {r₁ : Realm κ}
      (h : Sink.deliver run sink (events a) r = .error e r₁) :
      Triggered run sink events size r (.ok a) e
        (r₁.appendTrace [.log (.deliveryFailed size e)])

/-- **How an operation ends that fails.** Its journal is undone because of what triggered this. -/
theorem conclude_eq_error (h : conclude run f journal res events r = .error e r') :
    ∃ trigger r₁, Triggered run f.sink events journal.length r res trigger r₁ ∧
      (f.abandon journal trigger : Act κ α) r₁ = .error e r' := by
  cases res with
  | error trigger => exact ⟨trigger, _, .work, h⟩
  | ok a =>
    change (attempt (Sink.deliver run f.sink (events a)) >>= _) r = _ at h
    rw [bind_of_ok (attempt_eq ..)] at h
    -- after work that has come out well, only the delivery can fail
    cases hTold : Sink.deliver run f.sink (events a) r with
    | ok _ r₁ =>
      rw [ends_of_ok hTold] at h
      cases h
    | error trigger r₁ =>
      rw [ends_of_error hTold] at h
      exact ⟨trigger, _, .delivery hTold, h⟩

/-- An operation succeeds exactly if its work does and the sink takes all events. -/
theorem conclude_eq_ok_iff (hLedger : f.ledger = .object .ledger j) :
    conclude run f journal res events r = .ok a r' ↔
      res = .ok a ∧ Sink.deliver run f.sink (events a) r = .ok () r' := by
  cases res with
  -- what is abandoned ends in an error, whatever comes of its undoing
  | error e =>
    constructor
    · intro h
      exact absurd h (abandon_ne_ok hLedger journal e _)
    · rintro ⟨hOk, -⟩
      cases hOk
  | ok a₁ =>
    change (attempt (Sink.deliver run f.sink (events a₁)) >>= _) r = _ ↔ _
    rw [bind_of_ok (attempt_eq ..)]
    cases hTold : Sink.deliver run f.sink (events a₁) r with
    | ok _ r₁ =>
      rw [ends_of_ok hTold]
      constructor
      · intro h
        cases h
        exact ⟨rfl, hTold⟩
      · rintro ⟨hOk, hEnd⟩
        cases hOk
        rw [hTold] at hEnd
        cases hEnd
        rfl
    | error e r₁ =>
      rw [ends_of_error hTold]
      constructor
      · intro h
        exact absurd h (abandon_ne_ok hLedger journal e _)
      · rintro ⟨hOk, hEnd⟩
        cases hOk
        rw [hTold] at hEnd
        cases hEnd

/-- With a budget or null, what pays is a budget, and the very one that was handed over if one
was. -/
theorem purse_cases (f : Factory) (r : Realm κ)
    (hBudget : budget = .null ∨ ∃ k, budget = .object .budget k) :
    (∃ e, f.purse budget r = .error (.budget e) r) ∨
      ∃ b, f.purse budget r = .ok (.budget b) r ∧
        ∀ k, budget = .object .budget k → b = r.budget k := by
  rcases hBudget with rfl | ⟨k, rfl⟩
  · cases hValue : Budget.ofValue f.stepBudget with
    | error e =>
      refine .inl ⟨e, ?_⟩
      simp only [purse, hValue]
      rfl
    | ok b =>
      refine .inr ⟨b, ?_, fun k hk => by cases hk⟩
      simp only [purse, hValue]
      rfl
  · refine .inr ⟨r.budget k, rfl, fun k' hk => ?_⟩
    cases hk
    rfl

/-- What pays is found without a change to the realm, whatever was handed over. -/
theorem purse_outcome (f : Factory) (budget : Value) (r : Realm κ) :
    (∃ e, f.purse budget r = .error e r) ∨
      ∃ p, f.purse budget r = .ok p r ∧
        ∀ k, budget = .object .budget k → p = .budget (r.budget k) := by
  by_cases hBudget : budget = .null ∨ ∃ k, budget = .object .budget k
  · rcases purse_cases f r hBudget with ⟨e, hNone⟩ | ⟨b, hPays, hSame⟩
    · exact .inl ⟨_, hNone⟩
    · exact .inr ⟨_, hPays, fun k hk => by rw [hSame k hk]⟩
  · refine .inr ⟨.other budget, ?_, fun k hk => absurd (.inr ⟨k, hk⟩) hBudget⟩
    unfold purse
    split
    · exact absurd (.inl rfl) hBudget
    · exact absurd (.inr ⟨_, rfl⟩) hBudget
    · rfl

/-- If a budget pays, it is the one that was handed over, unless null was. -/
theorem budget_of_purse {b : Budget} (h : f.purse budget r = .ok (.budget b) r') :
    (budget = .null ∨ ∃ k, budget = .object .budget k) ∧
      ∀ k, budget = .object .budget k → b = r.budget k := by
  unfold purse at h
  split at h
  · exact ⟨.inl rfl, fun k hk => by cases hk⟩
  · cases h
    refine ⟨.inr ⟨_, rfl⟩, fun k hk => ?_⟩
    cases hk
    rfl
  · cases h

/-- A factory that is set up hands out its recipe, and nothing changes. -/
theorem release_recipe {recipe : Recipe} (h : f.configuration = .holding recipe) :
    (release f.recipe : Act κ Recipe) r = .ok recipe r := by
  rw [Factory.recipe, h]
  rfl

/-- A factory that is not set up raises the error that says so, and nothing changes. -/
theorem release_recipe_blank (h : f.configuration = .blank) :
    (release f.recipe : Act κ Recipe) r = .error (.configuration .notSetUp) r := by
  rw [Factory.recipe, h]
  rfl

/-! ## What operations amount to -/

section Equations

variable {i : Nat} {recipe : Recipe} {name given world components systems : Value}
  {parts more : List Value} {b : Workbench}

/-- **A spawn after its work**: the end of the operation, which tells the sink or undoes the work,
and a record of what has been spawned and paid. -/
theorem spawn_eq {res : Except Error InstanceHandle}
    (hLedger : (r.factory i).ledger = .object .ledger j)
    (hRecipe : (r.factory i).configuration = .holding recipe)
    (hPurse : (r.factory i).purse budget r = .ok p r)
    (hWork : ends (Work.makeWorld (r.catalogFor j) recipe name parts more) ⟨r.site j, p, []⟩ =
      (res, b)) :
    spawn run i name parts more budget r =
      (do
        let h ← conclude run (r.factory i) b.journal res fun h => [.worldCreated h]
        let used ← spent b.purse budget
        Act.report (.worldSpawned name h parts.length more.length used)
        return h) ((r.closed j b.site).kept b.purse budget) := by
  have hPerform := perform_eq hLedger p .deploy
    (fun c => Work.makeWorld c recipe name parts more) r
  rw [hWork] at hPerform
  unfold spawn
  rw [bind_of_ok (get_eq r), bind_of_ok (release_recipe hRecipe),
    bind_of_ok hPurse, bind_of_ok hPerform]
  -- the purse is kept before it is looked at how the work has come out
  exact bind_of_ok (keepPurse_eq ..)

/-- **A deployment after its work**: nothing remains but the end of the operation. It has no budget,
and leaves no record of its own. -/
theorem deploy_eq {res : Except Error InstanceHandle}
    (hLedger : (r.factory i).ledger = .object .ledger j)
    (hRecipe : (r.factory i).configuration = .holding recipe)
    (hWork : ends (Work.deployWorld (r.catalogFor j) recipe name)
      ⟨r.site j, .budget .unmetered, []⟩ = (res, b)) :
    deploy run i name r =
      conclude run (r.factory i) b.journal res (fun h => [.worldCreated h])
        (r.closed j b.site) := by
  have hPerform := perform_eq hLedger (.budget .unmetered) .deploy
    (fun c => Work.deployWorld c recipe name) r
  rw [hWork] at hPerform
  unfold deploy
  rw [bind_of_ok (get_eq r), bind_of_ok (release_recipe hRecipe),
    bind_of_ok hPerform]

/-- **A registration of parts after its work**: the end of the operation, at which the sink has
nothing to be told. -/
theorem registerAll_eq {res : Except Error Unit}
    (hLedger : (r.factory i).ledger = .object .ledger j)
    (hRecipe : (r.factory i).configuration = .holding recipe)
    (hPurse : (r.factory i).purse budget r = .ok p r)
    (hWork : ends (Work.registerParts (r.catalogFor j) world components systems)
      ⟨r.site j, p, []⟩ = (res, b)) :
    registerAll run i world components systems budget r =
      conclude run (r.factory i) b.journal res (fun _ => [])
        ((r.closed j b.site).kept b.purse budget) := by
  have hPerform := perform_eq hLedger p .dispatcher
    (fun c => Work.registerParts c world components systems) r
  rw [hWork] at hPerform
  unfold registerAll
  rw [bind_of_ok (get_eq r), bind_of_ok (release_recipe hRecipe),
    bind_of_ok hPurse, bind_of_ok hPerform]
  exact bind_of_ok (keepPurse_eq ..)

/-- What becomes of a value that is no request: it is asked for a name, and a world of this name is
deployed before the components are asked for, which it does not have. -/
theorem spawnRequest_of_not_request
    (h : ¬∃ name components systems, given = .request name components systems) :
    spawnRequest run i given budget = (do
      let f := (← get).factory i
      let recipe ← release f.recipe
      let purse ← f.purse budget
      match given.name? with
      | none => conclude run f [] (.error (.lacking given "name")) fun _ => []
      | some name =>
        let (outcome, _, journal) ← f.perform purse .deploy fun c => do
          let _ ← Work.deployWorld c recipe name
          throw (.lacking given "component_ids")
        conclude run f journal outcome fun _ => []) := by
  cases given with
  | request name components systems => exact absurd ⟨name, components, systems, rfl⟩ h
  | _ => rfl

/-- The steps that are told are those of the budget that was handed over, and of the factory's own
one if none was. -/
theorem spent_spec (hPurse : ∃ b, p = .budget b)
    (hBudget : budget = .null ∨ ∃ k, budget = .object .budget k) (r : Realm κ) :
    ∃ n, (spent p budget : Act κ Int) r = .ok n r ∧
      (∀ k, budget = .object .budget k → n = (r.budget k).used) ∧
      (budget = .null → p.used = .ok n) := by
  obtain ⟨b, rfl⟩ := hPurse
  -- a budget is asked by itself, and without one the purse tells
  rcases hBudget with rfl | ⟨k, rfl⟩
  · refine ⟨b.used, rfl, fun k hk => ?_, fun _ => rfl⟩
    cases hk
  · refine ⟨(r.budget k).used, rfl, fun k' hk => ?_, fun hNull => ?_⟩
    · cases hk
      rfl
    · cases hNull

/-- The steps that a budget has paid for can always be told. -/
theorem spent_eq (hPurse : ∃ b, p = .budget b)
    (hBudget : budget = .null ∨ ∃ k, budget = .object .budget k) (r : Realm κ) :
    ∃ n, (spent p budget : Act κ Int) r = .ok n r := by
  obtain ⟨n, hSpent, -⟩ := spent_spec hPurse hBudget r
  exact ⟨n, hSpent⟩

end Equations

/-! ## Administration -/

/-- What an administrator can ask of a factory. -/
inductive Administration where
  | setUp (template executor : Value)
  | setExecutor (executor : Value)
  | setTemplate (template : Value)

def Administration.act (i : Nat) : Administration → Act κ Unit
  | setUp template executor => Factory.setUp i template executor
  | setExecutor executor => Factory.setExecutor i executor
  | setTemplate template => Factory.setTemplate i template

namespace Administration

variable {a : Administration} {i : Nat} {recipe : Recipe}

/-- What an administrator asks of a configuration. -/
def change : Administration → Configuration → Except ConfigurationError Recipe
  | setUp template executor, c => c.setUp template executor
  | setExecutor executor, c => c.setExecutor executor
  | setTemplate template, c => c.setTemplate template

/-- How it is recorded that a recipe is in force now. -/
def record : Administration → Recipe → LogRecord
  | setUp .., recipe => .configured recipe
  | setExecutor _, recipe => .executorSet recipe.executor
  | setTemplate _, recipe => .templateSet recipe.template

/-- What is done to the recipe of a factory is a change of its configuration, and a record if the
change was accepted. -/
theorem act_eq (a : Administration) (i : Nat) :
    (a.act i : Act κ Unit) = reconfigure i a.change >>= fun x => Act.report (a.record x) := by
  cases a <;> rfl

/-- **What administration comes to.** If the configuration takes it, the new recipe is in force and
recorded. Otherwise nothing has changed. -/
theorem act_outcome (a : Administration) (i : Nat) (r : Realm κ) :
    (∃ e, a.change (r.factory i).configuration = .error e ∧
      a.act i r = .error (.configuration e) r) ∨
    ∃ recipe, a.change (r.factory i).configuration = .ok recipe ∧
      a.act i r = .ok () ((r.putFactory i
        { r.factory i with configuration := .holding recipe }).appendTrace
          [.log (a.record recipe)]) := by
  rw [act_eq]
  -- the configuration alone decides whether the change is accepted
  cases hChange : a.change (r.factory i).configuration with
  | error e =>
    refine .inl ⟨e, rfl, bind_of_error ?_⟩
    unfold reconfigure
    rw [bind_of_ok (get_eq r)]
    simp only [hChange]
    rfl
  | ok recipe =>
    refine .inr ⟨recipe, rfl, ?_⟩
    have hDone : (reconfigure i a.change : Act κ Recipe) r =
        .ok recipe (r.putFactory i { r.factory i with configuration := .holding recipe }) := by
      unfold reconfigure
      rw [bind_of_ok (get_eq r)]
      simp only [hChange]
      rfl
    rw [bind_of_ok hDone]
    rfl

end Administration

end Factory

/-! ## Operations -/

/-- What a factory can be asked to do on its ledger. -/
inductive Operation where
  | spawn (name : Value) (components systems : List Value) (budget : Value)
  | request (given budget : Value)
  | deploy (name : Value)
  | registerAll (world components systems budget : Value)

namespace Operation

variable {run : κ → Act κ Unit} {i j : Nat} {o : Operation} {r r' : Realm κ} {recipe : Recipe}
  {c : Catalog} {handed : List InstanceHandle} {p : Purse} {e : Error} {b : Workbench}

/-- What an operation gives. -/
abbrev Result : Operation → Type
  | registerAll .. => Unit
  | spawn .. | request .. | deploy _ => InstanceHandle

/-- An operation, asked of a factory. -/
def act (run : κ → Act κ Unit) (i : Nat) : (o : Operation) → Act κ o.Result
  | spawn name components systems budget => Factory.spawn run i name components systems budget
  | request given budget => Factory.spawnRequest run i given budget
  | deploy name => Factory.deploy run i name
  | registerAll world components systems budget =>
    Factory.registerAll run i world components systems budget

/-- What is handed over to pay for an operation. -/
def budget : Operation → Value
  | spawn _ _ _ budget | request _ budget | registerAll _ _ _ budget => budget
  | deploy _ => .null

/-- What pays for an operation. A deployment alone takes no steps. -/
def purse (f : Factory) : Operation → Act κ Purse
  | spawn _ _ _ budget | request _ budget | registerAll _ _ _ budget => f.purse budget
  | deploy _ => pure (.budget .unmetered)

/-- The work for a value that is no request. It may have a name to deploy a world by, but it has no
parts. -/
def misrequest (recipe : Recipe) (c : Catalog) (given : Value) : Work InstanceHandle :=
  match given.name? with
  | none => throw (.lacking given "name")
  | some name => do
    let _ ← Work.deployWorld c recipe name
    throw (.lacking given "component_ids")

/-- The work of an operation on the ledger. -/
def work (recipe : Recipe) (c : Catalog) : (o : Operation) → Work o.Result
  | spawn name components systems _ => Work.makeWorld c recipe name components systems
  | request (.request name components systems) _ =>
    Work.makeWorld c recipe name components systems
  | request given _ => misrequest recipe c given
  | deploy name => Work.deployWorld c recipe name
  | registerAll world components systems _ => Work.registerParts c world components systems

/-- How many parts an operation is about. -/
def size : Operation → Nat
  | spawn _ components systems _ => components.length + systems.length
  | request (.request _ components systems) _ => components.length + systems.length
  | request .. | deploy _ => 0
  | registerAll _ components systems _ =>
    (Work.partsOf .component components ++ Work.partsOf .system systems).length

/-- What a sink is told of when an operation succeeds. -/
def events : (o : Operation) → o.Result → List Value
  | spawn .., h | request .., h | deploy _, h => [.worldCreated h]
  | registerAll .., _ => []

/-- What an operation does when it has succeeded: a spawn reports the steps that were paid for. -/
def farewell (purse : Purse) : (o : Operation) → o.Result → Act κ o.Result
  | spawn name components systems budget, h
  | request (.request name components systems) budget, h => do
    let used ← Factory.spent purse budget
    Act.report (.worldSpawned name h components.length systems.length used)
    return h
  | request .., h | deploy _, h => pure h
  | registerAll .., _ => pure ()

/-- The record that an operation makes of its success: a spawn tells of its world, and of the steps
that were paid for. -/
def announcement (used : Int) : (o : Operation) → o.Result → Option LogRecord
  | spawn name components systems _, h
  | request (.request name components systems) _, h =>
    some (.worldSpawned name h components.length systems.length used)
  | request .., _ | deploy _, _ | registerAll .., _ => none

/-- A value that is no request is found out in the course of the work: at once if it has no name,
and otherwise when a world has been deployed under the name. -/
theorem work_of_not_request {given budget : Value}
    (h : ¬∃ name components systems, given = .request name components systems) :
    work recipe c (request given budget) = misrequest recipe c given := by
  cases given with
  | request name components systems => exact absurd ⟨name, components, systems, rfl⟩ h
  | _ => rfl

/-- A value that is no request asks for no parts. -/
theorem size_of_not_request {given budget : Value}
    (h : ¬∃ name components systems, given = .request name components systems) :
    (request given budget).size = 0 := by
  cases given with
  | request name components systems => exact absurd ⟨name, components, systems, rfl⟩ h
  | _ => rfl

/-- What is refused for not being a request has at most deployed a world, paid nothing, and
journaled what it has done. -/
theorem accounted_misrequest (recipe : Recipe) (c : Catalog) (given : Value)
    (hJournal : b.journal = []) :
    ∃ new?, Work.Accounted c new? 0 b (ends (misrequest recipe c given) b).2 := by
  rw [misrequest]
  cases given.name? with
  | none => exact ⟨none, Work.accounted_self hJournal⟩
  | some name =>
    obtain ⟨new?, hDone⟩ := Work.accounted_deployWorld hJournal c recipe name
    refine ⟨new?, ?_⟩
    -- the world is deployed, and only then its parts are found to be missing
    show Work.Accounted c new? 0 b (ends (_ >>= fun _ => throw _) b).2
    rw [ends_bind]
    rcases hEnds : ends (Work.deployWorld c recipe name) b with ⟨_ | _, b'⟩
    · rw [hEnds] at hDone
      exact hDone
    · rw [hEnds] at hDone
      exact hDone

/-- **The work of every operation is accounted for.** However it ends, the journal holds what the
ledger has gained, entry by entry, and the purse has paid for the parts that were tried. -/
theorem accounted_work (o : Operation) (recipe : Recipe)
    (hs : Ledger.Sound c b.site.ledger handed) (hJournal : b.journal = []) :
    ∃ new?, ∃ n ≤ o.size, Work.Accounted c new? n b (ends (o.work recipe c) b).2 := by
  cases o with
  | spawn name components systems budget => exact Work.accounted_makeWorld hJournal ..
  | deploy name =>
    obtain ⟨new?, hDone⟩ := Work.accounted_deployWorld hJournal c recipe name
    exact ⟨new?, 0, Nat.zero_le _, hDone⟩
  | registerAll world components systems budget =>
    exact ⟨none, Work.accounted_registerParts hs hJournal ..⟩
  | request given budget =>
    by_cases hRequest : ∃ name components systems, given = .request name components systems
    · obtain ⟨name, components, systems, rfl⟩ := hRequest
      exact Work.accounted_makeWorld hJournal ..
    · obtain ⟨new?, hDone⟩ := accounted_misrequest recipe c given hJournal
      rw [work_of_not_request hRequest]
      exact ⟨new?, 0, Nat.zero_le _, hDone⟩

/-- With a budget or null there is something to pay with, unless the factory's own number of steps
is none. -/
theorem purse_cases (f : Factory) (r : Realm κ)
    (hBudget : o.budget = .null ∨ ∃ k, o.budget = .object .budget k) :
    (∃ e, o.purse f r = .error (.budget e) r) ∨
      ∃ p, o.purse f r = .ok p r ∧
        ∃ b, p = .budget b ∧ ∀ k, o.budget = .object .budget k → b = r.budget k := by
  cases o with
  -- a deployment alone is paid for by a budget without a limit
  | deploy name => exact .inr ⟨_, rfl, _, rfl, fun k hk => by cases hk⟩
  | _ =>
    rcases Factory.purse_cases f r hBudget with hNone | ⟨b, hPays, hSame⟩
    · exact .inl hNone
    · exact .inr ⟨_, hPays, b, rfl, hSame⟩

/-- Whatever was handed over, what pays is found without a change to the realm. -/
theorem purse_outcome (o : Operation) (f : Factory) (r : Realm κ) :
    (∃ e, o.purse f r = .error e r) ∨
      ∃ p, o.purse f r = .ok p r ∧
        ∀ k, o.budget = .object .budget k → p = .budget (r.budget k) := by
  cases o with
  | deploy name => exact .inr ⟨_, rfl, fun k hk => by cases hk⟩
  | _ => exact Factory.purse_outcome f _ r

/-- If a budget pays, it is the one that was handed over, unless none was. -/
theorem budget_of_purse {f : Factory} {q : Budget} (h : o.purse f r = .ok (.budget q) r') :
    (o.budget = .null ∨ ∃ k, o.budget = .object .budget k) ∧
      ∀ k, o.budget = .object .budget k → q = r.budget k := by
  cases o with
  | deploy name => exact ⟨.inl rfl, fun k hk => by cases hk⟩
  | _ => exact Factory.budget_of_purse h

/-- Without a recipe, an operation does nothing: the recipe is asked for before the purse and the
ledger. -/
theorem act_of_blank (hBlank : (r.factory i).configuration = .blank) :
    o.act run i r = .error (.configuration .notSetUp) r := by
  have hSpawn : ∀ name parts more budget,
      Factory.spawn run i name parts more budget r = .error (.configuration .notSetUp) r := by
    intro name parts more budget
    unfold Factory.spawn
    rw [bind_of_ok (get_eq r), bind_of_error (Factory.release_recipe_blank hBlank)]
  -- each operation asks for the recipe before it does anything
  cases o with
  | spawn name components systems budget => exact hSpawn ..
  | deploy name =>
    change Factory.deploy run i name r = _
    unfold Factory.deploy
    rw [bind_of_ok (get_eq r), bind_of_error (Factory.release_recipe_blank hBlank)]
  | registerAll world components systems budget =>
    change Factory.registerAll run i world components systems budget r = _
    unfold Factory.registerAll
    rw [bind_of_ok (get_eq r), bind_of_error (Factory.release_recipe_blank hBlank)]
  | request given budget =>
    by_cases hRequest : ∃ name components systems, given = .request name components systems
    · obtain ⟨name, components, systems, rfl⟩ := hRequest
      exact hSpawn ..
    · rw [act, Factory.spawnRequest_of_not_request hRequest]
      rw [bind_of_ok (get_eq r), bind_of_error (Factory.release_recipe_blank hBlank)]

/-- Without anything to pay with, an operation does nothing: the purse is got ready before the
ledger is called. -/
theorem act_of_purse_error (hRecipe : (r.factory i).configuration = .holding recipe)
    (hPurse : o.purse (r.factory i) r = .error e r) : o.act run i r = .error e r := by
  have hSpawn : ∀ name parts more budget, (r.factory i).purse budget r = .error e r →
      Factory.spawn run i name parts more budget r = .error e r := by
    intro name parts more budget hNone
    unfold Factory.spawn
    rw [bind_of_ok (get_eq r), bind_of_ok (Factory.release_recipe hRecipe),
      bind_of_error hNone]
  -- each operation asks for its purse next, apart from a deployment, which takes no steps
  cases o with
  | spawn name components systems budget => exact hSpawn _ _ _ _ hPurse
  | deploy name => cases hPurse
  | registerAll world components systems budget =>
    change (r.factory i).purse budget r = _ at hPurse
    change Factory.registerAll run i world components systems budget r = _
    unfold Factory.registerAll
    rw [bind_of_ok (get_eq r), bind_of_ok (Factory.release_recipe hRecipe),
      bind_of_error hPurse]
  | request given budget =>
    change (r.factory i).purse budget r = _ at hPurse
    by_cases hRequest : ∃ name components systems, given = .request name components systems
    · obtain ⟨name, components, systems, rfl⟩ := hRequest
      exact hSpawn _ _ _ _ hPurse
    · rw [act, Factory.spawnRequest_of_not_request hRequest]
      rw [bind_of_ok (get_eq r), bind_of_ok (Factory.release_recipe hRecipe),
        bind_of_error hPurse]

/-- An operation that has succeeded makes its announcement and does nothing else. The steps that it
tells of have been paid for by the budget that was handed over, or by the factory's own one. -/
theorem farewell_announces (hPurse : ∃ b, p = .budget b)
    (hBudget : o.budget = .null ∨ ∃ k, o.budget = .object .budget k) (a : o.Result)
    (r : Realm κ) :
    ∃ used, o.farewell p a r =
        .ok a (r.appendTrace ((o.announcement used a).toList.map .log)) ∧
      (∀ k, o.budget = .object .budget k → used = (r.budget k).used) ∧
      (o.budget = .null → p.used = .ok used) := by
  obtain ⟨used, hSpent, hSteps⟩ := Factory.spent_spec hPurse hBudget r
  refine ⟨used, ?_, hSteps⟩
  have hNothing : (pure a : Act κ o.Result) r = .ok a (r.appendTrace []) := by
    simp [Realm.appendTrace, pure, EStateM.pure]
  cases o with
  -- only the making of a world with parts is announced, and the announcement tells the steps used
  | spawn name components systems budget => exact bind_of_ok hSpent
  | request given budget =>
    cases given with
    | request name components systems => exact bind_of_ok hSpent
    | _ => exact hNothing
  | deploy name => exact hNothing
  | registerAll world components systems budget => exact hNothing

/-- Nothing can go wrong any more when an operation reports its success. -/
theorem farewell_eq (hPurse : ∃ b, p = .budget b)
    (hBudget : o.budget = .null ∨ ∃ k, o.budget = .object .budget k) (a : o.Result)
    (r : Realm κ) : ∃ entries, o.farewell p a r = .ok a (r.appendTrace entries) := by
  obtain ⟨used, hFarewell, -⟩ := farewell_announces hPurse hBudget a r
  exact ⟨_, hFarewell⟩

/-- What fails for a value that is no request is the work. -/
theorem act_of_misrequest {given budget : Value} {res : Except Error InstanceHandle}
    (hLedger : (r.factory i).ledger = .object .ledger j)
    (hRecipe : (r.factory i).configuration = .holding recipe)
    (hPurse : (r.factory i).purse budget r = .ok p r)
    (hRequest : ¬∃ name components systems, given = .request name components systems)
    (hWork : ends (misrequest recipe (r.catalogFor j) given) ⟨r.site j, p, []⟩ = (res, b)) :
    ∃ e₁ r₁, res = .error e₁ ∧ (r₁ = r ∧ b = ⟨r.site j, p, []⟩ ∨ r₁ = r.closed j b.site) ∧
      ∀ run : κ → Act κ Unit, Factory.spawnRequest run i given budget r =
        Factory.conclude run (r.factory i) b.journal (.error e₁) (fun _ => []) r₁ := by
  rw [misrequest] at hWork
  cases hName : given.name? with
  | none =>
    rw [hName] at hWork
    cases hWork
    refine ⟨_, r, rfl, .inl ⟨rfl, rfl⟩, fun run => ?_⟩
    rw [Factory.spawnRequest_of_not_request hRequest, bind_of_ok (get_eq r),
      bind_of_ok (Factory.release_recipe hRecipe), bind_of_ok hPurse, hName]
  | some name =>
    rw [hName] at hWork
    -- the deployment may succeed, but then there are no parts to go on with
    have hPerform := Factory.perform_eq hLedger p .deploy (fun c => do
      let _ ← Work.deployWorld c recipe name
      (throw (.lacking given "component_ids") : Work InstanceHandle)) r
    obtain ⟨e₁, rfl⟩ : ∃ e₁, res = .error e₁ := by
      change ends (Work.deployWorld _ recipe name >>= fun _ => throw _) _ = _ at hWork
      rw [ends_bind] at hWork
      split at hWork <;> cases hWork <;> exact ⟨_, rfl⟩
    change ends (Work.deployWorld _ recipe name >>= fun _ => throw _) _ = _ at hWork
    rw [hWork] at hPerform
    refine ⟨e₁, _, rfl, .inr rfl, fun run => ?_⟩
    rw [Factory.spawnRequest_of_not_request hRequest, bind_of_ok (get_eq r),
      bind_of_ok (Factory.release_recipe hRecipe), bind_of_ok hPurse, hName]
    exact bind_of_ok hPerform

/-- On a value that is no ledger, a spawn fails at its deployment. -/
theorem spawn_astray (hAstray : ∀ j, (r.factory i).ledger ≠ .object .ledger j)
    (hRecipe : (r.factory i).configuration = .holding recipe) {budget : Value}
    (hPays : (r.factory i).purse budget r = .ok p r) (name : Value) (parts more : List Value) :
    ∃ e, ∀ run : κ → Act κ Unit, Factory.spawn run i name parts more budget r =
      .error e ((r.kept p budget).appendTrace [.log (.rollingBack 0 e)]) := by
  refine ⟨Factory.notLedger (r.factory i).ledger .deploy, fun run => ?_⟩
  unfold Factory.spawn
  rw [bind_of_ok (get_eq r), bind_of_ok (Factory.release_recipe hRecipe), bind_of_ok hPays,
    bind_of_ok (Factory.perform_astray hAstray p .deploy _ r)]
  -- the purse is kept before it is found out that the work has failed
  exact (bind_of_ok (Factory.keepPurse_eq p budget r)).trans
    (bind_of_error (Factory.conclude_astray hAstray ..))

/-- On a value that is no ledger, every operation fails before anything has been done. At
most the budget that was handed over has been kept, as it was. -/
theorem act_astray (hAstray : ∀ j, (r.factory i).ledger ≠ .object .ledger j)
    (hRecipe : (r.factory i).configuration = .holding recipe)
    (hPurse : o.purse (r.factory i) r = .ok p r) :
    ∃ e r₁, (r₁ = r ∨ r₁ = r.kept p o.budget) ∧ ∀ run : κ → Act κ Unit,
      o.act run i r = .error e (r₁.appendTrace [.log (.rollingBack 0 e)]) := by
  cases o with
  | spawn name components systems budget =>
    obtain ⟨e, hAct⟩ := spawn_astray hAstray hRecipe hPurse name components systems
    exact ⟨e, _, .inr rfl, hAct⟩
  | request given budget =>
    by_cases hRequest : ∃ name components systems, given = .request name components systems
    · obtain ⟨name, components, systems, rfl⟩ := hRequest
      obtain ⟨e, hAct⟩ := spawn_astray hAstray hRecipe hPurse name components systems
      exact ⟨e, _, .inr rfl, hAct⟩
    -- for what is no request nothing is paid, and its purse is not kept
    · change (r.factory i).purse budget r = _ at hPurse
      cases hName : given.name? with
      | none =>
        refine ⟨.lacking given "name", r, .inl rfl, fun run => ?_⟩
        rw [act, Factory.spawnRequest_of_not_request hRequest, bind_of_ok (get_eq r),
          bind_of_ok (Factory.release_recipe hRecipe), bind_of_ok hPurse, hName]
        exact Factory.conclude_astray hAstray ..
      | some name =>
        refine ⟨Factory.notLedger (r.factory i).ledger .deploy, r, .inl rfl, fun run => ?_⟩
        rw [act, Factory.spawnRequest_of_not_request hRequest, bind_of_ok (get_eq r),
          bind_of_ok (Factory.release_recipe hRecipe), bind_of_ok hPurse, hName]
        exact (bind_of_ok (Factory.perform_astray hAstray p .deploy _ r)).trans
          (Factory.conclude_astray hAstray ..)
  | deploy name =>
    cases hPurse
    refine ⟨Factory.notLedger (r.factory i).ledger .deploy, r, .inl rfl, fun run => ?_⟩
    change Factory.deploy run i name r = _
    unfold Factory.deploy
    rw [bind_of_ok (get_eq r), bind_of_ok (Factory.release_recipe hRecipe),
      bind_of_ok (Factory.perform_astray hAstray _ .deploy _ r)]
    exact Factory.conclude_astray hAstray ..
  | registerAll world components systems budget =>
    refine ⟨Factory.notLedger (r.factory i).ledger .dispatcher, _, .inr rfl, fun run => ?_⟩
    change (r.factory i).purse budget r = _ at hPurse
    change Factory.registerAll run i world components systems budget r = _
    unfold Factory.registerAll
    rw [bind_of_ok (get_eq r), bind_of_ok (Factory.release_recipe hRecipe), bind_of_ok hPurse,
      bind_of_ok (Factory.perform_astray hAstray p .dispatcher _ r)]
    exact (bind_of_ok (Factory.keepPurse_eq p budget r)).trans
      (Factory.conclude_astray hAstray ..)

/-- **Where an operation stands when its work is done**, which has left the workbench `b`. A value
that is no request is about no parts, so that nothing was paid. -/
inductive Begun (o : Operation) (j : Nat) (r : Realm κ) (p : Purse) (b : Workbench) :
    Realm κ → Prop
  | kept : Begun o j r p b ((r.closed j b.site).kept b.purse o.budget)
  | closed (hSize : o.size = 0) : Begun o j r p b (r.closed j b.site)
  | idle (hSize : o.size = 0) (hIdle : b = ⟨r.site j, p, []⟩) : Begun o j r p b r

/-- **What every operation amounts to.** First comes its work; in the realm that the work has left,
the sink is told or the work is undone; and only a success is reported. -/
theorem act_begun {res : Except Error o.Result}
    (hLedger : (r.factory i).ledger = .object .ledger j)
    (hRecipe : (r.factory i).configuration = .holding recipe)
    (hPurse : o.purse (r.factory i) r = .ok p r)
    (hWork : ends (o.work recipe (r.catalogFor j)) ⟨r.site j, p, []⟩ = (res, b)) :
    ∃ r₁, o.Begun j r p b r₁ ∧
      (∀ a, res = .ok a → r₁ = (r.closed j b.site).kept b.purse o.budget) ∧
      ∀ run : κ → Act κ Unit, o.act run i r =
        (Factory.conclude run (r.factory i) b.journal res o.events >>= o.farewell b.purse) r₁ := by
  have hPure : ∀ (α : Type) (x : Act κ α), (x >>= fun a => pure a) = x := fun _ _ => bind_pure _
  cases o with
  | spawn name components systems budget =>
    exact ⟨_, .kept, fun _ _ => rfl, fun _ => Factory.spawn_eq hLedger hRecipe hPurse hWork⟩
  | request given budget =>
    by_cases hRequest : ∃ name components systems, given = .request name components systems
    · obtain ⟨name, components, systems, rfl⟩ := hRequest
      exact ⟨_, .kept, fun _ _ => rfl, fun _ => Factory.spawn_eq hLedger hRecipe hPurse hWork⟩
    -- what is no request fails in its work, and is undone where that has left the realm
    · rw [work_of_not_request hRequest] at hWork
      obtain ⟨e₁, r₁, rfl, hWhere, hAct⟩ :=
        act_of_misrequest hLedger hRecipe hPurse hRequest hWork
      have hSize : (request given budget).size = 0 := size_of_not_request hRequest
      refine ⟨r₁, ?_, fun a ha => (by cases ha), fun run => ?_⟩
      · rcases hWhere with ⟨rfl, hIdle⟩ | rfl
        · exact .idle hSize hIdle
        · exact .closed hSize
      obtain ⟨os, s, hUnwound⟩ := exists_unwound (fun r s => ⟨_, Site.report_eq r s⟩) b.journal
        ((r₁.appendTrace [.log (.rollingBack b.journal.length e₁)]).site j)
      have hEnd := Factory.abandon_of_unwound (α := InstanceHandle) hLedger hUnwound e₁
      change Factory.spawnRequest run i given budget r = _
      rw [hAct]
      exact hEnd.trans (bind_of_error hEnd).symm
  | deploy name =>
    cases hPurse
    refine ⟨_, .kept, fun _ _ => rfl, fun run => ?_⟩
    rw [Realm.kept_of_ne (fun k hk => by cases hk)]
    exact (Factory.deploy_eq hLedger hRecipe hWork).trans (congrFun (hPure _ _) _).symm
  | registerAll world components systems budget =>
    refine ⟨_, .kept, fun _ _ => rfl, fun run => ?_⟩
    exact (Factory.registerAll_eq hLedger hRecipe hPurse hWork).trans
      (congrFun (hPure _ _) _).symm

/-- **An operation that does not get to work**: the factory has no recipe, nothing to pay with, or
no ledger. -/
inductive Barred (o : Operation) (i : Nat) (r : Realm κ) : Prop
  | blank (h : (r.factory i).configuration = .blank)
  | unpaid {e : Error} (h : o.purse (r.factory i) r = .error e r)
  | astray (h : ∀ j, (r.factory i).ledger ≠ .object .ledger j)

/-- An operation gets to work if the factory has a ledger and a recipe, and something to pay with.
-/
theorem barred_or_equipped (o : Operation) (i : Nat) (r : Realm κ) :
    o.Barred i r ∨ ∃ j recipe p, (r.factory i).ledger = .object .ledger j ∧
      (r.factory i).configuration = .holding recipe ∧ o.purse (r.factory i) r = .ok p r ∧
      ∀ k, o.budget = .object .budget k → p = .budget (r.budget k) := by
  rcases hConfiguration : (r.factory i).configuration with ⟨_ | recipe⟩
  · exact .inl (.blank hConfiguration)
  rcases o.purse_outcome (r.factory i) r with ⟨e, hNone⟩ | ⟨p, hPurse, hSame⟩
  · exact .inl (.unpaid hNone)
  -- with a recipe and a purse, only the ledger can be missing
  by_cases hLedger : ∃ j, (r.factory i).ledger = .object .ledger j
  · obtain ⟨j, hLedger⟩ := hLedger
    exact .inr ⟨j, recipe, p, hLedger, rfl, hPurse, hSame⟩
  · exact .inl (.astray fun j h => hLedger ⟨j, h⟩)

/-- **An operation that does not get to work fails**, whatever the way to run code: `F` holds where
it has failed if it holds at the start, and keeping the budget or reporting the failure does not
change that. -/
theorem act_of_barred {F : Realm κ → Prop} (h : o.Barred i r) (hHere : F r)
    (hKept : ∀ p, (∀ k, o.budget = .object .budget k → p = .budget (r.budget k)) →
      F (r.kept p o.budget))
    (hNote : ∀ r₁ e, F r₁ → F (r₁.appendTrace [.log (.rollingBack 0 e)])) :
    ∃ e r₁, F r₁ ∧ ∀ run : κ → Act κ Unit, o.act run i r = .error e r₁ := by
  -- the recipe is looked for first, then the purse; with both of them only the ledger can be
  -- missing
  rcases hConfiguration : (r.factory i).configuration with ⟨_ | recipe⟩
  · exact ⟨_, r, hHere, fun run => act_of_blank hConfiguration⟩
  rcases o.purse_outcome (r.factory i) r with ⟨e, hNone⟩ | ⟨p, hPurse, hSame⟩
  · exact ⟨e, r, hHere, fun run => act_of_purse_error hConfiguration hNone⟩
  cases h with
  | blank hBlank =>
    rw [hConfiguration] at hBlank
    cases hBlank
  | unpaid hNone =>
    rw [hPurse] at hNone
    cases hNone
  | astray hAstray =>
    obtain ⟨e, r₁, hWhere, hAct⟩ := act_astray hAstray hConfiguration hPurse
    refine ⟨e, _, hNote r₁ e ?_, hAct⟩
    rcases hWhere with rfl | rfl
    · exact hHere
    · exact hKept p hSame

/-- **How every operation begins**: it fails, or there is work, and then the end of the operation.
What code is run is no matter until then, so that `F` holds there if it does after all that may have
been done. -/
theorem act_cases {F : Realm κ → Prop} (o : Operation) (i : Nat) (r : Realm κ)
    (hBarred : o.Barred i r → F r)
    (hKept : o.Barred i r → ∀ p, (∀ k, o.budget = .object .budget k → p = .budget (r.budget k)) →
      F (r.kept p o.budget))
    (hNote : ∀ r₁ e, F r₁ → F (r₁.appendTrace [.log (.rollingBack 0 e)]))
    (hBegun : ∀ {j recipe p res b r₁}, (r.factory i).ledger = .object .ledger j →
      (r.factory i).configuration = .holding recipe → o.purse (r.factory i) r = .ok p r →
      ends (o.work recipe (r.catalogFor j)) ⟨r.site j, p, []⟩ = (res, b) → o.Begun j r p b r₁ →
      F r₁) :
    (∃ e r₁, F r₁ ∧ ∀ run, o.act run i r = .error e r₁) ∨
      ∃ r₁ journal res p, F r₁ ∧ ∀ run : κ → Act κ Unit, o.act run i r =
        (Factory.conclude run (r.factory i) journal res o.events >>= o.farewell p) r₁ := by
  rcases o.barred_or_equipped i r with hOut | ⟨j, recipe, p, hLedger, hRecipe, hPurse, -⟩
  · exact .inl (act_of_barred hOut (hBarred hOut) (hKept hOut) hNote)
  · rcases hWork : ends (o.work recipe (r.catalogFor j)) ⟨r.site j, p, []⟩ with ⟨res, b⟩
    obtain ⟨r₁, hDone, -, hAct⟩ := act_begun hLedger hRecipe hPurse hWork
    exact .inr ⟨r₁, b.journal, res, b.purse, hBegun hLedger hRecipe hPurse hWork hDone, hAct⟩

/-- What has become of the realm is work on its ledger, for which a budget has paid. -/
theorem Begun.worked {n : Nat} {r₁ : Realm κ}
    (h : o.Begun j r p b r₁)
    (hBudgets : ∃ b, p = .budget b ∧ ∀ k, o.budget = .object .budget k → b = r.budget k)
    (hn : n ≤ o.size) (hPaid : b.purse = p.after n) : r.Worked j o.budget n b.site r₁ := by
  cases h with
  | kept =>
    rw [hPaid]
    exact Realm.worked_kept b.site hBudgets
  | closed hSize =>
    obtain rfl := Nat.le_zero.1 (hSize ▸ hn)
    exact Realm.worked_closed ..
  | idle hSize hIdle =>
    obtain rfl := Nat.le_zero.1 (hSize ▸ hn)
    rw [hIdle]
    exact Realm.worked_self ..

/-- Once something pays that is a budget, an operation amounts to work, and then to its end. -/
theorem act_eq {res : Except Error o.Result} {n : Nat}
    (hLedger : (r.factory i).ledger = .object .ledger j)
    (hRecipe : (r.factory i).configuration = .holding recipe)
    (hPurse : o.purse (r.factory i) r = .ok p r)
    (hBudgets : ∃ b, p = .budget b ∧ ∀ k, o.budget = .object .budget k → b = r.budget k)
    (hWork : ends (o.work recipe (r.catalogFor j)) ⟨r.site j, p, []⟩ = (res, b))
    (hn : n ≤ o.size) (hPaid : b.purse = p.after n) :
    ∃ r₁, r.Worked j o.budget n b.site r₁ ∧
      (∀ a, res = .ok a → r₁ = (r.closed j b.site).kept b.purse o.budget) ∧
      ∀ run : κ → Act κ Unit, o.act run i r =
        (Factory.conclude run (r.factory i) b.journal res o.events >>= o.farewell b.purse) r₁ := by
  obtain ⟨r₁, hBegun, hSame, hAct⟩ := act_begun hLedger hRecipe hPurse hWork
  exact ⟨r₁, hBegun.worked hBudgets hn hPaid, hSame, hAct⟩

/-- Once its work is done, an operation can only fail at its end. -/
theorem conclude_of_act {res : Except Error o.Result} {n : Nat}
    (hLedger : (r.factory i).ledger = .object .ledger j)
    (hRecipe : (r.factory i).configuration = .holding recipe)
    (hPurse : o.purse (r.factory i) r = .ok p r)
    (hBudget : o.budget = .null ∨ ∃ k, o.budget = .object .budget k)
    (hBudgets : ∃ b, p = .budget b ∧ ∀ k, o.budget = .object .budget k → b = r.budget k)
    (hWork : ends (o.work recipe (r.catalogFor j)) ⟨r.site j, p, []⟩ = (res, b))
    (hn : n ≤ o.size) (hPaid : b.purse = p.after n) (h : o.act run i r = .error e r') :
    ∃ r₁, r.Worked j o.budget n b.site r₁ ∧
      Factory.conclude run (r.factory i) b.journal res o.events r₁ = .error e r' := by
  obtain ⟨r₁, hWorked, -, hAct⟩ := act_eq hLedger hRecipe hPurse hBudgets hWork hn hPaid
  have hEnd : ∃ b', b.purse = .budget b' := by
    obtain ⟨b', rfl, -⟩ := hBudgets
    exact ⟨_, hPaid⟩
  refine ⟨r₁, hWorked, ?_⟩
  rw [hAct] at h
  rcases bind_eq_error_iff.1 h with hConclude | ⟨a, r₂, -, hFarewell⟩
  · exact hConclude
  -- a success is reported without fail
  · obtain ⟨entries, hOk⟩ := farewell_eq hEnd hBudget a r₂
    rw [hOk] at hFarewell
    cases hFarewell

/-- **How an operation fails.** If there is something to pay with, its work on the ledger is done,
and it fails at the end. -/
theorem act_eq_error (hLedger : (r.factory i).ledger = .object .ledger j)
    (hRecipe : (r.factory i).configuration = .holding recipe)
    (hs : Ledger.Sound (r.catalogFor j) (r.ledger j).ledger handed)
    (hBudget : o.budget = .null ∨ ∃ k, o.budget = .object .budget k)
    (h : o.act run i r = .error e r') :
    (∃ e₀, o.purse (r.factory i) r = .error (.budget e₀) r ∧ e = .budget e₀ ∧ r' = r) ∨
      ∃ p b res new? n r₁, o.purse (r.factory i) r = .ok p r ∧ n ≤ o.size ∧
        ends (o.work recipe (r.catalogFor j)) ⟨r.site j, p, []⟩ = (res, b) ∧
        Work.Accounted (r.catalogFor j) new? n ⟨r.site j, p, []⟩ b ∧
        r.Worked j o.budget n b.site r₁ ∧
        Factory.conclude run (r.factory i) b.journal res o.events r₁ = .error e r' := by
  rcases purse_cases (r.factory i) r hBudget with ⟨e₀, hNone⟩ | ⟨p, hPays, hBudgets⟩
  · rw [act_of_purse_error hRecipe hNone] at h
    cases h
    exact .inl ⟨e₀, hNone, rfl, rfl⟩
  · obtain ⟨new?, n, hn, hDone⟩ := accounted_work (b := ⟨r.site j, p, []⟩) o recipe hs rfl
    rcases hWork : ends (o.work recipe (r.catalogFor j)) ⟨r.site j, p, []⟩ with ⟨res, b⟩
    rw [hWork] at hDone
    obtain ⟨r₁, hWorked, hConclude⟩ :=
      conclude_of_act hLedger hRecipe hPays hBudget hBudgets hWork hn hDone.purse h
    exact .inr ⟨p, b, res, new?, n, r₁, hPays, hn, hWork, hDone, hWorked, hConclude⟩

/-- At most one event is told of an operation's success, so what a realm has in common with every
realm that the sink leaves behind, it has in common with the realm after the telling. -/
theorem rel_of_deliver {R : Realm κ → Realm κ → Prop} [Std.Refl R] {sink : Value}
    (hTell : ∀ event, R r (ends (Sink.tell run sink event) r).2) (o : Operation) (a : o.Result) :
    R r (ends (Sink.deliver run sink (o.events a)) r).2 := by
  have hTold : ∀ event, R r (ends (Sink.deliver run sink [event]) r).2 := by
    intro event
    by_cases hNull : sink = .null
    · subst hNull
      rw [ends_of_ok (Sink.deliver_null run _ r)]
      exact Std.Refl.refl r
    · rw [Sink.ends_deliver run hNull]
      exact hTell event
  -- an operation has one event to deliver, or none
  cases o with
  | registerAll world components systems budget =>
    show R r (ends (Sink.deliver run sink []) r).2
    rw [ends_of_ok (Sink.deliver_nil run sink r)]
    exact Std.Refl.refl r
  | _ => exact hTold _

/-- A discreet sink that is told of an operation's success leaves alone what it has to. -/
theorem same_of_deliver {sink : Value} {r₁ : Realm κ} (hSink : Sink.Discreet run sink r)
    (hRest : ∃ ledgers budgets entries,
      r₁ = { r with ledgers, budgets, trace := r.trace ++ entries })
    (o : Operation) (a : o.Result) :
    r₁.Same (ends (Sink.deliver run sink (o.events a)) r₁).2 := by
  obtain ⟨ledgers, budgets, entries, rfl⟩ := hRest
  exact rel_of_deliver (fun event => hSink _ _ _ event) o a

/-- **What a failed operation has gone through** before its undoing starts in the realm `r₂`: its
work has left the workbench `b`, the steps that were paid have been charged, and then `trigger` was
raised, by the work or by the sink. -/
inductive Failing (run : κ → Act κ Unit) (i j : Nat) (recipe : Recipe) (o : Operation)
    (r : Realm κ) (b : Workbench) (trigger : Error) (r₂ : Realm κ) : Prop
  | intro {p : Purse} {res : Except Error o.Result} {n : Nat} {r₁ : Realm κ}
      (hPurse : o.purse (r.factory i) r = .ok p r)
      (hWork : ends (o.work recipe (r.catalogFor j)) ⟨r.site j, p, []⟩ = (res, b))
      (hPaid : b.purse = p.after n) (hSteps : n ≤ o.size)
      (hWorked : r.Worked j o.budget n b.site r₁)
      (hTriggered : Factory.Triggered run (r.factory i).sink o.events b.journal.length r₁ res
        trigger r₂)

/-- **How an operation is undone that fails.** Every entry of its journal is run, and then stand on
the ledger the effects of those that were struck by faults. -/
theorem undone_of_fails (hLedger : (r.factory i).ledger = .object .ledger j)
    (hRecipe : (r.factory i).configuration = .holding recipe)
    (hs : Ledger.Sound (r.catalogFor j) (r.ledger j).ledger handed)
    (hBudget : o.budget = .null ∨ ∃ k, o.budget = .object .budget k)
    (hSink : Sink.Discreet run (r.factory i).sink r) (h : o.act run i r = .error e r') :
    (∃ e₀, o.purse (r.factory i) r = .error (.budget e₀) r ∧ e = .budget e₀ ∧ r' = r) ∨
      ∃ b trigger r₂ new? os s, Failing run i j recipe o r b trigger r₂ ∧
        (∀ {call}, Fault.Spare (r.ledger j).faults call → Fault.Spare b.site.faults call) ∧
        Undo.Standing (r.catalogFor j) (r.ledger j).ledger new? b.journal.reverse
          b.site.ledger ∧
        os = (Fault.meetAll (b.journal.map Undo.call) b.site.faults).1 ∧
        Unwound Site.report Undo.text Undo.run (.opened b.site.ledger b.site.faults) b.journal
          os s ∧
        Undo.Standing (r.catalogFor j) (r.ledger j).ledger new? (leftover b.journal os).reverse
          s.ledger ∧
        e = afterRollback (raised os) trigger ∧ r' = r₂.closed j s ∧ r.SameBut j r' := by
  rcases act_eq_error hLedger hRecipe hs hBudget h with
    hUnpaid | ⟨p, b, res, new?, n, r₁, hPurse, hn, hWork, hDone, hWorked, hConclude⟩
  · exact .inl hUnpaid
  · obtain ⟨trigger, r₂, hTriggered, hAbandon⟩ := Factory.conclude_eq_error hConclude
    -- between the work and the undoing, only the sink has had its turn
    have hSame : r₁.Same r₂ := by
      cases hTriggered with
      | work => exact (Realm.Same.refl r₁).appendTrace
      | @delivery a _ _ hTold =>
        have hDiscreet := same_of_deliver hSink hWorked.rest o a
        rw [ends_of_error hTold] at hDiscreet
        exact hDiscreet.appendTrace
    -- so the undoing starts on the ledger as the work has left it
    have hStart : Undo.Standing (r.catalogFor j) (r.ledger j).ledger new?
        (b.journal.reverse ++ []) b.site.ledger := by
      rw [List.append_nil]
      exact hDone.standing
    obtain ⟨s, hUnwound, -, hLeft⟩ := Undo.unwound_standing hs b.journal
      (.opened b.site.ledger b.site.faults) [] hStart
    rw [List.append_nil] at hLeft
    have hSite : r₂.site j = .opened b.site.ledger b.site.faults := hWorked.site_eq hSame
    have hUndone : Unwound Site.report Undo.text Undo.run (r₂.site j) b.journal
        (Fault.meetAll (b.journal.map Undo.call) b.site.faults).1 s := by
      rw [hSite]
      exact hUnwound
    rw [Factory.abandon_of_unwound hLedger hUndone] at hAbandon
    cases hAbandon
    exact .inr ⟨b, trigger, r₂, new?, _, s,
      .intro hPurse hWork hDone.purse hn hWorked hTriggered, hDone.spare, hDone.standing, rfl,
      hUnwound, hLeft, rfl, rfl, (hWorked.sameBut hSame).closed _⟩

end Operation

/-! ## A small realm

Theorems on operations are seen at work in a realm of one catalog, one ledger with one executor, one
sink, one budget and one factory. -/

namespace Arena

def world : TemplateId := .ofInt 1

def engine : TemplateId := .ofInt 2

/-- Two components and a system. -/
def health : Value := .template (.ofInt 3)

def speed : Value := .template (.ofInt 4)

def physics : Value := .template (.ofInt 5)

def catalog : Catalog :=
  ((((Catalog.empty.enter ⟨.template world, .str "arena", .kind .world⟩).enter
    ⟨.template engine, .str "engine", .kind .executor⟩).enter
    ⟨health, .str "health", .kind .component⟩).enter
    ⟨speed, .str "speed", .kind .component⟩).enter
    ⟨physics, .str "physics", .kind .system⟩

def ledger : Ledger := Ledger.empty.withInstance (.template engine)

/-- The handle of the executor. -/
def executor : InstanceHandle := Ledger.empty.allocator.fresh

def recipe : Recipe := ⟨world, executor⟩

/-- The realm in which some faults are planned, the sink reacts by a script, and the budget has a
limit. Nobody has any code to run. -/
def realm (faults : List Fault) (script : List (Option (Reaction Empty))) (limit : Int) :
    Realm Empty :=
  let r : Realm Empty := { Realm.empty with next := 5 }
  ((((r.putCatalog 0 catalog).putLedger 1 ⟨.object .catalog 0, ledger, faults⟩).putSink 2
    ⟨[], script⟩).putBudget 3 ⟨some (.number limit), 0⟩).putFactory 4
    ⟨.object .ledger 1, .object .scriptSink 2, .null, .holding recipe⟩

/-- A spawn that takes three steps. -/
def spawn : Operation := .spawn (.str "pit") [health, speed] [physics] (.object .budget 3)

/-- What a sink does that is deaf to the first event. -/
def deaf : List (Option (Reaction Empty)) := [some ⟨none, some (.badState, "deaf")⟩]

/-- Without code, every sink is discreet. -/
theorem discreet (run : Empty → Act Empty Unit) (sink : Value) (r : Realm Empty) :
    Sink.Discreet run sink r :=
  Sink.discreet_of_silent (Sink.silent_of_isEmpty r)

/-- The catalog of the arena is reached by declarations. -/
theorem reached_catalog : catalog.Reached := by
  have hEnter : ∀ {c : Catalog} {id name kind : Value}, c.Reached →
      c.declare kind name (some id) = .ok (id, c.enter ⟨id, name, kind⟩) →
      (c.enter ⟨id, name, kind⟩).Reached := fun h hDeclare => .declare h hDeclare
  unfold catalog
  exact hEnter (hEnter (hEnter (hEnter (hEnter .empty rfl) rfl) rfl) rfl) rfl

/-- All templates of the arena are declared with kinds. -/
theorem sorted_catalog : catalog.Sorted := by
  have hEmpty : Catalog.empty.Sorted := fun _ _ hGet => by cases hGet
  unfold catalog
  exact .enter (.enter (.enter (.enter (.enter hEmpty))))

/-- The executor is all that has been deployed. -/
theorem reached_ledger : Ledger.Reached catalog ledger [executor] := by
  have hDeploy : Ledger.empty.deploy catalog (.template engine) [] =
      .ok ((.executor (.template engine), executor), ledger) := rfl
  exact .deploy (.new reached_catalog) hDeploy

end Arena

end WorldForge

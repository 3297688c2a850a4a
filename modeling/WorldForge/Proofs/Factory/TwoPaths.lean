import WorldForge.Proofs.Factory.RegisterAll
import WorldForge.Proofs.Factory.Spawn
import WorldForge.Proofs.Overlooking

/-!
# Two ways to a world with parts

A world with parts is made by one spawn, or it is deployed without parts and furnished afterwards.
The one is a single operation with one journal, and its sink is told at the end. The other one is
two operations with a journal each, and the sink is told in between. Where no fault is planned and
nobody but an event log is told, both come to the same.

A spawn does what the deployment does, and then what the registrations do, with more in its journal
and its records. The work of a factory overlooks both, so that the registrations come out alike, at
whichever of them they fail. Then the spawn takes the world back together with its parts. The
registrations alone leave the world as it was deployed, and destroying it takes it back, too.

Main results:

* `Work.ends_makeWorld_of_deployed` — how the making of a world goes on where a deployment ends;
* `Work.within_of_registerParts` — what is raised where templates are registered;
* `outcomes_of_deploy` — what both ways come to after a deployment;
* `two_paths_agree` — both ways succeed or fail together, for the same reason, and leave the same.
-/

namespace WorldForge

variable {κ : Type}

namespace Work

variable {c : Catalog} {recipe : Recipe} {name : Value} {components systems : List Value}
  {s : Site} {p q : Purse} {x : InstanceHandle} {b d : Workbench} {e : Error}
  {res : Except Error Unit}

/-- A deployment takes no steps, so that it comes out the same whatever would pay for them. -/
theorem ends_deployWorld (c : Catalog) (recipe : Recipe) (name : Value) (s : Site) (p q : Purse) :
    ends (deployWorld c recipe name) ⟨s, p, []⟩ =
      ((ends (deployWorld c recipe name) ⟨s, q, []⟩).1,
        { (ends (deployWorld c recipe name) ⟨s, q, []⟩).2 with purse := p }) := by
  have hOver : ∀ b : Workbench, b.over id (fun _ => p) [] = { b with purse := p } := by
    intro b
    simp [Workbench.over]
  have hOverlooks : Overlooks (Workbench.over id (fun _ => p) []) (deployWorld c recipe name) :=
    overlooks_deployWorld Site.aside_id (fun _ => rfl) recipe name
  have hDone := hOverlooks ⟨s, q, []⟩
  rwa [hOver, hOver] at hDone

/-- The workbench of an operation of its own, after another one has left its site. -/
def reopened (b : Workbench) (p : Purse) : Workbench :=
  ⟨.opened b.site.ledger b.site.faults, p, []⟩

/-- What is raised by the making of a world because of an error in its registrations. -/
def raisedFor (name : Value) (x : InstanceHandle) (e : Error) : Error :=
  if e.within .registration then .registrationFailed name x e else e

/-- Once its world is deployed, a world is made as its parts are registered. -/
theorem ends_makeWorld (hDone : deployWorld c recipe name b = .ok x d) :
    ends (makeWorld c recipe name components systems) b =
      (((ends (registerParts c (.handle x) (.list components) (.list systems)) d).1.mapError
          (raisedFor name x)).map fun _ => x,
        (ends (registerParts c (.handle x) (.list components) (.list systems)) d).2) := by
  rw [makeWorld, ends_bind, ends_of_ok hDone]
  show ends (wrapping .registration (.registrationFailed name x)
    (registerParts c (.handle x) (.list components) (.list systems)) >>= fun _ => pure x) d = _
  rw [ends_bind, ends_wrapping]
  generalize ends (registerParts c (.handle x) (.list components) (.list systems)) d = out
  rcases out with ⟨_ | _, b'⟩ <;> rfl

/-- **The making of a world goes on where a deployment ends.** What comes of its registrations comes
of them in the deployed world, too. -/
theorem ends_makeWorld_of_deployed (hDeploy : deployWorld c recipe name ⟨s, q, []⟩ = .ok x b)
    (hParts : ends (registerParts c (.handle x) (.list components) (.list systems))
      (reopened b p) = (res, d)) :
    ends (makeWorld c recipe name components systems) ⟨s, p, []⟩ =
      ((res.mapError (raisedFor name x)).map fun _ => x,
        d.over (.after b.site.log) id [.destroy x]) := by
  obtain ⟨-, hJournal, -⟩ := deployWorld_spec hDeploy
  -- the records and the journal of the deployment lie before those of the registrations
  have hOver : { b with purse := p } =
      (reopened b p).over (.after b.site.log) id [.destroy x] := by
    simp [reopened, Workbench.over, Site.after, Site.opened, hJournal]
  have hOverlooks : Overlooks (Workbench.over (.after b.site.log) id [.destroy x])
      (registerParts c (.handle x) (.list components) (.list systems)) :=
    overlooks_registerParts (Site.aside_after _) (Site.overlooks_meetFaults _ _)
      (fun _ => Site.overlooks_meetFaults _ _) _ _ _
  have hDone : deployWorld c recipe name ⟨s, p, []⟩ = .ok x { b with purse := p } := by
    refine eq_ok_of_ends ?_
    rw [ends_deployWorld c recipe name s p q, ends_of_ok hDeploy]
  rw [ends_makeWorld hDone, hOver, hOverlooks, hParts]

/-- A world whose deployment fails is not made, for the same reason. -/
theorem makeWorld_of_not_deployed (hDeploy : deployWorld c recipe name ⟨s, q, []⟩ = .error e b)
    (p : Purse) :
    ends (makeWorld c recipe name components systems) ⟨s, p, []⟩ =
      (.error e, ⟨s.met .deploy, p, []⟩) := by
  obtain ⟨rfl, -⟩ := deployWorld_eq_error hDeploy
  rw [makeWorld, ends_bind, ends_deployWorld c recipe name s p q, ends_of_error hDeploy]

/-! ## What registrations raise -/

/-- **Registering fails as a registration**, where a ledger raises errors of ledgers only, every
declaration is of a kind and a budget pays. -/
theorem within_of_registerPart {k : PartKind} {t : Value} (hLawful : b.site.Lawful)
    (hc : c.Consistent) (hSorted : c.Sorted) (hPurse : ∃ p, b.purse = .budget p)
    (hKey : t.changeable? = none) (h : registerPart c x k t b = .error e d) :
    e.within .registration = true := by
  rcases registerPart_eq_error h with ⟨-, hPay⟩ | ⟨p, e₀, -, -, hSite, rfl⟩
  · obtain ⟨p, hp⟩ := hPurse
    rw [hp] at hPay
    obtain ⟨limit, -, -, rfl⟩ := Purse.payStep_eq_error hPay
    rfl
  · have hRefused : e₀.within .ledger = true := by
      rcases bind_eq_error_iff.1 hSite with hCall | ⟨_, s₁, -, hEnd⟩
      · rw [Catalog.registrationFlaw?_of_sorted hc hSorted] at hCall
        exact hLawful.within_of_callBy hKey (fun _ h => Ledger.told_of_register_error h) hCall
      · cases hEnd
    rw [if_pos hRefused]
    rfl

/-- A part that is registered leaves a ledger that raises errors of ledgers only. -/
theorem lawful_of_registerPart {k : PartKind} {t : Value} (hLawful : b.site.Lawful)
    (h : registerPart c x k t b = .ok () d) : d.site.Lawful := by
  obtain ⟨p, s, -, hSite, rfl⟩ := registerPart_eq_ok_iff.1 h
  obtain ⟨-, -, -, _, l, -, rfl⟩ := Site.register_eq_ok_iff.1 hSite
  exact hLawful.met (.register k)

/-- Registrations one after the other raise errors of the registration family only, on a lawful site
that stays lawful meanwhile. -/
theorem within_of_forM {k : PartKind} {ids : List Value} (hLawful : b.site.Lawful)
    (hc : c.Consistent) (hSorted : c.Sorted) (hPurse : ∃ p, b.purse = .budget p)
    (hKeys : ∀ t ∈ ids, t.changeable? = none)
    (h : ids.forM (registerPart c x k) b = .error e d) : e.within .registration = true := by
  induction ids generalizing b with
  | nil => cases h
  | cons t rest ih =>
    rcases bind_eq_error_iff.1 h with hFirst | ⟨_, b₁, hFirst, hRest⟩
    · exact within_of_registerPart hLawful hc hSorted hPurse (hKeys t (.head _)) hFirst
    -- the others meet the same faults, and are paid from the same purse
    · refine ih (lawful_of_registerPart hLawful hFirst) ?_ (fun t' ht => hKeys t' (.tail _ ht))
        hRest
      obtain ⟨p, hp⟩ := hPurse
      rw [(enrolled_of_registerPart hFirst).purse, hp]
      exact ⟨_, rfl⟩

/-- A site stays lawful while parts are registered there: its catalog is the same, and it plans no
other faults. -/
theorem lawful_of_forM {k : PartKind} {ids : List Value} (hLawful : b.site.Lawful)
    (h : ids.forM (registerPart c x k) b = .ok () d) : d.site.Lawful := by
  induction ids generalizing b with
  | nil =>
    cases h
    exact hLawful
  | cons t rest ih =>
    obtain ⟨_, b₁, hFirst, hRest⟩ := bind_eq_ok_iff.1 h
    exact ih (lawful_of_registerPart hLawful hFirst) hRest

/-- **What is raised where parts are registered** belongs to the registration family, whether it
comes up when the world is looked up or at one of the parts. -/
theorem within_of_registerParts {world : Value} (hLawful : b.site.Lawful) (hc : c.Consistent)
    (hSorted : c.Sorted) (hPurse : ∃ p, b.purse = .budget p) (hWorld : world.changeable? = none)
    (hKeys : ∀ t ∈ components ++ systems, t.changeable? = none)
    (h : registerParts c world (.list components) (.list systems) b = .error e d) :
    e.within .registration = true := by
  -- it fails at the look-up of the world, at a component, or at a system
  rcases bind_eq_error_iff.1 h with hDispatch | ⟨w, b₁, hDispatch, hRest⟩
  · obtain ⟨e₀, hRun, rfl⟩ := wrapping_eq_error_iff.1 hDispatch
    obtain ⟨s₁, hSite, -⟩ := onSite_eq_error_iff.1 hRun
    rw [if_pos (hLawful.within_of_callBy hWorld (fun _ h => Ledger.told_of_dispatcher_error h)
      hSite)]
    rfl
  · obtain ⟨-, -, -, rfl⟩ := wrapping_dispatcher_eq_ok_iff.1 hDispatch
    let b₁ : Workbench := { b with site := b.site.met .dispatcher }
    have hLawful₁ : b₁.site.Lawful := hLawful.met .dispatcher
    have hMem : ∀ t, t ∈ components ∨ t ∈ systems → t.changeable? = none :=
      fun t ht => hKeys t (List.mem_append.2 ht)
    rcases bind_eq_error_iff.1 hRest with hFirst | ⟨_, b₂, hFirst, hSecond⟩
    · change components.forM (registerPart c w.handle .component) b₁ = _ at hFirst
      exact within_of_forM hLawful₁ hc hSorted hPurse (fun t ht => hMem t (.inl ht)) hFirst
    · change components.forM (registerPart c w.handle .component) b₁ = _ at hFirst
      change systems.forM (registerPart c w.handle .system) b₂ = _ at hSecond
      refine within_of_forM (lawful_of_forM hLawful₁ hFirst) hc hSorted ?_
        (fun t ht => hMem t (.inr ht)) hSecond
      obtain ⟨p, hp⟩ := hPurse
      rw [(enrolled_of_forM hFirst).purse]
      exact ⟨_, congrArg (Purse.after _) hp⟩

end Work

/-! ## The two ways -/

namespace Factory

variable {run : κ → Act κ Unit} {i j : Nat} {r r₁ r₂ r' : Realm κ} {recipe : Recipe}
  {name budget budget' : Value} {components systems : List Value} {handed : List InstanceHandle}
  {x : InstanceHandle} {e : Error} {p : Budget} {b d : Workbench} {res : Except Error Unit}

/-- **A factory works unhindered** on a ledger that has come about by calls: no fault is planned
there, and nobody but an event log is told. -/
structure Unhindered (r : Realm κ) (i j : Nat) (handed : List InstanceHandle) : Prop where
  ledger : (r.factory i).ledger = .object .ledger j
  reached : Ledger.Reached (r.catalogFor j) (r.ledger j).ledger handed
  faults : (r.ledger j).faults = []
  sink : (r.factory i).sink = .null ∨
    ∃ k, (r.factory i).sink = .object .eventLog k ∧ (r.sink k).script = []

/-- **It works undisturbed** if it also has a number of steps of its own that it can pay with, where
no budget is handed over: none, or one that is not below zero. -/
structure Undisturbed (r : Realm κ) (i j : Nat) (handed : List InstanceHandle) : Prop
    extends Unhindered r i j handed where
  steps : (r.factory i).stepBudget = .null ∨
    ∃ n, (r.factory i).stepBudget.numeral? = some n ∧ 0 ≤ n.toInt

/-- What is handed over on the two ways: nothing, or budgets that are equal. -/
inductive Matched (r : Realm κ) : Value → Value → Prop
  | none : Matched r .null .null
  | equal {k m : Nat} (hReached : (r.budget k).Reached) (hSame : r.budget m = r.budget k) :
      Matched r (.object .budget k) (.object .budget m)

/-- The budgets that were handed over, if any were, have paid the same. -/
def PaidAlike (budget budget' : Value) (r₁ r₂ : Realm κ) : Prop :=
  ∀ k m, budget = .object .budget k → budget' = .object .budget m → r₁.budget k = r₂.budget m

/-- **The two ways have led to the same**: the ledger is the same, every log has been told the same,
and the budgets have paid the same. -/
structure Agree (j : Nat) (budget budget' : Value) (r₁ r₂ : Realm κ) : Prop where
  ledger : r₁.ledger j = r₂.ledger j
  told : ∀ k, r₁.sink k = r₂.sink k
  paid : PaidAlike budget budget' r₁ r₂

/-- **What becomes of a world whose parts are rejected**, on either way. A spawn destroys it again.
When it was deployed first, and the parts were to be registered afterwards, it is left behind on the
ledger: all that the spawn has done besides is to destroy the world at `x`. The budgets have paid
the same. -/
structure Forsaken (j : Nat) (budget budget' : Value) (x : InstanceHandle) (r₁ r₂ : Realm κ) :
    Prop where
  destroyed : ∃ r₃, (Act.onSite j fun _ => Site.destroy (.handle x)) r₂ = .ok () r₃ ∧
    r₁.ledger j = r₃.ledger j
  paid : PaidAlike budget budget' r₁ r₂

/-- What pays on either way has the same steps. -/
theorem exists_purses (h : Undisturbed r i j handed) (hBudgets : Matched r budget budget') :
    ∃ p, (r.factory i).purse budget r = .ok (.budget p) r ∧
      (∀ k, budget = .object .budget k → p = r.budget k) ∧
      ∀ r₁ : Realm κ, r₁.budgets = r.budgets →
        (r.factory i).purse budget' r₁ = .ok (.budget p) r₁ := by
  cases hBudgets with
  | none =>
    have hNull : Value.null = .null ∨
        ∃ k, Value.null = .object .budget k ∧ (r.budget k).Reached := .inl rfl
    obtain ⟨p, hPurse, -, hSame⟩ := exists_purse (fun _ => h.steps) hNull
    refine ⟨p, hPurse, hSame, fun r₁ _ => ?_⟩
    -- a fresh purse does not depend on the realm
    cases hValue : Budget.ofValue (r.factory i).stepBudget with
    | error e =>
      simp only [purse, hValue] at hPurse
      cases hPurse
    | ok q =>
      simp only [purse, hValue] at hPurse ⊢
      cases hPurse
      rfl
  | @equal k m _ hSame =>
    refine ⟨r.budget k, rfl, fun k' hk => ?_, fun r₁ hBudgets => ?_⟩
    · cases hk
      rfl
    · show EStateM.Result.ok (Purse.budget (r₁.budget m)) r₁ = _
      rw [Realm.budget, hBudgets, ← hSame]
      rfl

/-- A log is told of an event in whichever realm the work has left. -/
theorem Unhindered.deliver (h : Unhindered r i j handed) (hSinks : r₁.sinks = r.sinks)
    (event : Value) :
    Sink.deliver run (r.factory i).sink [event] r₁ =
      .ok () (r₁.told (r.factory i).sink event) :=
  Sink.deliver_of_sinks h.sink hSinks event

/-! ### The deployment -/

/-- A deployment of its own that has succeeded has done the first work of a spawn, and has told the
sink of the world. -/
theorem deployed_of_deploy (h : Undisturbed r i j handed)
    (hRecipe : (r.factory i).configuration = .holding recipe)
    (hDeploy : deploy run i name r = .ok x r₁) :
    ∃ b, Work.deployWorld (r.catalogFor j) recipe name ⟨r.site j, .budget .unmetered, []⟩ =
        .ok x b ∧
      r₁ = (r.closed j b.site).told (r.factory i).sink (.worldCreated x) := by
  rcases hWork : ends (Work.deployWorld (r.catalogFor j) recipe name)
    ⟨r.site j, .budget .unmetered, []⟩ with ⟨res, b⟩
  rw [deploy_eq h.ledger hRecipe hWork, conclude_eq_ok_iff h.ledger] at hDeploy
  obtain ⟨rfl, hTold⟩ := hDeploy
  have hSinks : (r.closed j b.site).sinks = r.sinks := rfl
  -- the sink takes the event, as it is told of it in a realm like this one
  cases hTold.symm.trans (h.deliver hSinks (.worldCreated x))
  exact ⟨b, eq_ok_of_ends hWork, rfl⟩

/-- A deployment of its own that has failed has failed in its work. The sink takes everything that
it is told. -/
theorem not_deployed_of_deploy (h : Undisturbed r i j handed)
    (hRecipe : (r.factory i).configuration = .holding recipe)
    (hDeploy : deploy run i name r = .error e r₁) :
    ∃ b, Work.deployWorld (r.catalogFor j) recipe name ⟨r.site j, .budget .unmetered, []⟩ =
      .error e b := by
  cases hWork : Work.deployWorld (r.catalogFor j) recipe name
    ⟨r.site j, .budget .unmetered, []⟩ with
  | ok x b =>
    have hSinks : (r.closed j b.site).sinks = r.sinks := rfl
    rw [deploy_eq h.ledger hRecipe (ends_of_ok hWork)] at hDeploy
    cases hDeploy.symm.trans
      ((conclude_eq_ok_iff h.ledger).2 ⟨rfl, h.deliver hSinks (.worldCreated x)⟩)
  -- nothing has been done, so nothing is undone
  | error e₀ b =>
    obtain ⟨rfl, -⟩ := Work.deployWorld_eq_error hWork
    rw [deploy_eq h.ledger hRecipe (ends_of_error hWork)] at hDeploy
    cases hDeploy.symm.trans (abandon_of_unwound h.ledger (.nil _) e₀)
    exact ⟨_, rfl⟩

/-- **A spawn fails as the deployment of its world does.** -/
theorem spawn_of_not_deployed (h : Undisturbed r i j handed) (hBudgets : Matched r budget budget')
    (hDeploy : deploy run i name r = .error e r₁) (components systems : List Value) :
    ∃ r', spawn run i name components systems budget r = .error e r' := by
  rcases hConfiguration : (r.factory i).configuration with ⟨_ | recipe⟩
  -- without a recipe, neither of the two does anything
  · have hIdle : deploy run i name r = .error (.configuration .notSetUp) r :=
      Operation.act_of_blank (o := .deploy name) hConfiguration
    cases hDeploy.symm.trans hIdle
    exact ⟨r, Operation.act_of_blank (o := .spawn name components systems budget) hConfiguration⟩
  · obtain ⟨p, hPurse, -, -⟩ := exists_purses h hBudgets
    obtain ⟨b, hWork⟩ := not_deployed_of_deploy h hConfiguration hDeploy
    rw [spawn_eq h.ledger hConfiguration hPurse
      (Work.makeWorld_of_not_deployed hWork (.budget p))]
    exact ⟨_, bind_of_error (abandon_of_unwound h.ledger (.nil _) e)⟩

/-! ### The registrations -/

/-- The realm in which the registrations begin that follow a deployment. -/
theorem realm_of_deployed {event : Value}
    (hDeployed : r₁ = (r.closed j b.site).told (r.factory i).sink event) :
    r₁.factory i = r.factory i ∧ r₁.catalogFor j = r.catalogFor j ∧
      r₁.site j = .opened b.site.ledger b.site.faults ∧ r₁.budgets = r.budgets ∧
      r₁.ledger j = { r.ledger j with ledger := b.site.ledger, faults := b.site.faults } := by
  obtain ⟨sinks, hTold⟩ := (r.closed j b.site).told_eq event (r.factory i).sink
  obtain rfl := hDeployed.trans hTold
  have hLedger : ({ r.closed j b.site with sinks } : Realm κ).ledger j =
      { r.ledger j with ledger := b.site.ledger, faults := b.site.faults } :=
    (Realm.worked_closed r j .null b.site).ledger
  refine ⟨rfl, ?_, ?_, rfl, hLedger⟩
  · rw [Realm.catalogFor, hLedger]
    rfl
  · rw [Realm.site, hLedger]

/-- The telling of an event depends on the sinks alone. -/
theorem sinks_told (hSinks : r₁.sinks = r₂.sinks) (sink event : Value) :
    (r₁.told sink event).sinks = (r₂.told sink event).sinks := by
  have hSame : ∀ k, r₁.sink k = r₂.sink k := fun k => by rw [Realm.sink, Realm.sink, hSinks]
  cases sink with
  | object kind k =>
    cases kind with
    | eventLog =>
      show r₁.sinks.insert k _ = r₂.sinks.insert k _
      rw [hSinks, hSame]
    | _ => exact hSinks
  | _ => exact hSinks

/-- **Where a spawn and a deployment with the parts registered afterwards part ways**: both have
deployed the world at `x`. In it, `res` is what comes of the registrations, and `d` is what they
leave. -/
structure Forked (run : κ → Act κ Unit) (r : Realm κ) (i j : Nat) (recipe : Recipe) (name : Value)
    (components systems : List Value) (budget budget' : Value) (x : InstanceHandle) (r₁ : Realm κ)
    (p : Budget) (b d : Workbench) (res : Except Error Unit) : Prop where
  deployed : Work.deployWorld (r.catalogFor j) recipe name ⟨r.site j, .budget p, []⟩ = .ok x b
  opened : r₁ = (r.closed j b.site).told (r.factory i).sink (.worldCreated x)
  parts : ends (Work.registerParts (r.catalogFor j) (.handle x) (.list components) (.list systems))
    (Work.reopened b (.budget p)) = (res, d)
  made : ends (Work.makeWorld (r.catalogFor j) recipe name components systems)
    ⟨r.site j, .budget p, []⟩ =
      ((res.mapError (Work.raisedFor name x)).map fun _ => x,
        d.over (.after b.site.log) id [.destroy x])
  spawned : spawn run i name components systems budget r = (do
    let h ← conclude run (r.factory i) (d.journal ++ [Undo.destroy x])
      ((res.mapError (Work.raisedFor name x)).map fun _ => x) fun h => [.worldCreated h]
    let used ← spent d.purse budget
    Act.report (.worldSpawned name h components.length systems.length used)
    return h) ((r.closed j (d.site.after b.site.log)).kept d.purse budget)
  registered : registerAll run i (.handle x) (.list components) (.list systems) budget' r₁ =
    conclude run (r.factory i) d.journal res (fun _ => [])
      ((r₁.closed j d.site).kept d.purse budget')

/-- **After a deployment both ways go on alike.** -/
theorem exists_forked (h : Undisturbed r i j handed) (hBudgets : Matched r budget budget')
    (hDeploy : deploy run i name r = .ok x r₁) (components systems : List Value) :
    ∃ recipe p b d res, Forked run r i j recipe name components systems budget budget' x r₁ p b d
      res := by
  rcases hConfiguration : (r.factory i).configuration with ⟨_ | recipe⟩
  · have hIdle : deploy run i name r = .error (.configuration .notSetUp) r :=
      Operation.act_of_blank (o := .deploy name) hConfiguration
    cases hDeploy.symm.trans hIdle
  obtain ⟨p, hPurse, -, hPurse'⟩ := exists_purses h hBudgets
  obtain ⟨b, hWork, hOpened⟩ := deployed_of_deploy h hConfiguration hDeploy
  obtain ⟨hFactory, hCatalog, hSite, hSame, -⟩ := realm_of_deployed hOpened
  rcases hParts : ends (Work.registerParts (r.catalogFor j) (.handle x) (.list components)
    (.list systems)) (Work.reopened b (.budget p)) with ⟨res, d⟩
  -- the spawn makes the same world, and then runs over the same parts
  have hMade := Work.ends_makeWorld_of_deployed hWork hParts
  have hDeployed : Work.deployWorld (r.catalogFor j) recipe name ⟨r.site j, .budget p, []⟩ =
      .ok x { b with purse := .budget p } := by
    apply eq_ok_of_ends
    rw [Work.ends_deployWorld _ _ _ _ _ (.budget .unmetered), ends_of_ok hWork]
  refine ⟨recipe, p, { b with purse := .budget p }, d, res, hDeployed, hOpened, hParts, hMade,
    spawn_eq h.ledger hConfiguration hPurse hMade, ?_⟩
  have hWork' : ends (Work.registerParts (r₁.catalogFor j) (.handle x) (.list components)
      (.list systems)) ⟨r₁.site j, .budget p, []⟩ = (res, d) := by
    rw [hCatalog, hSite]
    exact hParts
  have hPays := hPurse' r₁ hSame
  have hLedger := h.ledger
  rw [← hFactory] at hLedger hPays hConfiguration ⊢
  exact registerAll_eq hLedger hConfiguration hPays hWork'

/-- Work on a ledger, whoever has paid for it, leaves the site that it ends with. -/
theorem ledger_worked (r : Realm κ) (j : Nat) (s : Site) (q : Purse) (budget : Value) :
    ((r.closed j s).kept q budget).ledger j =
      { r.ledger j with ledger := s.ledger, faults := s.faults } := by
  obtain ⟨budgets, hKept⟩ := (r.closed j s).kept_eq q budget
  rw [hKept]
  exact (r.worked_closed j .null s).ledger

/-- What a purse has paid is paid alike by the budgets that it was handed over as. -/
theorem paidAlike_kept {q : Budget} (hPurse : d.purse = .budget q) (r₁ r₂ : Realm κ) :
    PaidAlike budget budget' (r₁.kept d.purse budget) (r₂.kept d.purse budget') := by
  rintro k m rfl rfl
  rw [hPurse]
  simp [Realm.kept]

/-- **An operation whose work has failed is undone in full** where no fault is planned, and raises
what its work has raised. -/
theorem exists_concluded {α : Type} {f : Factory} {o : LedgerObject} {c : Catalog}
    {new? : Option World} {n : Nat} {b' : Workbench} (hLedger : f.ledger = .object .ledger j)
    (hs : Ledger.Sound c b.site.ledger handed) (hDone : Work.Accounted c new? n b b')
    (hFaults : b'.site.faults = [])
    (hWorked : r.ledger j = { o with ledger := b'.site.ledger, faults := b'.site.faults })
    (e : Error) (events : α → List Value) :
    ∃ r' l, conclude run f b'.journal (.error e) events r = .error e r' ∧ r'.budgets = r.budgets ∧
      r'.ledger j = { o with ledger := l, faults := [] } ∧
      Undo.Standing c b.site.ledger new? [] l := by
  have hNone : ∀ call, Fault.Spare b'.site.faults call := by
    intro call fault hMem
    rw [hFaults] at hMem
    cases hMem
  -- the undoing starts when the rollback has been reported, on the ledger that the work has left
  let r₁ := r.appendTrace [.log (.rollingBack b'.journal.length e)]
  have hSite : r₁.site j = .opened b'.site.ledger b'.site.faults := by
    show Site.opened (r.ledger j).ledger (r.ledger j).faults = _
    rw [hWorked]
  obtain ⟨s, hAbandon, hLeft, hSpare⟩ :=
    undone_of_abandon (α := α) hLedger hs hDone hSite (fun call _ => hNone call) e
  refine ⟨r₁.closed j s, s.ledger, hAbandon, rfl, ?_, hLeft⟩
  have hFaults' : s.faults = [] :=
    List.eq_nil_iff_forall_not_mem.2 fun f hMem => hSpare f.call (hNone _) f hMem rfl
  rw [(r₁.worked_closed j .null s).ledger, hFaults']
  show { r.ledger j with ledger := s.ledger, faults := [] } = _
  rw [hWorked]

section Forked

variable (h : Undisturbed r i j handed)
  (hFork : Forked run r i j recipe name components systems budget budget' x r₁ p b d res)
include h hFork

/-- The registrations are accounted for, on a ledger that is sound. -/
theorem Forked.accounted : ∃ handed' n, Ledger.Sound (r.catalogFor j) b.site.ledger handed' ∧
    Work.Accounted (r.catalogFor j) none n (Work.reopened b (.budget p)) d := by
  obtain ⟨s, hSite, hEnd⟩ := Work.deployWorld_eq_ok_iff.1 hFork.deployed
  obtain ⟨-, -, -, plan, l, hLedger, rfl⟩ := Site.deploy_eq_ok_iff.1 hSite
  have hs : Ledger.Sound (r.catalogFor j) b.site.ledger (handed ++ [x]) := by
    rw [hEnd]
    exact (h.reached.deploy hLedger).sound
  obtain ⟨n, -, hDone⟩ := Work.accounted_registerParts (b := Work.reopened b (.budget p)) hs rfl
    (.handle x) (.list components) (.list systems)
  rw [hFork.parts] at hDone
  exact ⟨_, n, hs, hDone⟩

/-- When the world has been deployed, it is still a budget that pays for its parts. -/
theorem Forked.exists_paid : ∃ q, d.purse = .budget q := by
  obtain ⟨-, n, -, hDone⟩ := hFork.accounted h
  exact ⟨_, hDone.purse⟩

/-- No fault is planned all along. -/
theorem Forked.faults : b.site.faults = [] ∧ d.site.faults = [] := by
  obtain ⟨-, -, -, hMet, -⟩ := Work.deployWorld_spec hFork.deployed
  have hNone : b.site.faults = [] := by
    rw [hMet]
    show (Fault.meet .deploy (r.ledger j).faults).2 = []
    rw [h.faults]
    rfl
  -- what is planned for a call is never more than it was
  obtain ⟨-, n, -, hDone⟩ := hFork.accounted h
  refine ⟨hNone, List.eq_nil_iff_forall_not_mem.2 fun f hMem => ?_⟩
  have hSpare : Fault.Spare (Work.reopened b (.budget p)).site.faults f.call := by
    intro g hg
    change g ∈ b.site.faults at hg
    rw [hNone] at hg
    cases hg
  exact hDone.spare hSpare f hMem rfl

/-- What registrations of templates raise is the cause of what the spawn raises. -/
theorem Forked.raisedFor_eq (hFails : res = .error e) (hSorted : (r.catalogFor j).Sorted)
    (hIds : ∀ t ∈ components ++ systems, ∃ id, t = .template id) :
    Work.raisedFor name x e = .registrationFailed name x e := by
  subst hFails
  have hLawful : (Work.reopened b (.budget p)).site.Lawful := by
    intro f hMem
    change f ∈ b.site.faults at hMem
    rw [(hFork.faults h).1] at hMem
    cases hMem
  have hKeys : ∀ t ∈ components ++ systems, t.changeable? = none := by
    intro t hMem
    obtain ⟨id, rfl⟩ := hIds t hMem
    rfl
  rw [Work.raisedFor, if_pos (Work.within_of_registerParts hLawful h.reached.sound.catalog hSorted
    ⟨p, rfl⟩ rfl hKeys (eq_error_of_ends hFork.parts))]

/-- **Registrations that succeed** make both ways succeed, and they lead to the same. -/
theorem Forked.agree (hBudgets : Matched r budget budget') (hDone : res = .ok ()) :
    ∃ r₂ r', registerAll run i (.handle x) (.list components) (.list systems) budget' r₁ =
        .ok () r₂ ∧
      spawn run i name components systems budget r = .ok x r' ∧ Agree j budget budget' r' r₂ := by
  subst hDone
  obtain ⟨q, hPurse⟩ := hFork.exists_paid h
  obtain ⟨-, -, -, -, hLedger⟩ := realm_of_deployed hFork.opened
  have hRegistered : registerAll run i (.handle x) (.list components) (.list systems) budget' r₁ =
      .ok () ((r₁.closed j d.site).kept d.purse budget') := by
    rw [hFork.registered, conclude_eq_ok_iff h.ledger]
    exact ⟨rfl, Sink.deliver_nil ..⟩
  let r₃ := (r.closed j (d.site.after b.site.log)).kept d.purse budget
  have hSinks : r₃.sinks = r.sinks := by
    obtain ⟨budgets, hKept⟩ := (r.closed j (d.site.after b.site.log)).kept_eq d.purse budget
    exact (congrArg Realm.sinks hKept).trans rfl
  have hConclude : conclude run (r.factory i) (d.journal ++ [Undo.destroy x]) (.ok x)
      (fun h => [.worldCreated h]) r₃ = .ok x (r₃.told (r.factory i).sink (.worldCreated x)) :=
    (conclude_eq_ok_iff h.ledger).2 ⟨rfl, h.deliver hSinks _⟩
  have hHanded : budget = .null ∨ ∃ k, budget = .object .budget k := by
    cases hBudgets with
    | none => exact .inl rfl
    | equal => exact .inr ⟨_, rfl⟩
  obtain ⟨n, hSpent⟩ := spent_eq ⟨q, hPurse⟩ hHanded
    (r₃.told (r.factory i).sink (.worldCreated x))
  have hSpawned : spawn run i name components systems budget r =
      .ok x ((r₃.told (r.factory i).sink (.worldCreated x)).appendTrace
        [.log (.worldSpawned name x components.length systems.length n)]) := by
    rw [hFork.spawned]
    exact (bind_of_ok hConclude).trans (bind_of_ok hSpent)
  refine ⟨_, _, hRegistered, hSpawned, ?_⟩
  obtain ⟨sinks, hTold⟩ := r₃.told_eq (.worldCreated x) (r.factory i).sink
  refine ⟨?_, fun k => ?_, ?_⟩
  · rw [ledger_worked, hLedger, hTold]
    exact ledger_worked r j (d.site.after b.site.log) d.purse budget
  -- the log has been told in the one realm after the registrations, and before them in the other
  · have hSame : r₃.sinks = (r.closed j b.site).sinks := hSinks
    have hAlike := sinks_told hSame (r.factory i).sink (.worldCreated x)
    rw [← hFork.opened] at hAlike
    obtain ⟨budgets, hKept⟩ := (r₁.closed j d.site).kept_eq d.purse budget'
    rw [hKept]
    show ((r₃.told (r.factory i).sink (.worldCreated x)).sinks.find? k).getD _ = _
    rw [hAlike]
    rfl
  · intro k m hk hm
    rw [hTold]
    exact paidAlike_kept hPurse _ _ k m hk hm

/-- Registrations that fail are undone, and then the world is as it was deployed. -/
theorem Forked.exists_registered (hFails : res = .error e) :
    ∃ r₂, registerAll run i (.handle x) (.list components) (.list systems) budget' r₁ =
        .error e r₂ ∧
      r₂.budgets = ((r₁.closed j d.site).kept d.purse budget').budgets ∧
      r₂.ledger j = { r₁.ledger j with ledger := b.site.ledger, faults := [] } := by
  subst hFails
  obtain ⟨_, n, hs, hDone⟩ := hFork.accounted h
  obtain ⟨r₂, l, hEnd, hPaid, hLedger, hLeft⟩ :=
    exists_concluded (b := Work.reopened b (.budget p)) h.ledger hs hDone (hFork.faults h).2
      (ledger_worked r₁ j d.site d.purse budget') e fun _ => []
  obtain rfl := hLeft.eq_of_none
  exact ⟨r₂, hFork.registered.trans hEnd, hPaid, hLedger⟩

/-- A spawn that fails is undone, and then its world is no more. -/
theorem Forked.exists_spawned (hFails : res = .error e) :
    ∃ text r', name = .str text ∧
      spawn run i name components systems budget r = .error (Work.raisedFor name x e) r' ∧
      r'.budgets = ((r.closed j (d.site.after b.site.log)).kept d.purse budget).budgets ∧
      r'.ledger j = { r.ledger j with
        ledger := (r.ledger j).ledger.discarding (.bare x recipe.template text recipe.executor)
        faults := [] } := by
  subst hFails
  obtain ⟨text, n, -, hName, hMade⟩ :=
    Work.accounted_makeWorld_of_deployed rfl hFork.deployed components systems
  rw [hFork.made] at hMade
  obtain ⟨r', l, hEnd, hPaid, hLedger, hLeft⟩ :=
    exists_concluded h.ledger h.reached.sound hMade (hFork.faults h).2
      (ledger_worked r j (d.site.after b.site.log) d.purse budget) (Work.raisedFor name x e)
      fun h => [.worldCreated h]
  obtain rfl := hLeft.eq_of_some.2
  exact ⟨text, r', hName, hFork.spawned.trans (bind_of_error hEnd), hPaid, hLedger⟩

/-- **Registrations that fail** make both ways fail: a spawn for the same reason, and with the same
steps paid. What it leaves is what is left if the deployed world is destroyed. -/
theorem Forked.fails (hFails : res = .error e) :
    ∃ r₂ r', registerAll run i (.handle x) (.list components) (.list systems) budget' r₁ =
        .error e r₂ ∧
      spawn run i name components systems budget r = .error (Work.raisedFor name x e) r' ∧
      Forsaken j budget budget' x r' r₂ := by
  obtain ⟨q, hPurse⟩ := hFork.exists_paid h
  obtain ⟨-, -, -, -, hLedger⟩ := realm_of_deployed hFork.opened
  obtain ⟨r₂, hRegistered, hPaid, hLedger₂⟩ := hFork.exists_registered h hFails
  obtain ⟨text, r', hName, hSpawned, hPaid', hLedger'⟩ := hFork.exists_spawned h hFails
  obtain ⟨hFresh, -, -, -, text', hName', hDeployed⟩ := Work.deployWorld_spec hFork.deployed
  cases hName.symm.trans hName'
  -- the world that has been deployed is destroyed where its registrations have been undone
  have hSite : r₂.site j = .opened b.site.ledger [] := by
    rw [Realm.site, hLedger₂]
  have hDestroy : (Undo.destroy x).onLedger (r₂.site j).ledger =
      .ok ((), (r.ledger j).ledger.discarding (.bare x recipe.template text recipe.executor)) := by
    rw [hSite, hFresh]
    show b.site.ledger.destroy (Value.handle _) = _
    rw [hDeployed, hFresh]
    exact h.reached.sound.destroy_withInstance rfl
  have hMeet : Fault.meet (Undo.destroy x).call (r₂.site j).faults = (none, []) := by
    rw [hSite]
    rfl
  obtain ⟨log, hRun⟩ := Undo.run_of_none (congrArg Prod.fst hMeet) hDestroy
  refine ⟨r₂, r', hRegistered, hSpawned, ⟨_, onSite_of_ok hRun, ?_⟩, ?_⟩
  · rw [hLedger', (r₂.worked_closed j .null _).ledger, hMeet, hLedger₂, hLedger]
  · intro k m hk hm
    rw [Realm.budget, Realm.budget, hPaid, hPaid']
    exact paidAlike_kept hPurse _ _ k m hk hm

end Forked

/-- **What both ways come to** after a deployment: both succeed, or both fail. -/
theorem outcomes_of_deploy (h : Undisturbed r i j handed) (hBudgets : Matched r budget budget')
    (hDeploy : deploy run i name r = .ok x r₁) (components systems : List Value) :
    (∃ r₂ r', registerAll run i (.handle x) (.list components) (.list systems) budget' r₁ =
        .ok () r₂ ∧
      spawn run i name components systems budget r = .ok x r' ∧ Agree j budget budget' r' r₂) ∨
    ∃ e r₂ r', registerAll run i (.handle x) (.list components) (.list systems) budget' r₁ =
        .error e r₂ ∧
      spawn run i name components systems budget r = .error (Work.raisedFor name x e) r' ∧
      ((r.catalogFor j).Sorted → (∀ t ∈ components ++ systems, ∃ id, t = .template id) →
        Work.raisedFor name x e = .registrationFailed name x e) ∧
      Forsaken j budget budget' x r' r₂ := by
  obtain ⟨recipe, p, b, d, res, hFork⟩ := exists_forked h hBudgets hDeploy components systems
  -- both paths register the same parts in the same world, so they come out alike
  cases res with
  | ok _ => exact .inl (hFork.agree h hBudgets rfl)
  | error e =>
    obtain ⟨r₂, r', hRegistered, hSpawned, hForsaken⟩ := hFork.fails h rfl
    exact .inr ⟨e, r₂, r', hRegistered, hSpawned, hFork.raisedFor_eq h rfl, hForsaken⟩

/-- **Two ways to a world with parts agree.** A spawn succeeds exactly if a deployment and the
registration of the parts in the deployed world do, and then they lead to the same. It fails as the
deployment does. And if the registration fails, the spawn fails because of the same error, having
paid as much, and leaves the ledger as it is once the deployed world is destroyed. -/
theorem two_paths_agree (h : Undisturbed r i j handed) (hBudgets : Matched r budget budget')
    (run : κ → Act κ Unit) (name : Value) (components systems : List Value) :
    ((∃ x r', spawn run i name components systems budget r = .ok x r') ↔
      ∃ x r₁ r₂, deploy run i name r = .ok x r₁ ∧
        registerAll run i (.handle x) (.list components) (.list systems) budget' r₁ =
          .ok () r₂) ∧
    (∀ y r' x r₁ r₂, spawn run i name components systems budget r = .ok y r' →
      deploy run i name r = .ok x r₁ →
      registerAll run i (.handle x) (.list components) (.list systems) budget' r₁ = .ok () r₂ →
        y = x ∧ Agree j budget budget' r' r₂) ∧
    (∀ e r₁, deploy run i name r = .error e r₁ →
      ∃ r', spawn run i name components systems budget r = .error e r') ∧
    ∀ x r₁ e r₂, deploy run i name r = .ok x r₁ →
      registerAll run i (.handle x) (.list components) (.list systems) budget' r₁ = .error e r₂ →
        ∃ r', spawn run i name components systems budget r =
            .error (Work.raisedFor name x e) r' ∧
          ((r.catalogFor j).Sorted → (∀ t ∈ components ++ systems, ∃ id, t = .template id) →
            Work.raisedFor name x e = .registrationFailed name x e) ∧
          Forsaken j budget budget' x r' r₂ := by
  refine ⟨⟨?_, ?_⟩, ?_, fun e r₁ hDeploy =>
    spawn_of_not_deployed h hBudgets hDeploy components systems, ?_⟩
  -- a spawn that succeeds has deployed its world, and has had its parts registered
  · rintro ⟨x, r', hSpawn⟩
    cases hDeploy : deploy run i name r with
    | error e r₁ =>
      obtain ⟨r₂, hFails⟩ := spawn_of_not_deployed h hBudgets hDeploy components systems
      cases hSpawn.symm.trans hFails
    | ok y r₁ =>
      rcases outcomes_of_deploy h hBudgets hDeploy components systems with
        ⟨r₂, -, hRegistered, -⟩ | ⟨e, -, r'', -, hFails, -⟩
      · exact ⟨y, r₁, r₂, rfl, hRegistered⟩
      · cases hSpawn.symm.trans hFails
  · rintro ⟨x, r₁, r₂, hDeploy, hRegistered⟩
    rcases outcomes_of_deploy h hBudgets hDeploy components systems with
      ⟨-, r', -, hSpawned, -⟩ | ⟨e, r₃, -, hFails, -⟩
    · exact ⟨x, r', hSpawned⟩
    · cases hRegistered.symm.trans hFails
  -- how each way comes out is determined, so that the cases of the lemma exclude each other
  · intro y r' x r₁ r₂ hSpawn hDeploy hRegistered
    rcases outcomes_of_deploy h hBudgets hDeploy components systems with
      ⟨r₃, r'', hDone, hSpawned, hAgree⟩ | ⟨e, r₃, -, hFails, -⟩
    · cases hSpawn.symm.trans hSpawned
      cases hRegistered.symm.trans hDone
      exact ⟨rfl, hAgree⟩
    · cases hRegistered.symm.trans hFails
  · intro x r₁ e r₂ hDeploy hRegistered
    rcases outcomes_of_deploy h hBudgets hDeploy components systems with
      ⟨r₃, -, hDone, -⟩ | ⟨e', r₃, r', hFails, hSpawned, hCause, hForsaken⟩
    · cases hRegistered.symm.trans hDone
    · cases hRegistered.symm.trans hFails
      exact ⟨r', hSpawned, hCause, hForsaken⟩

/-- Two parts are taken by both ways from three steps. Asked for twice, a part is refused by both.
-/
theorem two_paths_agree_arena :
    let r := Arena.logged.putBudget 5 (Arena.logged.budget 3)
    let budget : Value := .object .budget 3
    let budget' : Value := .object .budget 5
    (∃ x r₁ r₂ r', deploy Empty.elim 4 (.str "pit") r = .ok x r₁ ∧
      registerAll Empty.elim 4 (.handle x) (.list [Arena.health]) (.list [Arena.physics]) budget'
        r₁ = .ok () r₂ ∧
      spawn Empty.elim 4 (.str "pit") [Arena.health] [Arena.physics] budget r = .ok x r' ∧
      Agree 1 budget budget' r' r₂) ∧
    ∃ x r₁ e r₂ r', deploy Empty.elim 4 (.str "pit") r = .ok x r₁ ∧
      registerAll Empty.elim 4 (.handle x) (.list [Arena.health, Arena.health]) (.list []) budget'
        r₁ = .error e r₂ ∧
      spawn Empty.elim 4 (.str "pit") [Arena.health, Arena.health] [] budget r =
        .error (.registrationFailed (.str "pit") x e) r' ∧
      Forsaken 1 budget budget' x r' r₂ := by
  intro r budget budget'
  have hUndisturbed : Undisturbed r 4 1 [Arena.executor] :=
    ⟨⟨rfl, Arena.reached_ledger, rfl, .inr ⟨2, rfl, rfl⟩⟩, .inl rfl⟩
  have hLimit : Budget.ofLimit? (some (.number 3)) = .ok ⟨some (.number 3), 0⟩ := rfl
  have hMatched : Matched r budget budget' := .equal (.fresh hLimit) rfl
  constructor
  · obtain ⟨hIff, hAgree, -, -⟩ := two_paths_agree hUndisturbed hMatched Empty.elim (.str "pit")
      [Arena.health] [Arena.physics]
    have hTaken : (ends (spawn Empty.elim 4 (.str "pit") [Arena.health] [Arena.physics] budget)
        r).1.isOk = true := by
      decide +kernel
    obtain ⟨y, r', hSpawn⟩ := exists_ok_of_ends hTaken
    obtain ⟨x, r₁, r₂, hDeploy, hRegister⟩ := hIff.1 ⟨y, r', hSpawn⟩
    obtain ⟨rfl, hSame⟩ := hAgree y r' x r₁ r₂ hSpawn hDeploy hRegister
    exact ⟨y, r₁, r₂, r', hDeploy, hRegister, hSpawn, hSame⟩
  -- a component that is asked for twice is rejected the second time
  · obtain ⟨hIff, -, -, hFails⟩ := two_paths_agree hUndisturbed hMatched Empty.elim (.str "pit")
      [Arena.health, Arena.health] []
    have hDeployed : (ends (deploy Empty.elim 4 (.str "pit")) r).1.isOk = true := by
      decide +kernel
    have hRefused : (ends (spawn Empty.elim 4 (.str "pit") [Arena.health, Arena.health] [] budget)
        r).1.isOk = false := by
      decide +kernel
    obtain ⟨x, r₁, hDeploy⟩ := exists_ok_of_ends hDeployed
    obtain ⟨e₀, r₀, hSpawn⟩ := exists_error_of_ends hRefused
    cases hRegister : registerAll Empty.elim 4 (.handle x) (.list [Arena.health, Arena.health])
      (.list []) budget' r₁ with
    | ok _ r₂ =>
      obtain ⟨y, r', hDone⟩ := hIff.2 ⟨x, r₁, r₂, hDeploy, hRegister⟩
      cases hSpawn.symm.trans hDone
    | error e r₂ =>
      obtain ⟨r', hEnd, hCause, hForsaken⟩ := hFails x r₁ e r₂ hDeploy hRegister
      rw [hCause Arena.sorted_catalog (by simp [Arena.health])] at hEnd
      exact ⟨x, r₁, e, r₂, r', hDeploy, hRegister, hEnd, hForsaken⟩

end Factory

end WorldForge

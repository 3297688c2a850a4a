import WorldForge.Proofs.Factory.Lodging
import WorldForge.Proofs.Factory.Operation

/-!
# Factories beside lodgers

Two realms go together (`Realm.Beside`) if in one of them the ledger of a factory has lodgers, while
all else that the factory works with is the same up to the numbers of handles: its recipe, the
catalog, what the log has been told of since then, and the budgets, except perhaps a hidden one.

Everything that is asked of the factory then comes out the same in both, be it a success or a
failure, and leaves realms that still go together. The factory has no sink or an event log, no fault
is planned, and no lodger is named.

Main results:

* `Factory.parallel_spawnRequest`, `Factory.parallel_spawn`, `Factory.parallel_deploy`,
  `Factory.parallel_registerAll` — operations;
* `Factory.parallel_reconfigure` — administration.
-/

namespace WorldForge

variable {κ α : Type} {φ : Shift} {lodgers : Ledger.Lodgers}

instance : Renumbers Factory :=
  ⟨fun g f => { f with configuration := renumber g f.configuration }⟩

/-- A factory stays the same if the executor of its recipe keeps its number. -/
theorem Factory.renumber_eq_self {g : Int → Int} {f : Factory}
    (h : ∀ recipe, f.configuration = .holding recipe →
      g recipe.executor.number = recipe.executor.number) : renumber g f = f := by
  obtain ⟨ledger, sink, stepBudget, ⟨current⟩⟩ := f
  cases current with
  | none => rfl
  | some recipe =>
    have hExecutor : renumber g recipe.executor = recipe.executor := renumber_of_eq (h recipe rfl)
    show Factory.mk ledger sink stepBudget (.holding { recipe with executor := _ }) = _
    rw [hExecutor]
    rfl

/-- The objects that a factory works with: the factory itself, its ledger, the catalog of the
ledger, and the event log that is its sink, if it has one. -/
structure Premises where
  factory : Nat
  ledger : Nat
  /-- What stands for the catalog of the ledger. -/
  catalog : Value
  log? : Option Nat

/-- What is compared between two histories of the same factory, and what is left out of the
comparison. -/
structure Outlook extends Premises where
  /-- What is not looked at: a budget that only one of them has used. -/
  hidden : Value
  /-- What the log was told of before, in either history. -/
  told : List Value × List Value

/-- What stands for the sink of the factory. -/
def Premises.sink (p : Premises) : Value :=
  match p.log? with
  | none => .null
  | some k => .object .eventLog k

/-- **Two realms that differ by lodgers**: the ledger of the factory has additional instances in the
one, and everything else that the factory works with is the same up to the numbers of handles. -/
structure Realm.Beside (φ : Shift) (lodgers : Ledger.Lodgers) (p : Outlook) (r s : Realm κ) :
    Prop where
  site : (r.site p.ledger).Beside φ lodgers (s.site p.ledger)
  catalog : (r.ledger p.ledger).catalog = p.catalog ∧ (s.ledger p.ledger).catalog = p.catalog
  catalogs : r.catalogs = s.catalogs
  factory : r.factory p.factory = renumber φ.number (s.factory p.factory)
  works : (s.factory p.factory).ledger = .object .ledger p.ledger ∧
    (s.factory p.factory).sink = p.sink
  log : ∀ k, p.log? = some k → ∃ events,
    r.sink k = ⟨p.told.1 ++ renumber φ.number events, []⟩ ∧ s.sink k = ⟨p.told.2 ++ events, []⟩
  budgets : ∀ k, .object .budget k ≠ p.hidden → r.budget k = s.budget k

/-- Computations on realms that lie beside each other. -/
abbrev Act.Parallel [Renumbers α] (φ : Shift) (lodgers : Ledger.Lodgers) (p : Outlook)
    (x y : Act κ α) : Prop :=
  WorldForge.Parallel φ.number (Realm.Beside φ lodgers p) x y

variable {p : Outlook} {r s : Realm κ} {run : κ → Act κ Unit}

namespace Realm.Beside

/-- The ledgers of two realms that lie beside each other deploy from the same catalog, as there are
no handles in it. -/
theorem catalogFor (h : r.Beside φ lodgers p s) :
    r.catalogFor p.ledger = s.catalogFor p.ledger := by
  rw [Realm.catalogFor, Realm.catalogFor, h.catalog.1, h.catalog.2]
  cases p.catalog with
  | object kind i =>
    cases kind with
    | catalog => exact congrArg (fun t => (Table.find? t i).getD .empty) h.catalogs
    | _ => rfl
  | _ => rfl

theorem appendTrace (h : r.Beside φ lodgers p s) (entries entries' : List Entry) :
    (r.appendTrace entries).Beside φ lodgers p (s.appendTrace entries') :=
  ⟨h.site, h.catalog, h.catalogs, h.factory, h.works, h.log, h.budgets⟩

/-- Realms lie beside each other after work on their ledgers if the sites lie beside each other that
the work has left. -/
theorem closed {u v : Site} (h : r.Beside φ lodgers p s) (hSite : u.Beside φ lodgers v) :
    (r.closed p.ledger u).Beside φ lodgers p (s.closed p.ledger v) where
  site := by
    rw [Realm.site, Realm.site, Realm.closed, Realm.closed]
    simp only [Realm.ledger_appendTrace, Realm.ledger_putLedger, if_true]
    exact ⟨hSite.ledger, hSite.faults⟩
  catalog := by
    rw [Realm.closed, Realm.closed]
    simp only [Realm.ledger_appendTrace, Realm.ledger_putLedger, if_true]
    exact h.catalog
  catalogs := h.catalogs
  factory := h.factory
  works := h.works
  log := h.log
  budgets := h.budgets

/-- The same budget may be written in both realms. -/
theorem putBudget (h : r.Beside φ lodgers p s) (k : Nat) (b : Budget) :
    (r.putBudget k b).Beside φ lodgers p (s.putBudget k b) where
  site := h.site
  catalog := h.catalog
  catalogs := h.catalogs
  factory := h.factory
  works := h.works
  log := h.log
  budgets m hm := by
    rw [Realm.budget_putBudget, Realm.budget_putBudget]
    split
    · rfl
    · exact h.budgets m hm

end Realm.Beside

/-! ## On the ledger -/

namespace Act

/-- What is reported makes no difference to realms that lie beside each other, as the trace is not
compared. -/
theorem parallel_report (d d' : LogRecord) :
    Act.Parallel φ lodgers p (report d : Act κ Unit) (report d') :=
  parallel_modify fun _ _ h => h.appendTrace _ _

/-- What is done on the site of a ledger comes out as it does at the site alone, and the realm is
closed over what is left there. -/
theorem ends_onSite (x : Catalog → SiteM α) (j : Nat) (r : Realm κ) :
    ends (onSite j x) r =
      ((ends (x (r.catalogFor j)) (r.site j)).1,
        r.closed j (ends (x (r.catalogFor j)) (r.site j)).2) := by
  cases hx : x (r.catalogFor j) (r.site j) with
  | ok a u => rw [ends_of_ok hx, ends_of_ok (Factory.onSite_of_ok hx)]
  | error e u => rw [ends_of_error hx, ends_of_error (Factory.onSite_of_error hx)]

/-- **What runs in parallel on sites does so on realms**, with the records of either in its own
trace. -/
theorem parallel_onSite [Renumbers α] {x y : Catalog → SiteM α}
    (h : ∀ c, Site.Parallel φ lodgers (x c) (y c)) :
    Act.Parallel φ lodgers p (onSite p.ledger x : Act κ α) (onSite p.ledger y) := by
  intro r s hBeside
  obtain ⟨hSame, hSite⟩ := h (s.catalogFor p.ledger) _ _ hBeside.site
  rw [ends_onSite, ends_onSite, hBeside.catalogFor]
  exact ⟨hSame, hBeside.closed hSite⟩

end Act

/-! ## Telling the log -/

namespace Sink

/-- Both logs are told of the event, each with its own handle in it, and take it. -/
theorem parallel_emit {k : Nat} (hLog : p.log? = some k) (event : Value) :
    Act.Parallel φ lodgers p (emit run k (renumber φ.number event)) (emit run k event) := by
  intro r s h
  obtain ⟨events, hr, hs⟩ := h.log k hLog
  -- a log without a script keeps an event, and that is all
  have hEmit : ∀ (r : Realm κ) (event : Value) (told : List Value), r.sink k = ⟨told, []⟩ →
      ends (emit run k event) r = (.ok (), r.putSink k ⟨told ++ [event], []⟩) := by
    intro r event told hSink
    rw [emit, ends_bind, ends_of_ok (get_eq r)]
    simp only [hSink]
    rfl
  rw [hEmit r _ _ hr, hEmit s _ _ hs]
  refine ⟨rfl, h.site, h.catalog, h.catalogs, h.factory, h.works, ?_, h.budgets⟩
  intro k' hk'
  rw [hLog] at hk'
  cases hk'
  refine ⟨events ++ [event], ?_, ?_⟩
  · rw [Realm.sink_putSink, if_pos rfl, renumber_append, List.append_assoc]
    rfl
  · rw [Realm.sink_putSink, if_pos rfl, List.append_assoc]

/-- Both sinks are told of all events, since no reaction of theirs raises an error. -/
theorem parallel_deliver (events : List Value) :
    Act.Parallel φ lodgers p (deliver run p.sink (renumber φ.number events))
      (deliver run p.sink events) := by
  cases hLog : p.log? with
  | none =>
    rw [Premises.sink, hLog]
    exact parallel_pure rfl
  | some k =>
    rw [Premises.sink, hLog]
    show Act.Parallel φ lodgers p ((renumber φ.number events).forM (emit run k))
      (events.forM (emit run k))
    -- by induction on what the log is told of
    induction events with
    | nil => exact parallel_pure rfl
    | cons event rest ih => exact (parallel_emit hLog event).bind fun _ => ih

end Sink

/-! ## Operations of the factory -/

namespace Factory

variable {f : Factory} {budget : Value}

/-- The recipe of a renumbered factory is the renumbered recipe of the factory. -/
theorem recipe_renumber (g : Int → Int) (f : Factory) :
    (renumber g f).recipe = renumber g f.recipe := by
  obtain ⟨ledger, sink, stepBudget, ⟨current⟩⟩ := f
  cases current <;> rfl

/-- Whoever has the same budgets pays with the same. A budget that is hidden is not paid with, so it
may differ. -/
theorem parallel_purse (f : Factory) (hBudget : budget = .null ∨ budget ≠ p.hidden) :
    Act.Parallel φ lodgers p ((renumber φ.number f).purse budget : Act κ Purse)
      (f.purse budget) := by
  have hOther : ∀ v, Act.Parallel φ lodgers p (pure (.other v) : Act κ Purse) (pure (.other v)) :=
    fun v => parallel_pure rfl
  cases budget with
  -- a fresh budget depends on the factory's number of steps only
  | null =>
    rw [purse, purse, show (renumber φ.number f).stepBudget = f.stepBudget from rfl]
    cases Budget.ofValue f.stepBudget with
    | error e => exact parallel_throw rfl
    | ok b => exact parallel_pure rfl
  | object kind k =>
    cases kind with
    | budget =>
      have hSeen : Value.object .budget k ≠ p.hidden := hBudget.resolve_left (by simp)
      refine Parallel.get fun r s h => ?_
      rw [h.budgets k hSeen]
      exact parallel_pure rfl
    | _ => exact hOther _
  | _ => exact hOther _

/-- What was spent is written back to the same budget in both realms. -/
theorem parallel_keepPurse (purse : Purse) (budget : Value) :
    Act.Parallel φ lodgers p (keepPurse purse budget : Act κ Unit) (keepPurse purse budget) := by
  intro r s h
  rw [ends_of_ok (keepPurse_eq purse budget r), ends_of_ok (keepPurse_eq purse budget s)]
  refine ⟨rfl, ?_⟩
  show (r.kept purse budget).Beside φ lodgers p (s.kept purse budget)
  unfold Realm.kept
  split
  · exact h.putBudget _ _
  · exact h

/-- The same is told of a budget in both realms, unless it is the one that is not looked at. -/
theorem parallel_spent (purse : Purse) (hBudget : budget = .null ∨ budget ≠ p.hidden) :
    Act.Parallel φ lodgers p (spent purse budget : Act κ Int) (spent purse budget) := by
  have hPurse : Act.Parallel φ lodgers p (release purse.used : Act κ Int) (release purse.used) :=
    parallel_release (Work.renumber_used _ _)
  cases budget with
  | object kind k =>
    cases kind with
    | budget =>
      -- the budget is one of those on which both realms agree
      have hSeen : Value.object .budget k ≠ p.hidden := hBudget.resolve_left (by simp)
      refine Parallel.get fun r s h => ?_
      rw [h.budgets k hSeen]
      exact parallel_pure rfl
    | _ => exact hPurse
  | _ => exact hPurse

/-- The work of the factory on its ledger. It begins side by side, with the same purse and an empty
journal, and so it ends side by side. -/
theorem parallel_perform [Renumbers α] {work work' : Catalog → Work α}
    (hLedger : f.ledger = .object .ledger p.ledger) (purse : Purse) (first : LedgerCall)
    (hWork : ∀ c, Work.Parallel φ lodgers (work c) (work' c)) :
    Act.Parallel φ lodgers p ((renumber φ.number f).perform purse first work)
      (f.perform purse first work' : Act κ (Except Error α × Purse × List Undo)) := by
  intro r s h
  have hLedger' : (renumber φ.number f).ledger = .object .ledger p.ledger := hLedger
  have hStart : (⟨r.site p.ledger, purse, []⟩ : Workbench).Beside φ lodgers
      ⟨s.site p.ledger, purse, []⟩ := ⟨h.site, rfl, rfl⟩
  obtain ⟨hSame, hBench⟩ := hWork (s.catalogFor p.ledger) _ _ hStart
  rw [ends_of_ok (perform_eq hLedger' purse first work r),
    ends_of_ok (perform_eq hLedger purse first work' s), h.catalogFor]
  refine ⟨?_, h.closed hBench.site⟩
  rw [hSame, hBench.purse, hBench.journal]
  rfl

/-- **An operation that is given up is so in both realms**: both journals are undone, with the
handles of their own ledger, and come out with corresponding errors. -/
theorem parallel_abandon [Renumbers α] (hLedger : f.ledger = .object .ledger p.ledger)
    (journal : List Undo) (e : Error) :
    Act.Parallel φ lodgers p
      ((renumber φ.number f).abandon (renumber φ.number journal) (renumber φ.number e))
      (f.abandon journal e : Act κ α) := by
  have hUndo : Act.Parallel φ lodgers p
      ((renumber φ.number f).undoAll (renumber φ.number journal))
      (f.undoAll journal : Act κ (List Error)) := by
    rw [undoAll, undoAll, hLedger, show (renumber φ.number f).ledger = _ from hLedger]
    exact Act.parallel_onSite fun _ => Undo.parallel_runAll journal
  exact hUndo.bind fun failures => parallel_throw (renumber_afterRollback failures e)

/-- **The end of an operation**: the log takes what it is told, and what has failed is undone. -/
theorem parallel_conclude [Renumbers α] (hLedger : f.ledger = .object .ledger p.ledger)
    (hSink : f.sink = p.sink) (journal : List Undo) (outcome : Except Error α)
    {events events' : α → List Value}
    (hEvents : ∀ a, events (renumber φ.number a) = renumber φ.number (events' a)) :
    Act.Parallel φ lodgers p
      (conclude run (renumber φ.number f) (renumber φ.number journal) (renumber φ.number outcome)
        events)
      (conclude run f journal outcome events') := by
  cases outcome with
  | error e => exact (Act.parallel_report _ _).bind fun _ => parallel_abandon hLedger journal e
  | ok a =>
    have hTold : Act.Parallel φ lodgers p
        (Sink.deliver run (renumber φ.number f).sink (events (renumber φ.number a)))
        (Sink.deliver run f.sink (events' a)) := by
      rw [hEvents, show (renumber φ.number f).sink = f.sink from rfl, hSink]
      exact Sink.parallel_deliver (events' a)
    refine hTold.attempt.bind fun told => ?_
    -- if the log refuses, then it does so in both, and both are undone
    cases told with
    | ok _ => exact parallel_pure rfl
    | error e => exact (Act.parallel_report _ _).bind fun _ => parallel_abandon hLedger journal e

/-- **Making a world with its parts**: the recipe is renumbered, and so are the handle that is given
and the event that is told. -/
theorem parallel_spawn (name : Value) (components systems : List Value)
    (hBudget : budget = .null ∨ budget ≠ p.hidden) :
    Act.Parallel φ lodgers p (spawn run p.factory name components systems budget)
      (spawn run p.factory name components systems budget) := by
  refine Parallel.get fun r s h => ?_
  obtain ⟨hLedger, hSink⟩ := h.works
  rw [h.factory]
  -- step by step: the recipe, what pays, the work, what is left to pay with, the log
  refine Parallel.bind (parallel_release (recipe_renumber _ _)) fun recipe => ?_
  refine (parallel_purse _ hBudget).bind fun purse => ?_
  refine (parallel_perform hLedger purse .deploy fun c =>
    Work.parallel_makeWorld c recipe name components systems).bind
      fun (outcome, purse, journal) => ?_
  refine (parallel_keepPurse purse budget).bind fun _ => ?_
  refine (parallel_conclude hLedger hSink journal outcome fun h => rfl).bind fun h => ?_
  refine (parallel_spent purse hBudget).bind fun used => ?_
  exact (Act.parallel_report _ _).bind fun _ => parallel_pure rfl

/-- **Making the world that a value requests**. A value that is no request fails on both sides, at
the same place. -/
theorem parallel_spawnRequest (request : Value) (hBudget : budget = .null ∨ budget ≠ p.hidden) :
    Act.Parallel φ lodgers p (spawnRequest run p.factory request budget)
      (spawnRequest run p.factory request budget) := by
  by_cases hRequest : ∃ name components systems, request = .request name components systems
  · obtain ⟨name, components, systems, rfl⟩ := hRequest
    exact parallel_spawn name components systems hBudget
  rw [spawnRequest_of_not_request hRequest]
  refine Parallel.get fun r s h => ?_
  obtain ⟨hLedger, hSink⟩ := h.works
  rw [h.factory]
  refine Parallel.bind (parallel_release (recipe_renumber _ _)) fun recipe => ?_
  refine (parallel_purse _ hBudget).bind fun purse => ?_
  -- what is no request may still have a name; then a world is deployed and undone again
  cases request.name? with
  | none => exact parallel_conclude hLedger hSink [] (.error (.lacking request "name")) fun _ => rfl
  | some name =>
    have hLacking : Error.lacking request "component_ids" =
        renumber φ.number (.lacking request "component_ids") := rfl
    refine (parallel_perform hLedger purse .deploy fun c =>
      (Work.parallel_deployWorld c recipe name).bind fun _ => parallel_throw hLacking).bind
        fun (outcome, _, journal) => ?_
    exact parallel_conclude hLedger hSink journal outcome fun _ => rfl

/-- **Making a world without parts.** -/
theorem parallel_deploy (name : Value) :
    Act.Parallel φ lodgers p (deploy run p.factory name) (deploy run p.factory name) := by
  refine Parallel.get fun r s h => ?_
  obtain ⟨hLedger, hSink⟩ := h.works
  rw [h.factory]
  refine Parallel.bind (parallel_release (recipe_renumber _ _)) fun recipe => ?_
  refine (parallel_perform hLedger (.budget .unmetered) .deploy fun c =>
    Work.parallel_deployWorld c recipe name).bind fun (outcome, _, journal) => ?_
  exact parallel_conclude hLedger hSink journal outcome fun _ => rfl

/-- **Registering parts in a world.** -/
theorem parallel_registerAll (world components systems : Value)
    (hBudget : budget = .null ∨ budget ≠ p.hidden) :
    Act.Parallel φ lodgers p
      (registerAll run p.factory (renumber φ.number world) components systems budget)
      (registerAll run p.factory world components systems budget) := by
  refine Parallel.get fun r s h => ?_
  obtain ⟨hLedger, hSink⟩ := h.works
  rw [h.factory]
  refine Parallel.bind (parallel_release (recipe_renumber _ _)) fun recipe => ?_
  refine (parallel_purse _ hBudget).bind fun purse => ?_
  refine (parallel_perform hLedger purse .dispatcher fun c =>
    Work.parallel_registerParts c world components systems).bind fun (outcome, purse, journal) => ?_
  refine (parallel_keepPurse purse budget).bind fun _ => ?_
  exact parallel_conclude hLedger hSink journal outcome fun _ => rfl

/-! ## Administration -/

/-- **Administration**: a change of the recipe that is the same up to the numbers of handles. -/
theorem parallel_reconfigure {change change' : Configuration → Except ConfigurationError Recipe}
    (hChange : ∀ c, change (renumber φ.number c) = renumber φ.number (change' c)) :
    Act.Parallel φ lodgers p (reconfigure p.factory change : Act κ Recipe)
      (reconfigure p.factory change') := by
  refine Parallel.get fun r s h => ?_
  obtain ⟨hLedger, hSink⟩ := h.works
  rw [h.factory]
  -- the two factories hold recipes that differ by the renumbering, and so do the changed ones
  have hSame : change (renumber φ.number (s.factory p.factory)).configuration =
      renumber φ.number (change' (s.factory p.factory).configuration) := hChange _
  dsimp only
  rw [hSame]
  cases change' (s.factory p.factory).configuration with
  | error e =>
    have hRefused : Error.configuration (renumber φ.number e) =
        renumber φ.number (.configuration e) := rfl
    exact parallel_throw hRefused
  | ok recipe =>
    let f : Factory := { s.factory p.factory with configuration := .holding recipe }
    have hKept : Act.Parallel φ lodgers p
        (modify (Realm.putFactory p.factory (renumber φ.number f)) : Act κ Unit)
        (modify (Realm.putFactory p.factory f)) := by
      refine parallel_modify fun r' s' h' => ?_
      refine ⟨h'.site, h'.catalog, h'.catalogs, ?_, ?_, h'.log, h'.budgets⟩
      · rw [Realm.factory_putFactory, Realm.factory_putFactory, if_pos rfl, if_pos rfl]
      · rw [Realm.factory_putFactory, if_pos rfl]
        exact ⟨hLedger, hSink⟩
    have hGiven : Act.Parallel φ lodgers p (pure (renumber φ.number recipe) : Act κ Recipe)
        (pure recipe) := parallel_pure rfl
    exact hKept.bind (f := fun _ => pure (renumber φ.number recipe)) (h := fun _ => pure recipe)
      fun _ => hGiven

end Factory

end WorldForge

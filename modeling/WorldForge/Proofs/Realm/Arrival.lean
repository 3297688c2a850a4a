import WorldForge.Proofs.Factory.Chronicle
import WorldForge.Proofs.Factory.Rollback
import WorldForge.Proofs.Ledger.Arrival
import WorldForge.Proofs.Realm.Lodging

/-!
# What an operation leaves of itself

An operation that is to make a world, on premises where no fault is planned and nobody refuses to be
told, leaves an arrival on the ledger and nothing else (`Realm.Visited`): a world if it succeeds,
and if it fails, at most the number of a handle. What it has been paid from aside, the realm after
the operation lies beside the realm before it.

Main results:

* `Quiet.act` — quiet premises stay quiet, since an operation runs in parallel with itself;
* `exists_arrival` — what an operation leaves of itself;
* `Visited.beside` — and what it leaves is a lodger.
-/

namespace WorldForge

variable {κ : Type} {run : κ → Act κ Unit} {p : Premises} {r r₁ r₂ r' : Realm κ}
  {handed : List InstanceHandle} {φ : Shift} {lodgers : Ledger.Lodgers}

/-! ## Quiet premises -/

/-- **Premises are quiet** if the factory works on its ledger, no fault is planned there, and the
log takes whatever it is told. -/
structure Realm.Quiet (p : Premises) (r : Realm κ) : Prop where
  faults : (r.ledger p.ledger).faults = []
  catalog : (r.ledger p.ledger).catalog = p.catalog
  works : (r.factory p.factory).ledger = .object .ledger p.ledger ∧
    (r.factory p.factory).sink = p.sink
  script : ∀ k, p.log? = some k → (r.sink k).script = []

/-- What the log has been told of, if there is one. -/
def Realm.eventsAt (p : Premises) (r : Realm κ) : List Value :=
  match p.log? with
  | none => []
  | some k => (r.sink k).events

/-- Where there is a log, what it has been told of is what its sink keeps. -/
theorem Realm.eventsAt_eq {k : Nat} (hLog : p.log? = some k) (r : Realm κ) :
    r.eventsAt p = (r.sink k).events := by
  rw [eventsAt, hLog]

namespace Realm

/-- Realms that lie beside each other both have quiet premises: no fault is planned, and each log
takes whatever it is told. -/
theorem Beside.quiet {p : Outlook} {s : Realm κ} (h : r.Beside φ lodgers p s) :
    r.Quiet p.toPremises ∧ s.Quiet p.toPremises := by
  refine ⟨⟨h.site.faults.1, h.catalog.1, ?_, ?_⟩, h.site.faults.2, h.catalog.2, h.works, ?_⟩
  · rw [h.factory]
    exact h.works
  · intro k hLog
    obtain ⟨events, hSink, -⟩ := h.log k hLog
    rw [hSink]
  · intro k hLog
    obtain ⟨events, -, hSink⟩ := h.log k hLog
    rw [hSink]

/-- Quiet premises lie beside themselves: with nobody lodging there, all handles are the same on
both sides. -/
theorem Quiet.beside_self (h : r.Quiet p)
    (hReached : Ledger.Reached (r.catalogFor p.ledger) (r.ledger p.ledger).ledger handed) :
    r.Beside .none ⟨[], [], [], []⟩ ⟨p, .null, [], []⟩ r where
  site := by
    -- nothing has arrived, so there is nobody to share handles with
    have hAt : Arrival.nothing.At (r.ledger p.ledger).ledger.allocator.fresh := by
      intro w hw
      cases hw
    exact ⟨Ledger.beside_join hReached hAt, h.faults, h.faults⟩
  catalog := ⟨h.catalog, h.catalog⟩
  catalogs := rfl
  factory := (Factory.renumber_eq_self fun _ _ => rfl).symm
  works := h.works
  log := by
    intro k hLog
    have hSink : r.sink k = ⟨(r.sink k).events, []⟩ := by
      rw [← h.script k hLog]
    refine ⟨(r.sink k).events, ?_, hSink⟩
    rw [renumber_values_eq_self fun _ _ _ _ => rfl]
    exact hSink
  budgets _ _ := rfl

end Realm

namespace Operation

variable {o : Operation} {recipe : Recipe} {c : Catalog} {b b' : Workbench} {a : o.Result}
  {name : Value} {x : InstanceHandle} {e : Error}

/-- **Quiet premises stay quiet**, since an operation runs in parallel with itself. -/
theorem quiet_act (h : r.Quiet p)
    (hReached : Ledger.Reached (r.catalogFor p.ledger) (r.ledger p.ledger).ledger handed)
    (run : κ → Act κ Unit) (o : Operation) : (ends (o.act run p.factory) r).2.Quiet p := by
  have hSelf := h.beside_self hReached
  -- no budget is hidden when a realm is set beside itself
  have hBudget : ∀ budget : Value, budget = .null ∨ budget ≠ .null := fun _ => em _
  cases o with
  | spawn name components systems budget =>
    exact (Factory.parallel_spawn name components systems (hBudget budget) r r hSelf).2.quiet.2
  | request given budget =>
    exact (Factory.parallel_spawnRequest given (hBudget budget) r r hSelf).2.quiet.2
  | deploy name => exact (Factory.parallel_deploy name r r hSelf).2.quiet.2
  | registerAll world components systems budget =>
    exact (Factory.parallel_registerAll world components systems (hBudget budget) r r
      hSelf).2.quiet.2

/-- A reached ledger stays a reached one over a history, with more handles given out. -/
theorem reached_of_leads {s s' : Scene} (h : s.LeadsTo s')
    (hReached : Ledger.Reached s.catalog s.ledger handed) :
    ∃ handed', Ledger.Reached s'.catalog s'.ledger handed' := by
  obtain ⟨moves, rfl⟩ := h
  exact ⟨_, Scene.reached_after hReached moves⟩

/-- Whoever is told on quiet premises takes it. The only sink there is a log without a script, so
that all that is told is found in it afterwards. -/
theorem deliver_of_quiet (h : r.Quiet p) (hSinks : r₁.sinks = r.sinks) (run : κ → Act κ Unit)
    (o : Operation) (a : o.Result) :
    ∃ sinks, Sink.deliver run (r.factory p.factory).sink (o.events a) r₁ =
        .ok () { r₁ with sinks } ∧
      ∀ k, p.log? = some k → ({ r₁ with sinks } : Realm κ).sink k =
        { r.sink k with events := (r.sink k).events ++ (o.made a).map .worldCreated } := by
  have hSame : ∀ k, r₁.sink k = r.sink k := by
    intro k
    rw [Realm.sink, Realm.sink, hSinks]
  -- a quiet factory has no sink, or a log, which takes everything
  cases hLog : p.log? with
  | none =>
    have hNull : (r.factory p.factory).sink = .null := by
      rw [h.works.2, Premises.sink, hLog]
    rw [hNull]
    exact ⟨r₁.sinks, Sink.deliver_null .., fun k hk => by cases hk⟩
  | some k =>
    have hSink : (r.factory p.factory).sink = .object .eventLog k := by
      rw [h.works.2, Premises.sink, hLog]
    have hScript : (r₁.sink k).script = [] := by
      rw [hSame]
      exact h.script k hLog
    obtain ⟨sinks, hTold, hEvents⟩ := Factory.deliver_log hSink hScript run o a
    refine ⟨sinks, hTold, fun k' hk => ?_⟩
    cases hk
    rw [hEvents, hSame]

/-- On quiet premises, an operation takes the ledger further, also if it is rolled back: to undo its
work is a matter of more moves. -/
theorem leads_act (h : r.Quiet p) (hBudget : o.budget = .null ∨ ∃ k, o.budget = .object .budget k)
    (run : κ → Act κ Unit) :
    (r.scene p.ledger).LeadsTo ((ends (o.act run p.factory) r).2.scene p.ledger) := by
  have hCourse := course (o := o) h.works.1 hBudget run
  generalize (ends (o.act run p.factory) r).1 = out at hCourse
  generalize (ends (o.act run p.factory) r).2 = r' at hCourse ⊢
  cases hCourse with
  | idle => exact .refl _
  | @undone recipe pays e b n r₁ os s hWork hWorked hUnwound =>
    have hWorkLeads := leads_of_work (ends_of_error hWork)
    rw [← hWorked.scene_eq] at hWorkLeads
    exact hWorkLeads.trans (Realm.leads_of_unwound hUnwound)
  | @told recipe a b r₁ r₂ entries hDone hTold =>
    obtain ⟨n, hWorked⟩ := hDone.worked hBudget
    obtain ⟨sinks, hOk, -⟩ := deliver_of_quiet h hWorked.sinks run o a
    rw [hTold] at hOk
    cases hOk
    obtain ⟨pays, hWork⟩ := hDone.work
    have hScene : (({ r₁ with sinks } : Realm κ).appendTrace entries).scene p.ledger =
        ⟨r.catalogFor p.ledger, b.site.ledger⟩ := hWorked.scene_eq
    rw [hScene]
    exact leads_of_work (ends_of_ok hWork)
  -- nobody refuses to be told, so it never comes to this
  | @refused recipe a b e r₁ r₂ os s hDone hTold hUnwound =>
    obtain ⟨n, hWorked⟩ := hDone.worked hBudget
    obtain ⟨sinks, hOk, -⟩ := deliver_of_quiet h hWorked.sinks run o a
    rw [hTold] at hOk
    cases hOk

/-- Where nobody refuses to be told, the sink is discreet. -/
theorem discreet_of_quiet (h : r.Quiet p) (run : κ → Act κ Unit) :
    Sink.Discreet run (r.factory p.factory).sink r := by
  intro ledgers budgets trace event r₀
  rw [h.works.2, Premises.sink]
  -- to note an event changes neither ledgers nor budgets nor records
  cases hLog : p.log? with
  | none => exact .refl r₀
  | some k =>
    have hLogged : Sink.deliver run (.object .eventLog k) [event] r₀ = _ :=
      Sink.deliver_quiet (r := r₀) (.inr ⟨k, rfl, h.script k hLog⟩) event
    obtain ⟨sinks, hTold⟩ := r₀.told_eq event (.object .eventLog k)
    have hEnds := ends_of_ok hLogged
    rw [Sink.ends_deliver run (by simp), hTold] at hEnds
    dsimp only
    rw [hEnds]
    exact ⟨rfl, rfl, rfl⟩

/-! ## What is left -/

/-- Only a live executor gets a world. -/
theorem executor_alive_of_deployWorld (h : Work.deployWorld c recipe name b = .ok x b') :
    b.site.ledger.allocator.isAlive recipe.executor.key = true := by
  obtain ⟨s, hDeploy, -⟩ := Work.deployWorld_eq_ok_iff.1 h
  obtain ⟨-, -, -, pl, l, hLedger, -⟩ := Site.deploy_eq_ok_iff.1 hDeploy
  exact (Ledger.plan_eq_ok_iff.1 (Ledger.deploy_eq_ok hLedger).1).2.2.2

/-- Where the executor is dead, no work is done for a new world. -/
theorem work_of_dead (hMakes : ∀ a : o.Result, o.made a ≠ [])
    (hDead : b.site.ledger.allocator.isAlive recipe.executor.key = false) (c : Catalog) :
    ∃ e s, o.work recipe c b = .error e { b with site := s } ∧ s.ledger = b.site.ledger := by
  have hNone : ∀ name, ∃ e, Work.deployWorld c recipe name b =
      .error e { b with site := b.site.met .deploy } := by
    intro name
    cases hDeploy : Work.deployWorld c recipe name b with
    -- a deployment that succeeds has had a live executor
    | ok x b' =>
      rw [executor_alive_of_deployWorld hDeploy] at hDead
      cases hDead
    | error e b' => exact ⟨e, by rw [(Work.deployWorld_eq_error hDeploy).1]⟩
  have hMake : ∀ name components systems, ∃ e s, Work.makeWorld c recipe name components systems b =
      .error e { b with site := s } ∧ s.ledger = b.site.ledger := by
    intro name components systems
    obtain ⟨e, hDeploy⟩ := hNone name
    exact ⟨e, _, bind_of_error hDeploy, rfl⟩
  cases o with
  | spawn name components systems budget => exact hMake name components systems
  | request given budget =>
    by_cases hRequest : ∃ name components systems, given = .request name components systems
    · obtain ⟨name, components, systems, rfl⟩ := hRequest
      exact hMake name components systems
    · rw [work_of_not_request hRequest, misrequest]
      cases given.name? with
      | none => exact ⟨_, b.site, rfl, rfl⟩
      | some name =>
        obtain ⟨e, hDeploy⟩ := hNone name
        exact ⟨e, _, bind_of_error hDeploy, rfl⟩
  | deploy name =>
    obtain ⟨e, hDeploy⟩ := hNone name
    exact ⟨e, _, hDeploy, rfl⟩
  | registerAll world components systems budget => exact absurd rfl (hMakes ())

end Operation

/-- **What an operation leaves of itself** that is to make a world: its arrival, of which a log is
told if it is given. Besides, only the budget is changed that has paid, and what is reported. -/
structure Realm.Visited (p : Premises) (budget : Value) (a : Arrival) (r r' : Realm κ) : Prop where
  quiet : r'.Quiet p
  place : a.At (r.ledger p.ledger).ledger.allocator.fresh
  ledger : (r'.ledger p.ledger).ledger = (r.ledger p.ledger).ledger.join a
  catalogs : r'.catalogs = r.catalogs
  factories : r'.factories = r.factories
  log : ∀ k, p.log? = some k →
    (r'.sink k).events = (r.sink k).events ++ a.given.map .worldCreated
  budgets : ∀ k, .object .budget k ≠ budget → r'.budget k = r.budget k
  /-- Nothing arrives but with a live executor, so the recipe is older than what has arrived. -/
  recipe : renumber (a.shift (r.ledger p.ledger).ledger.allocator.next.toInt).number
    (r.factory p.factory) = r.factory p.factory

namespace Operation

variable {o : Operation} {recipe : Recipe} {a : Arrival} {budget : Value} {n : Nat} {s : Site}
  {c : Catalog} {e : Error}

/-- **What work leaves is a visit**, if the ledger is joined by an arrival, the log is told of it
and the recipe has nothing to do with the handle. -/
theorem visited_of_worked (hWorked : r.Worked p.ledger budget n s r₁)
    (hRest : ∃ sinks entries, r' = ({ r₁ with sinks } : Realm κ).appendTrace entries)
    (hQuiet : r'.Quiet p) (hAt : a.At (r.ledger p.ledger).ledger.allocator.fresh)
    (hLedger : s.ledger = (r.ledger p.ledger).ledger.join a)
    (hLog : ∀ k, p.log? = some k →
      (r'.sink k).events = (r.sink k).events ++ a.given.map .worldCreated)
    (hRecipe : renumber (a.shift (r.ledger p.ledger).ledger.allocator.next.toInt).number
      (r.factory p.factory) = r.factory p.factory) : r.Visited p budget a r' := by
  obtain ⟨sinks, entries, rfl⟩ := hRest
  -- of the ledger it is given; catalogs, factories and other budgets are not worked on
  refine ⟨hQuiet, hAt, ?_, ?_, ?_, hLog, ?_, hRecipe⟩
  · show (r₁.ledger p.ledger).ledger = _
    rw [hWorked.ledger]
    exact hLedger
  · obtain ⟨ledgers, budgets, more, rfl⟩ := hWorked.rest
    rfl
  · obtain ⟨ledgers, budgets, more, rfl⟩ := hWorked.rest
    rfl
  · intro k hk
    exact hWorked.budgets k (Ne.symm hk)

/-- A live executor is older than anything that arrives. -/
theorem renumber_factory (hs : Ledger.Sound c (r.ledger p.ledger).ledger handed)
    (hRecipe : (r.factory p.factory).configuration = .holding recipe)
    (hAlive : (r.ledger p.ledger).ledger.allocator.isAlive recipe.executor.key = true)
    (a : Arrival) :
    renumber (a.shift (r.ledger p.ledger).ledger.allocator.next.toInt).number
      (r.factory p.factory) = r.factory p.factory := by
  refine Factory.renumber_eq_self fun other hOther => ?_
  rw [hRecipe] at hOther
  cases hOther
  exact Arrival.number_of_lt (hs.number_lt (Allocator.isAlive_iff.1 hAlive))

theorem at_nothing (h : InstanceHandle) : Arrival.nothing.At h := by
  intro w hw
  cases hw

/-- Where nothing was done, nothing is left. -/
theorem visited_self (h : r.Quiet p) (budget : Value) : r.Visited p budget .nothing r := by
  refine visited_of_worked (Realm.worked_self r p.ledger budget)
    ⟨r.sinks, [], by simp [Realm.appendTrace]⟩ h (at_nothing _) rfl ?_
    (Factory.renumber_eq_self fun _ _ => rfl)
  intro k _
  simp [Arrival.given]

/-- **What work leaves on the ledger that has failed and was undone in full**: at most a world that
was made in vain. -/
theorem exists_arrival_of_undone {new? : Option World} {os : List (Except Error Unit)}
    {pays : Purse} {b : Workbench}
    (hs : Ledger.Sound (r.catalogFor p.ledger) (r.ledger p.ledger).ledger handed)
    (hMakes : ∀ a : o.Result, o.made a ≠ [])
    (hRecipe : (r.factory p.factory).configuration = .holding recipe)
    (hWork : ends (o.work recipe (r.catalogFor p.ledger)) ⟨r.site p.ledger, pays, []⟩ =
      (.error e, b))
    (hUnwound : Unwound Site.report Undo.text Undo.run (.opened b.site.ledger b.site.faults)
      b.journal os s)
    (hLeft : Undo.Standing (r.catalogFor p.ledger) (r.ledger p.ledger).ledger new? [] s.ledger) :
    ∃ a : Arrival, a.given = [] ∧ a.At (r.ledger p.ledger).ledger.allocator.fresh ∧
      s.ledger = (r.ledger p.ledger).ledger.join a ∧
      renumber (a.shift (r.ledger p.ledger).ledger.allocator.next.toInt).number
        (r.factory p.factory) = r.factory p.factory := by
  cases hAlive : (r.ledger p.ledger).ledger.allocator.isAlive recipe.executor.key with
  -- then nothing was done that could be undone
  | false =>
    obtain ⟨e₁, t, hNone, hSame⟩ := work_of_dead (b := ⟨r.site p.ledger, pays, []⟩) hMakes hAlive
      (r.catalogFor p.ledger)
    rw [ends_of_error hNone] at hWork
    cases hWork
    cases hUnwound
    exact ⟨.nothing, rfl, at_nothing _, hSame, Factory.renumber_eq_self fun _ _ => rfl⟩
  | true =>
    cases new? with
    | none =>
      exact ⟨.nothing, rfl, at_nothing _, hLeft.eq_of_none, renumber_factory hs hRecipe hAlive _⟩
    | some w =>
      obtain ⟨hHandle, hLedger⟩ := hLeft.eq_of_some
      refine ⟨.vain w, rfl, ?_, hLedger, renumber_factory hs hRecipe hAlive _⟩
      intro v hv
      cases hv
      exact hHandle

section Outcomes

variable (hQuiet : r.Quiet p)
  (hReached : Ledger.Reached (r.catalogFor p.ledger) (r.ledger p.ledger).ledger handed)
  (hBudget : o.budget = .null ∨ ∃ k, o.budget = .object .budget k)
  (hMakes : ∀ a : o.Result, o.made a ≠ [])
include hQuiet hReached hBudget hMakes

/-- **An operation that fails** leaves at most a world that was made in vain. -/
theorem arrival_of_error (h : o.act run p.factory r = .error e r') :
    ∃ a : Arrival, a.given = [] ∧ r.Visited p o.budget a r' := by
  have hs := hReached.sound
  have hQuiet' := quiet_act hQuiet hReached run o
  rw [ends_of_error h] at hQuiet'
  obtain ⟨recipe?, hRecipe⟩ :
      ∃ recipe?, (r.factory p.factory).configuration = ⟨recipe?⟩ := ⟨_, rfl⟩
  cases recipe? with
  | none =>
    rw [act_of_blank hRecipe] at h
    cases h
    exact ⟨.nothing, rfl, visited_self hQuiet _⟩
  | some recipe =>
  rcases undone_of_fails hQuiet.works.1 hRecipe hs hBudget (discreet_of_quiet hQuiet run) h with
    ⟨e₀, -, -, rfl⟩ | ⟨b, trigger, r₂, new?, os, s, hFailing, hSpare, -, rfl, hUnwound, hLeft, -,
      rfl, -⟩
  · exact ⟨.nothing, rfl, visited_self hQuiet _⟩
  obtain @⟨pays, res, n, r₁, -, hWork, -, -, hWorked, hTriggered⟩ := hFailing
  cases hTriggered with
  -- nobody refuses to be told
  | delivery hTold =>
    obtain ⟨sinks, hOk, -⟩ := deliver_of_quiet hQuiet hWorked.sinks run o _
    rw [hTold] at hOk
    cases hOk
  | work =>
    have hSpared : ∀ call, Fault.Spare b.site.faults call := by
      intro call
      refine hSpare fun f hMem => ?_
      rw [hQuiet.faults] at hMem
      cases hMem
    -- no entry of the journal is struck, so all of it is undone
    rw [leftover_eq_nil (Fault.meetAll_of_spared fun call _ => hSpared call),
      List.reverse_nil] at hLeft
    obtain ⟨a, hGiven, hAt, hLedger, hOlder⟩ :=
      exists_arrival_of_undone hs hMakes hRecipe hWork hUnwound hLeft
    have hDone := (hWorked.appendTrace [.log (.rollingBack b.journal.length trigger)]).closed s
    refine ⟨a, hGiven, visited_of_worked hDone ⟨_, [], by simp [Realm.appendTrace]; rfl⟩ hQuiet'
      hAt hLedger ?_ hOlder⟩
    intro k _
    rw [Realm.sink, hDone.sinks, hGiven]
    simp [Realm.sink]

/-- **An operation that succeeds** leaves the world that it gives. -/
theorem arrival_of_ok {x : o.Result} (h : o.act run p.factory r = .ok x r') :
    ∃ a : Arrival, a.given = o.made x ∧ r.Visited p o.budget a r' := by
  have hs := hReached.sound
  have hQuiet' := quiet_act hQuiet hReached run o
  have hCourse := course (o := o) hQuiet.works.1 hBudget run
  rw [ends_of_ok h] at hQuiet' hCourse
  generalize hOut : (Except.ok x : Except Error o.Result) = out at hCourse
  cases hCourse with
  | idle => cases hOut
  | undone => cases hOut
  | refused => cases hOut
  | @told recipe y b r₁ r₂ entries hDone hTold =>
    cases hOut
    obtain ⟨n, hWorked⟩ := hDone.worked hBudget
    obtain ⟨sinks, hOk, hEvents⟩ := deliver_of_quiet hQuiet hWorked.sinks run o x
    rw [hTold] at hOk
    cases hOk
    obtain ⟨hRecipe, hPurse, hWork⟩ := hDone
    -- what was made is a world with all its parts, which stands at the next handle
    obtain ⟨y, hMem⟩ := List.exists_mem_of_ne_nil _ (hMakes x)
    obtain ⟨order, m, b₁, -, hDeployed, hEnrolled⟩ := enrolled_of_work hWork hMem
    obtain ⟨text, w, -, hExtends, hLedger⟩ := hEnrolled.made hDeployed
    have hFresh : y = (r.ledger p.ledger).ledger.allocator.fresh :=
      (Work.deployWorld_spec hDeployed).1
    have hHandle : w.handle = y := hExtends.head.handle
    have hGiven : (Arrival.made recipe.template w).given = o.made x := by
      rw [made_eq hMem, Arrival.given, hHandle]
    refine ⟨.made recipe.template w, hGiven, ?_⟩
    refine visited_of_worked hWorked ⟨sinks, entries, rfl⟩ hQuiet' ?_ hLedger ?_ ?_
    · intro v hv
      cases hv
      rw [hHandle, hFresh]
    · intro k hLog
      rw [hGiven]
      exact congrArg Sink.events (hEvents k hLog)
    · exact renumber_factory hs hRecipe (executor_alive_of_deployWorld hDeployed) _

/-- **What an operation leaves of itself** that is to make a world. -/
theorem exists_arrival (run : κ → Act κ Unit) :
    ∃ a : Arrival, Factory.givenBy o (ends (o.act run p.factory) r).1 = a.given ∧
      r.Visited p o.budget a (ends (o.act run p.factory) r).2 := by
  cases h : o.act run p.factory r with
  | ok x r' =>
    obtain ⟨a, hGiven, hVisited⟩ := arrival_of_ok hQuiet hReached hBudget hMakes h
    rw [ends_of_ok h]
    exact ⟨a, hGiven.symm, hVisited⟩
  | error e r' =>
    obtain ⟨a, hGiven, hVisited⟩ := arrival_of_error hQuiet hReached hBudget hMakes h
    rw [ends_of_error h]
    exact ⟨a, hGiven.symm, hVisited⟩

end Outcomes

end Operation

/-- The log is not told of what was not given. -/
theorem Realm.Visited.eventsAt_of_not_given {a : Arrival} {budget : Value} {k : Nat}
    (h : r.Visited p budget a r') (hLog : p.log? = some k) (hNone : a.given = []) :
    r'.eventsAt p = r.eventsAt p := by
  rw [eventsAt_eq hLog, eventsAt_eq hLog, h.log k hLog, hNone, List.map_nil, List.append_nil]

/-- **What an operation leaves of itself is a lodger**: all else lies beside what was there before.
-/
theorem Realm.Visited.beside {a : Arrival} {budget : Value} (h : r.Visited p budget a r')
    (hQuiet : r.Quiet p)
    (hReached : Ledger.Reached (r.catalogFor p.ledger) (r.ledger p.ledger).ledger handed) :
    r'.Beside (a.shift (r.ledger p.ledger).ledger.allocator.next.toInt) a.lodgers
      ⟨p, budget, r'.eventsAt p, r.eventsAt p⟩ r where
  site := by
    refine ⟨?_, h.quiet.faults, hQuiet.faults⟩
    show (r'.ledger p.ledger).ledger.Beside _ _ _
    rw [h.ledger]
    exact Ledger.beside_join hReached h.place
  catalog := ⟨h.quiet.catalog, hQuiet.catalog⟩
  catalogs := h.catalogs
  factory := by
    rw [Realm.factory, h.factories]
    exact h.recipe.symm
  works := hQuiet.works
  log := by
    intro k hLog
    -- nothing more has been told
    refine ⟨[], ?_, ?_⟩
    · show r'.sink k = ⟨r'.eventsAt p ++ [], []⟩
      rw [List.append_nil, eventsAt_eq hLog, ← h.quiet.script k hLog]
    · show r.sink k = ⟨r.eventsAt p ++ [], []⟩
      rw [List.append_nil, eventsAt_eq hLog, ← hQuiet.script k hLog]
  budgets := h.budgets

end WorldForge

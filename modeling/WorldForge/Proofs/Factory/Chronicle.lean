import WorldForge.Proofs.Factory.Course
import WorldForge.Proofs.Ledger.Permanence

/-!
# What an event log tells

An event log that only one factory writes to tells the history of this factory: it lists the worlds
that were given, in the order in which they were given. Nothing else is listed. An operation that
fails may have used up a handle, but its world was never told of; and a handle that has been used
up is not used again, so that the numbers in the log go up, with gaps where operations have failed
or others have deployed.

Main results:

* `entered_of_course` — what one operation enters in the log;
* `Chronicle.kept` — what every history keeps, by induction on the history;
* `log_tells_given` — the log tells what was given, for all histories.
-/

namespace WorldForge

variable {κ : Type}

namespace Factory

variable {run : κ → Act κ Unit} {i j k : Nat} {r r₁ r₂ r' : Realm κ} {o : Operation}
  {given : List InstanceHandle}

/-! ## One operation -/

/-- The handles that an operation gives, if it succeeds. -/
def givenBy (o : Operation) : Except Error o.Result → List InstanceHandle
  | .ok a => o.made a
  | .error _ => []

/-- **What an operation enters in a log.** The log is told of the given handles, of which there is
at most one; it is the next one of the ledger, which goes on counting behind it. The factory stays
where it is. -/
structure Entered (j k : Nat) (r : Realm κ) (given : List InstanceHandle) (r' : Realm κ) :
    Prop where
  factories : r'.factories = r.factories
  log : r'.sink k = { r.sink k with events := (r.sink k).events ++ given.map .worldCreated }
  leads : (r.scene j).LeadsTo (r'.scene j)
  ascending : given.Pairwise fun x y => x.number < y.number
  fresh : ∀ x ∈ given, (r.ledger j).ledger.allocator.next.toInt ≤ x.number ∧
    x.number < (r'.ledger j).ledger.allocator.next.toInt

/-- An operation that fails enters nothing. -/
theorem entered_nothing (hSinks : r'.sinks = r.sinks)
    (hFactories : r'.factories = r.factories) (hLeads : (r.scene j).LeadsTo (r'.scene j)) :
    Entered j k r [] r' where
  factories := hFactories
  log := by
    rw [Realm.sink, Realm.sink, hSinks]
    simp
  leads := hLeads
  ascending := .nil
  fresh x hMem := by cases hMem

/-- A log takes whatever it is told of a success. -/
theorem deliver_log {sink : Value} (hSink : sink = .object .eventLog k)
    (hScript : (r₁.sink k).script = []) (run : κ → Act κ Unit) (o : Operation) (a : o.Result) :
    ∃ sinks, Sink.deliver run sink (o.events a) r₁ = .ok () { r₁ with sinks } ∧
      ({ r₁ with sinks } : Realm κ).sink k =
        { r₁.sink k with events := (r₁.sink k).events ++ (o.made a).map .worldCreated } := by
  rw [Operation.events_eq]
  cases hMade : o.made a with
  | nil => exact ⟨r₁.sinks, Sink.deliver_nil .., by simp [Realm.sink]⟩
  | cons x rest =>
    -- no operation makes more than one world
    have hOne : o.made a = [x] := Operation.made_eq (by simp [hMade])
    obtain rfl : rest = [] := by
      rw [hMade] at hOne
      exact (List.cons.inj hOne).2
    obtain ⟨sinks, hTold⟩ := r₁.told_eq (.worldCreated x) sink
    refine ⟨sinks, ?_, ?_⟩
    · rw [← hTold]
      exact Sink.deliver_quiet (.inr ⟨k, hSink, hScript⟩) _
    · rw [← hTold, hSink]
      exact r₁.sink_told _ k

/-- **One operation enters in the log what it gives.** The log takes whatever it is told, so the
sink never makes an operation fail. -/
theorem entered_of_course {out : Except Error o.Result}
    (hBudget : o.budget = .null ∨ ∃ m, o.budget = .object .budget m)
    (hSink : (r.factory i).sink = .object .eventLog k) (hScript : (r.sink k).script = [])
    (h : o.Course run i j r out r') : Entered j k r (givenBy o out) r' := by
  -- the work does not touch the sinks, so the log is told as it was
  have hQuiet : ∀ {recipe a b r₁}, o.Done i j recipe r a b r₁ → ∃ sinks,
      Sink.deliver run (r.factory i).sink (o.events a) r₁ = .ok () { r₁ with sinks } ∧
      ({ r₁ with sinks } : Realm κ).sink k =
        { r.sink k with events := (r.sink k).events ++ (o.made a).map .worldCreated } := by
    intro recipe a b r₁ hDone
    obtain ⟨n, hWorked⟩ := hDone.worked hBudget
    have hSame : r₁.sink k = r.sink k := by
      obtain ⟨ledgers, budgets, entries, rfl⟩ := hWorked.rest
      rfl
    rw [← hSame] at hScript ⊢
    exact deliver_log hSink hScript run o a
  cases h with
  | idle => exact entered_nothing rfl rfl (.refl _)
  -- the work and its undoing use up a handle, perhaps, but the log is not told
  | @undone recipe p e b n r₁ os s hWork hWorked hUnwound =>
    have hWorkLeads := Operation.leads_of_work (ends_of_error hWork)
    rw [← hWorked.scene_eq] at hWorkLeads
    have hLeads := hWorkLeads.trans (Realm.leads_of_unwound hUnwound)
    obtain ⟨ledgers, budgets, entries, rfl⟩ := hWorked.rest
    exact entered_nothing rfl rfl hLeads
  -- what is told is the handle that was the next one, and it is below the next one now
  | @told recipe a b r₁ r₂ entries hDone hTold =>
    obtain ⟨sinks, hOk, hLog⟩ := hQuiet hDone
    rw [hTold] at hOk
    cases hOk
    obtain ⟨n, hWorked⟩ := hDone.worked hBudget
    have hScene : (({ r₁ with sinks } : Realm κ).appendTrace entries).scene j =
        ⟨r.catalogFor j, b.site.ledger⟩ := hWorked.scene_eq
    obtain ⟨p, hWork⟩ := hDone.work
    refine ⟨?_, hLog, ?_, ?_, fun x hMem => ?_⟩
    · obtain ⟨ledgers, budgets, more, hRest⟩ := hWorked.rest
      show r₁.factories = r.factories
      rw [hRest]
    · rw [hScene]
      exact Operation.leads_of_work (ends_of_ok hWork)
    · exact o.pairwise_made a _
    · obtain ⟨rfl, hNext⟩ := Operation.made_of_work hWork hMem
      have hEnd : ((({ r₁ with sinks } : Realm κ).appendTrace entries).ledger j).ledger =
          b.site.ledger := congrArg Scene.ledger hScene
      rw [hEnd, hNext]
      exact ⟨Int.le_refl _, Int.lt_succ _⟩
  -- a log refuses nothing, so it never comes to this
  | @refused recipe a b e r₁ r₂ os s hDone hTold hUnwound =>
    obtain ⟨sinks, hOk, -⟩ := hQuiet hDone
    rw [hTold] at hOk
    cases hOk

/-! ## Between operations -/

/-- **What may happen between the operations of a factory.** It keeps its ledger and its sink,
nobody writes to the log, and the ledger is only taken further. -/
structure Aside (i j k : Nat) (r r' : Realm κ) : Prop where
  ledger : (r'.factory i).ledger = (r.factory i).ledger
  sink : (r'.factory i).sink = (r.factory i).sink
  log : r'.sink k = r.sink k
  leads : (r.scene j).LeadsTo (r'.scene j)

/-- A new recipe is no new ledger and no new sink. -/
theorem aside_reconfigure (i j k : Nat)
    (change : Configuration → Except ConfigurationError Recipe) (record : Recipe → LogRecord)
    (r : Realm κ) :
    Aside i j k r (ends (reconfigure i change >>= fun x => Act.report (record x)) r).2 := by
  rw [ends_bind, reconfigure, ends_bind, ends_of_ok (get_eq r)]
  dsimp only
  cases change (r.factory i).configuration with
  | error e => exact ⟨rfl, rfl, rfl, .refl _⟩
  | ok recipe =>
    let f : Factory := { r.factory i with configuration := .holding recipe }
    have hFactory : (r.putFactory i f).factory i = f := by
      rw [Realm.factory_putFactory, if_pos rfl]
    refine ⟨?_, ?_, rfl, .refl _⟩
    · show ((r.putFactory i f).factory i).ledger = _
      rw [hFactory]
    · show ((r.putFactory i f).factory i).sink = _
      rw [hFactory]

/-- To set a factory up, or to replace a part of its recipe, leaves its ledger, its sink and the log
alone. -/
theorem aside_administration (a : Administration) (i j k : Nat) (r : Realm κ) :
    Aside i j k r (ends (a.act i) r).2 := by
  cases a with
  | setUp template executor => exact aside_reconfigure i j k _ .configured r
  | setExecutor executor => exact aside_reconfigure i j k _ (fun x => .executorSet x.executor) r
  | setTemplate template => exact aside_reconfigure i j k _ (fun x => .templateSet x.template) r

/-- What is done on the ledger alone is no matter of the factory. -/
theorem aside_onSite {α : Type} {x : Catalog → SiteM α}
    (hx : ∀ c l, Keeps (Site.Follows c l) (x c)) (i k : Nat) (r : Realm κ) :
    Aside i j k r (ends (Act.onSite j x) r).2 := by
  have hStart : (r.site j).Follows (r.catalogFor j) (r.ledger j).ledger := Site.follows_opened ..
  have hFollows := (hx (r.catalogFor j) (r.ledger j).ledger).holds hStart
  have hClosed : ∀ s : Site, s.Follows (r.catalogFor j) (r.ledger j).ledger →
      Aside i j k r (r.closed j s) := by
    intro s hs
    refine ⟨rfl, rfl, rfl, ?_⟩
    rw [Realm.scene_closed]
    exact hs.leads
  -- whether it fails or not, what is written back is the ledger that it has left
  cases hRun : x (r.catalogFor j) (r.site j) with
  | ok a s =>
    rw [ends_of_ok hRun] at hFollows
    rw [ends_of_ok (onSite_of_ok hRun)]
    exact hClosed s hFollows
  | error e s =>
    rw [ends_of_error hRun] at hFollows
    rw [ends_of_error (onSite_of_error hRun)]
    exact hClosed s hFollows

/-! ## Histories -/

/-- **The histories of a factory and its log**, with the handles that were given so far. Operations
come out as they may; between them, the factory is administered, instances are destroyed, and
whatever else leaves factory and log alone may happen. -/
inductive Chronicle (run : κ → Act κ Unit) (i j k : Nat) (r : Realm κ) :
    List InstanceHandle → Realm κ → Prop
  | start : Chronicle run i j k r [] r
  | called {given : List InstanceHandle} {r₁ : Realm κ} (h : Chronicle run i j k r given r₁)
      (o : Operation) (hBudget : o.budget = .null ∨ ∃ m, o.budget = .object .budget m) :
      Chronicle run i j k r (given ++ givenBy o (ends (o.act run i) r₁).1)
        (ends (o.act run i) r₁).2
  | administered {given : List InstanceHandle} {r₁ : Realm κ}
      (h : Chronicle run i j k r given r₁) (a : Administration) :
      Chronicle run i j k r given (ends (a.act i) r₁).2
  | destroyed {given : List InstanceHandle} {r₁ : Realm κ} (h : Chronicle run i j k r given r₁)
      (x : Value) :
      Chronicle run i j k r given (ends (Act.onSite j fun _ => Site.destroy x) r₁).2
  | meanwhile {given : List InstanceHandle} {r₁ r₂ : Realm κ}
      (h : Chronicle run i j k r given r₁) (hAside : Aside i j k r₁ r₂) :
      Chronicle run i j k r given r₂

/-- **What every history keeps.** The factory is where it was, the log lists what was given, in
ascending order, and the ledger counts on behind it. -/
structure Kept (i j k : Nat) (r : Realm κ) (given : List InstanceHandle) (r' : Realm κ) :
    Prop where
  ledger : (r'.factory i).ledger = (r.factory i).ledger
  sink : (r'.factory i).sink = (r.factory i).sink
  log : r'.sink k = { r.sink k with events := (r.sink k).events ++ given.map .worldCreated }
  ascending : given.Pairwise fun x y => x.number < y.number
  below : ∀ x ∈ given, x.number < (r'.ledger j).ledger.allocator.next.toInt

/-- A log that is in step with what has been given stays so, if what comes next leaves the log alone
and only takes the ledger further. -/
theorem Kept.aside (h : Kept i j k r given r₁) (hAside : Aside i j k r₁ r₂) :
    Kept i j k r given r₂ where
  ledger := hAside.ledger.trans h.ledger
  sink := hAside.sink.trans h.sink
  log := hAside.log.trans h.log
  ascending := h.ascending
  below x hMem := Int.lt_of_lt_of_le (h.below x hMem) hAside.leads.next_le

/-- What an operation gives comes after all that was given before. -/
theorem Kept.entered {more : List InstanceHandle} (h : Kept i j k r given r₁)
    (hEntered : Entered j k r₁ more r₂) : Kept i j k r (given ++ more) r₂ where
  ledger := by
    rw [Realm.factory, hEntered.factories]
    exact h.ledger
  sink := by
    rw [Realm.factory, hEntered.factories]
    exact h.sink
  log := by
    rw [hEntered.log, h.log]
    simp
  ascending := by
    rw [List.pairwise_append]
    refine ⟨h.ascending, hEntered.ascending, fun x hx y hy => ?_⟩
    -- all that was given is below the ledger's next handle, and the new one is not
    exact Int.lt_of_lt_of_le (h.below x hx) (hEntered.fresh y hy).1
  below x hMem := by
    rcases List.mem_append.1 hMem with hOld | hNew
    · exact Int.lt_of_lt_of_le (h.below x hOld) hEntered.leads.next_le
    · exact (hEntered.fresh x hNew).2

/-- The invariant of all histories, by induction on the history. -/
theorem Chronicle.kept (hLedger : (r.factory i).ledger = .object .ledger j)
    (hSink : (r.factory i).sink = .object .eventLog k) (hScript : (r.sink k).script = [])
    (h : Chronicle run i j k r given r') : Kept i j k r given r' := by
  -- the induction is along the chronicle; its calls are those of which each gives its own handles
  induction h with
  | start => exact ⟨rfl, rfl, by simp, .nil, fun x hMem => by cases hMem⟩
  | called _ o hBudget ih =>
    have hCourse := Operation.course (ih.ledger.trans hLedger) hBudget run
    refine ih.entered (entered_of_course hBudget (ih.sink.trans hSink) ?_ hCourse)
    rw [ih.log]
    exact hScript
  | administered _ a ih => exact ih.aside (aside_administration a i j k _)
  | destroyed _ x ih => exact ih.aside (aside_onSite (fun _ _ => Site.keeps_destroy x) i k _)
  | meanwhile _ hAside ih => exact ih.aside hAside

/-- **A new event log tells the history of its factory**, whichever faults are planned for the
ledger. After each call it lists the worlds that were given so far, in the order of the calls; their
numbers go up, so none is listed twice; and neither a call that fails nor a registration in a world
that is there enters anything. -/
theorem log_tells_given (hLedger : (r.factory i).ledger = .object .ledger j)
    (hSink : (r.factory i).sink = .object .eventLog k) (hNew : r.sink k = ⟨[], []⟩)
    (h : Chronicle run i j k r given r') :
    (r'.sink k).events = given.map .worldCreated ∧
    (given.Pairwise fun x y => x.number < y.number) ∧
    (r'.sink k).events.Nodup ∧
    ∀ o : Operation, (o.budget = .null ∨ ∃ m, o.budget = .object .budget m) →
      (∀ e r₂, o.act run i r' = .error e r₂ → (r₂.sink k).events = (r'.sink k).events) ∧
      (∀ a r₂, o.act run i r' = .ok a r₂ →
        (r₂.sink k).events = (r'.sink k).events ++ (o.made a).map .worldCreated) := by
  have hScript : (r.sink k).script = [] := by rw [hNew]
  have hKept := h.kept hLedger hSink hScript
  have hLog : (r'.sink k).events = given.map .worldCreated := by
    rw [hKept.log, hNew]
    rfl
  refine ⟨hLog, hKept.ascending, ?_, fun o hBudget => ?_⟩
  -- the numbers ascend, so that no world is told of twice
  · rw [hLog]
    refine hKept.ascending.map _ fun x y hBelow hSame => ?_
    obtain rfl := Value.worldCreated.inj hSame
    exact Int.lt_irrefl _ hBelow
  -- an operation that follows the chronicle adds what it gives, and nothing if it fails
  · have hCourse := Operation.course (hKept.ledger.trans hLedger) hBudget run
    have hQuiet : (r'.sink k).script = [] := by rw [hKept.log, hNew]
    have hEntered := entered_of_course hBudget (hKept.sink.trans hSink) hQuiet hCourse
    refine ⟨fun e r₂ hFails => ?_, fun a r₂ hGives => ?_⟩
    · rw [ends_of_error hFails] at hEntered
      rw [hEntered.log]
      simp [givenBy]
    · rw [ends_of_ok hGives] at hEntered
      rw [hEntered.log]
      rfl

/-- After a spawn has taken all the steps that there are, the next one fails, and its handle is used
up. The first world is destroyed, and another one is deployed. The log tells of the two. -/
theorem log_tells_given_arena :
    ∃ given r', Chronicle Empty.elim 4 1 2 Arena.logged given r' ∧
      given.map InstanceHandle.number = [0x1001, 0x1003] ∧
      (r'.sink 2).events = given.map .worldCreated := by
  have hBudget : Arena.spawn.budget = .null ∨ ∃ m, Arena.spawn.budget = .object .budget m :=
    .inr ⟨3, rfl⟩
  have hStart : Chronicle Empty.elim 4 1 2 Arena.logged [] Arena.logged := .start
  have hEnd := (((hStart.called Arena.spawn hBudget).called Arena.spawn hBudget).destroyed
    (.handle (.ofInt 0x1001))).called (.deploy (.str "cave")) (.inl rfl)
  exact ⟨_, _, hEnd, by decide +kernel, (log_tells_given rfl rfl rfl hEnd).1⟩

end Factory

end WorldForge

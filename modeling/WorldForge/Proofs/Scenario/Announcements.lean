import WorldForge.Proofs.Factory.Announcement
import WorldForge.Proofs.Scenario.Ledgers

/-!
# Announcements in a session

Whenever a factory tells its sink of a world, in whichever state of a session, the world is
complete. The sink may be told inside the reaction to another announcement, and that one inside yet
another one. Each announcement is about a world of its own: the handles go up in the order in which
the announcements are made, and this order goes through nested reactions and back. And each
operation gives its world exactly if its own announcement is taken.

Main result:

* `worlds_complete_when_announced` — what holds of all announcements in all states of a session.
-/

namespace WorldForge.Scenario

open Realm (Announced)

variable {r r₀ r₁ r' : Realm Code} {i j c : Nat} {o : Operation} {told : List InstanceHandle}
  {recipe : Recipe} {a : o.Result} {b : Workbench} {x : InstanceHandle}

/-! ## Announcements -/

/-- **What holds of an announcement** of the world `x` in the realm `r₁`, by an operation that was
called in the realm `r`, after the worlds `told` have been announced. -/
structure Announcement (run : Code → Act Code Unit) (i j c : Nat) (told : List InstanceHandle)
    (r : Realm Code) (o : Operation) (recipe : Recipe) (a : o.Result) (x : InstanceHandle)
    (r₁ : Realm Code) : Prop where
  inForce : (r.factory i).configuration = .holding recipe
  complete : ∃ order, o.order? = some order ∧
    (r₁.ledger j).ledger.Complete (r₁.catalog c) recipe order x
  /-- Nothing else is announced by the operation. -/
  alone : o.made a = [x]
  /-- The world has not been announced before. -/
  new : ∀ y ∈ told, y.number < x.number
  taken : (r.factory i).sink ≠ .null →
    ((∃ r', o.act run i r = .ok a r') ↔
      ∃ r₂, Sink.tell run (r.factory i).sink (.worldCreated x) r₁ = .ok () r₂)

/-- **Worlds are complete when they are announced**, in all states of a session, and each is
announced once.

An operation is called after the worlds `told` have been announced. They remain the ones that have
been announced, whatever comes after in the session, until the work of an operation is done. Then
its world is the next one, for the code that the sink runs, and for all that comes after the
operation. An operation whose work is not done fails and announces nothing; and it is at the
announcement, and at no other point, that an operation starts the code of a sink. -/
theorem worlds_complete_when_announced (hLater : Later .empty r₀)
    (hOwn : (r₀.ledger j).catalog = .object .catalog c) (hOlder : c < j)
    (hRun : Announced j r₀ told r) (hLedger : (r.factory i).ledger = .object .ledger j)
    (hBudget : o.budget = .null ∨ ∃ k, o.budget = .object .budget k)
    (run : Code → Act Code Unit) :
    (told.Pairwise fun x y => x.number < y.number) ∧
    (∀ r', After r r' → Announced j r₀ told r') ∧
    (∀ recipe a b r₁, o.Done i j recipe r a b r₁ →
      (∀ x ∈ o.made a, Announcement run i j c told r o recipe a x r₁) ∧
      ∀ depth, Announced j r₀ (told ++ o.made a) (ends (o.act (runCode depth) i) r).2) ∧
    ((∀ recipe a b r₁, ¬o.Done i j recipe r a b r₁) →
      ∃ e r', r'.sinks = r.sinks ∧ ∀ run, o.act run i r = .error e r') ∧
    ∀ code r', Starts (fun run => o.act run i) run r code r' →
      ∃ recipe a b r₁ x k, o.Done i j recipe r a b r₁ ∧ o.made a = [x] ∧
        ((r.factory i).sink = .object .eventLog k ∨ (r.factory i).sink = .object .scriptSink k) ∧
        r' = r₁.putSink k
          { r₁.sink k with events := (r₁.sink k).events ++ [.worldCreated x] } ∧
        Announced j r₀ (told ++ [x]) r' := by
  have hLawful := lawful_of_later hLater
  obtain ⟨⟨hLaw, hOn⟩, hAscending, hBelow⟩ := hRun.ascending hLawful hOwn hOlder
  refine ⟨hAscending, fun r' hAfter => hRun.evolves hAfter.evolves,
    fun recipe a b r₁ hDone => ⟨fun x hMem => ?_, fun depth => ?_⟩, fun hNone => ?_,
    fun code r' hStarts => ?_⟩
  -- the ledger is sound when the operation is called, so what the work makes is complete
  · have hMade : o.made a = [x] := Operation.made_eq hMem
    obtain ⟨handed, hReached⟩ := hLaw.reached hOn.catalog hOlder
    obtain ⟨order, hOrder, hComplete⟩ := Operation.complete_of_done hReached.sound hDone hMem
    have hThere := (Realm.stable_goesOn r₀ hOlder).holds hDone.evolves ⟨hLaw, hOn⟩
    have hCatalog : r₁.catalogFor j = r₁.catalog c :=
      congrArg Scene.catalog (Realm.scene_of_catalog hThere.2.catalog)
    rw [hCatalog] at hComplete
    refine ⟨?_, ⟨order, hOrder, hComplete⟩, hMade, fun y hTold => ?_, fun hSink => ?_⟩
    · obtain ⟨hRecipe, -, -⟩ := hDone
      exact hRecipe
    -- the new world has the ledger's next handle, and all that were announced are below it
    · obtain ⟨p, hWork⟩ := hDone.work
      obtain ⟨rfl, -⟩ := Operation.made_of_work hWork hMem
      exact hBelow y hTold
    · exact Operation.gives_iff hLedger hBudget hSink hDone hMade
  · have hRest := hDone.evolves_act (B := fun _ _ => False) hLedger hBudget (onward_runCode depth)
    exact (hRun.announce hLedger hDone).evolves hRest
  · obtain ⟨e, r', hSinks, hAct⟩ := Operation.course_of_not_done hLedger hBudget hNone
    exact ⟨e, r', hSinks, fun run => (hAct run).1⟩
  · obtain ⟨recipe, a, b, r₁, x, k, hDone, hMade, hSink, rfl⟩ :=
      Operation.starts_of_act hLedger hBudget hStarts
    have hTold := hRun.announce hLedger hDone
    rw [hMade] at hTold
    refine ⟨recipe, a, b, r₁, x, k, hDone, hMade, hSink, rfl, hTold.change ?_⟩
    exact .aside rfl rfl (Nat.le_refl _)

/-! ## In the small session -/

namespace Rehearsal

/-- The realm before the first spawn. -/
def ready : Realm Code :=
  (steps.take 6).foldl (fun r s => (ends (s.run (runCode 3)) r).2) opened

/-- What the first spawn is asked for. -/
def pit : Operation := .spawn (.str "pit") [] [] .null

def inForce : Recipe := ⟨.ofInt 1, .ofInt 0x1000⟩

/-- The work of the first spawn succeeds. -/
theorem done_pit : ∃ x b r₁, pit.Done 3 1 inForce ready x b r₁ ∧ pit.made x = [x] ∧
    x.number = 0x1001 := by
  have hOk : (ends (pit.work inForce (ready.catalogFor 1))
      ⟨ready.site 1, .budget .unmetered, []⟩).1.isOk = true := by decide +kernel
  have hNext : (ready.ledger 1).ledger.allocator.next.toInt = 0x1001 := by decide +kernel
  have hRecipe : (ready.factory 3).configuration = .holding inForce := by decide +kernel
  have hPurse : pit.purse (ready.factory 3) ready = .ok (.budget .unmetered) ready := rfl
  obtain ⟨x, b, hWork⟩ := exists_ok_of_ends hOk
  have hMade : pit.made x = [x] := rfl
  obtain ⟨hFresh, -⟩ := Operation.made_of_work hWork (List.mem_singleton_self x)
  refine ⟨x, b, _, .intro hRecipe hPurse hWork, hMade, ?_⟩
  rw [hFresh]
  exact hNext

end Rehearsal

/-- The world of the first spawn is complete when the sink is told of it, although the sink does not
take it. -/
theorem worlds_complete_when_announced_rehearsal :
    ∃ x r₁ order, x.number = 0x1001 ∧ Rehearsal.pit.order? = some order ∧
      (r₁.ledger 1).ledger.Complete (r₁.catalog 0) Rehearsal.inForce order x ∧
      ¬∃ r₂, Sink.tell (runCode 3) (.object .scriptSink 2) (.worldCreated x) r₁ = .ok () r₂ := by
  have hRun : Announced 1 Rehearsal.opened [] Rehearsal.ready :=
    Announced.start.evolves (later_foldl 3 _ _).evolves
  obtain ⟨x, b, r₁, hDone, hMade, hNumber⟩ := Rehearsal.done_pit
  have hMem : x ∈ Rehearsal.pit.made x := List.mem_singleton_self x
  obtain ⟨-, -, hAnnounced, -⟩ := worlds_complete_when_announced Rehearsal.later_opened rfl
    Nat.zero_lt_one hRun (r := Rehearsal.ready) (i := 3) (o := Rehearsal.pit) rfl (.inl rfl)
    (runCode 3)
  obtain ⟨-, ⟨order, hOrder, hComplete⟩, -, -, hTaken⟩ := (hAnnounced _ x b r₁ hDone).1 x hMem
  have hFails : (ends (Rehearsal.pit.act (runCode 3) 3) Rehearsal.ready).1.isOk = false := by
    decide +kernel
  obtain ⟨e, r', hError⟩ := exists_error_of_ends hFails
  -- had the sink taken the event, the operation would have come out well
  refine ⟨x, r₁, order, hNumber, hOrder, hComplete, fun hTakes => ?_⟩
  obtain ⟨r₃, hGives⟩ := (hTaken (by intro hNull; cases hNull)).2 hTakes
  rw [hError] at hGives
  cases hGives

end WorldForge.Scenario

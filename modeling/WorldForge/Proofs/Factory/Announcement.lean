import WorldForge.Proofs.Factory.Course
import WorldForge.Proofs.Ledger.Coherence
import WorldForge.Proofs.Ledger.Permanence

/-!
# Announcements

A factory announces a world when it tells its sink that the world was created. By then the work is
done: the world is alive, and it has all that was ordered (`Ledger.Complete`). A sink that is told
may do anything, and may have other worlds made and announced in the meantime. None of them has the
same handle, since each announced handle is behind the ledger's count from then on.

Main results:

* `complete_of_done` — what is announced is complete;
* `gives_iff` — an announced world is given exactly if the sink takes the announcement;
* `starts_of_act` — an operation lets foreign code run at announcements only;
* `Done.evolves_act` — from the announcement on, the realm evolves to the end of the operation;
* `Announced.ascending` — along every run, the announced numbers go up.
-/

namespace WorldForge

variable {κ : Type}

/-! ## Complete worlds -/

/-- **A world is complete** if it is alive at its handle, was made by the recipe, and has the
ordered parts registered under their declared names, in their order, and nothing else. -/
structure Ledger.Complete (c : Catalog) (l : Ledger) (recipe : Recipe) (order : Order)
    (x : InstanceHandle) : Prop where
  alive : l.isAlive (.handle x) = true
  world : ∃ w, l.dispatcher (.handle x) = .ok w ∧ w.handle = x ∧ order.name = .str w.name ∧
    w.template = .template recipe.template ∧ w.executor = recipe.executor ∧
    w.components.entries = c.registrations order.components ∧
    w.systems.entries = c.registrations order.systems
  /-- Every part has a declared name, so none is left out. -/
  declared : (∀ t ∈ order.components, c.Declares .component t) ∧
    ∀ t ∈ order.systems, c.Declares .system t

/-- What a ledger gains is found at its handle. -/
theorem Ledger.Gained.complete {c : Catalog} {l l' : Ledger} {recipe : Recipe} {order : Order}
    {text : Text} {x : InstanceHandle} (hName : order.name = .str text)
    (hDeclared : ∀ p ∈ order.parts, c.Declares p.1 p.2)
    (h : l.Gained c recipe text order.components order.systems x l') :
    l'.Complete c recipe order x where
  alive := by
    rw [isAlive, h.allocator, Allocator.isAlive_iff, Allocator.mem_keys_allocate, h.handle]
    exact .inr rfl
  world := by
    obtain ⟨w, hEntries, hHandle, hTemplate, rfl, hExecutor, hComponents, hSystems⟩ := h.worlds
    -- the new world is the last entry of the table, and no other one stands at its handle
    have hFind : l'.worlds.find? x.key = some w := by
      rw [← Table.mem_entries_iff, hEntries]
      simp
    exact ⟨w, dispatcher_eq_ok_iff.2 hFind, hHandle, hName, hTemplate, hExecutor, hComponents,
      hSystems⟩
  declared := by
    refine ⟨fun t hMem => hDeclared (.component, t) ?_, fun t hMem => hDeclared (.system, t) ?_⟩
    · exact List.mem_append_left _ (List.mem_map_of_mem hMem)
    · exact List.mem_append_right _ (List.mem_map_of_mem hMem)

/-- Of the parts that an order lists, the components are those which it was given as components, in
the same order. -/
theorem ofKind_component_parts (x : Order) : ofKind .component x.parts = x.components := by
  rw [Order.parts, ofKind_append, ofKind_map_self, ofKind_map_of_ne (by simp), List.append_nil]

/-- Of the parts that an order lists, the systems are those which it was given as systems, in the
same order. -/
theorem ofKind_system_parts (x : Order) : ofKind .system x.parts = x.systems := by
  rw [Order.parts, ofKind_append, ofKind_map_self, ofKind_map_of_ne (by simp), List.nil_append]

namespace Operation

variable {run run' : κ → Act κ Unit} {i j k : Nat} {o : Operation} {r r₁ r₂ r' : Realm κ}
  {recipe : Recipe} {handed : List InstanceHandle} {e : Error} {a : o.Result} {b : Workbench}
  {x : InstanceHandle} {code : κ}

/-- **What is announced is complete**, in the realm in which the sink is told. -/
theorem complete_of_done (hs : Ledger.Sound (r.catalogFor j) (r.ledger j).ledger handed)
    (hDone : o.Done i j recipe r a b r₁) (hMem : x ∈ o.made a) :
    ∃ order, o.order? = some order ∧
      (r₁.ledger j).ledger.Complete (r₁.catalogFor j) recipe order x := by
  obtain ⟨p, hWork⟩ := hDone.work
  obtain ⟨order, m, b₁, hOrder, hDeployed, hEnrolled⟩ := enrolled_of_work hWork hMem
  obtain ⟨text, hName, hGained⟩ := hEnrolled.gained (b := ⟨r.site j, p, []⟩) hs hDeployed
  rw [ofKind_component_parts, ofKind_system_parts] at hGained
  -- to keep the purse changes nothing of the ledger
  have hScene := Realm.scene_of_done hDone
  have hCatalog : r₁.catalogFor j = r.catalogFor j := congrArg Scene.catalog hScene
  have hLedger : (r₁.ledger j).ledger = b.site.ledger := congrArg Scene.ledger hScene
  refine ⟨order, hOrder, ?_⟩
  rw [hCatalog, hLedger]
  exact hGained.complete hName hEnrolled.declared

/-! ## Telling -/

section Telling

variable (hLedger : (r.factory i).ledger = .object .ledger j)
  (hBudget : o.budget = .null ∨ ∃ k, o.budget = .object .budget k)
include hLedger hBudget

/-- **An announced world is given exactly if the sink takes the announcement.** -/
theorem gives_iff (hSink : (r.factory i).sink ≠ .null) (hDone : o.Done i j recipe r a b r₁)
    (hMade : o.made a = [x]) :
    (∃ r', o.act run i r = .ok a r') ↔
      ∃ r₂, Sink.tell run (r.factory i).sink (.worldCreated x) r₁ = .ok () r₂ := by
  have hEvents : o.events a = [.worldCreated x] := by
    rw [events_eq, hMade]
    rfl
  have hDeliver : ends (Sink.deliver run (r.factory i).sink (o.events a)) r₁ =
      ends (Sink.tell run (r.factory i).sink (.worldCreated x)) r₁ := by
    rw [hEvents]
    exact Sink.ends_deliver run hSink _ r₁
  -- the work is done, so that it depends on the sink alone whether the operation gives anything
  cases hTold : Sink.tell run (r.factory i).sink (.worldCreated x) r₁ with
  | ok _ r₂ =>
    rw [ends_of_ok hTold] at hDeliver
    obtain ⟨entries, hAct⟩ := act_of_told hLedger hBudget hDone (eq_ok_of_ends hDeliver)
    exact ⟨fun _ => ⟨r₂, rfl⟩, fun _ => ⟨_, hAct⟩⟩
  | error e r₂ =>
    rw [ends_of_error hTold] at hDeliver
    -- a sink that does not take the event has everything undone, and then the operation raises an
    -- error
    obtain ⟨os, s, hUnwound⟩ := exists_undone r₂ j b.journal
    have hAct := act_of_refused hLedger hBudget hDone (eq_error_of_ends hDeliver) hUnwound
    constructor
    · rintro ⟨r', hGives⟩
      rw [hAct] at hGives
      cases hGives
    · rintro ⟨r₃, hTakes⟩
      cases hTakes

end Telling

/-! ## Foreign code -/

/-- A sink that is told runs no code but that of its reaction, when it has kept the event. -/
theorem tell_congr {sink event : Value}
    (hSame : ∀ k code, sink = .object .eventLog k ∨ sink = .object .scriptSink k →
      run' code (r.putSink k { r.sink k with events := (r.sink k).events ++ [event] }) =
        run code (r.putSink k { r.sink k with events := (r.sink k).events ++ [event] })) :
    Sink.tell run' sink event r = Sink.tell run sink event r := by
  have hEmit : ∀ k, sink = .object .eventLog k ∨ sink = .object .scriptSink k →
      Sink.emit run' k event r = Sink.emit run k event r := by
    intro k hk
    unfold Sink.emit
    rw [bind_of_ok (get_eq r), bind_of_ok (get_eq r), bind_of_ok (modify_eq _ _),
      bind_of_ok (modify_eq _ _)]
    -- the event is kept in the same way, and then the next reaction is performed, if there is one
    cases (r.sink k).nextReaction? with
    | none => rfl
    | some reaction =>
      obtain ⟨code?, error⟩ := reaction
      cases code? with
      | none => rfl
      | some code =>
        have hCode := hSame k code hk
        show EStateM.bind (run' code) _ _ = EStateM.bind (run code) _ _
        rw [EStateM.bind, EStateM.bind, hCode]
  cases sink with
  | object kind k =>
    cases kind with
    | eventLog => exact hEmit k (.inl rfl)
    | scriptSink => exact hEmit k (.inr rfl)
    | _ => rfl
  | _ => rfl

/-- Nothing but its sink can make an operation whose work is done come out in another way. -/
theorem act_congr (hLedger : (r.factory i).ledger = .object .ledger j)
    (hBudget : o.budget = .null ∨ ∃ k, o.budget = .object .budget k)
    (hDone : o.Done i j recipe r a b r₁)
    (hSame : Sink.deliver run' (r.factory i).sink (o.events a) r₁ =
      Sink.deliver run (r.factory i).sink (o.events a) r₁) :
    o.act run' i r = o.act run i r := by
  obtain ⟨-, hAct⟩ := act_of_done hLedger hBudget hDone
  -- delivery is the only thing that is left to the code
  have hConclude : Factory.conclude run' (r.factory i) b.journal (.ok a) o.events r₁ =
      Factory.conclude run (r.factory i) b.journal (.ok a) o.events r₁ := by
    change (attempt (Sink.deliver run' (r.factory i).sink (o.events a)) >>= _) r₁ =
      (attempt (Sink.deliver run (r.factory i).sink (o.events a)) >>= _) r₁
    rw [bind_of_ok (attempt_eq ..), bind_of_ok (attempt_eq ..), ends, ends, hSame]
  rw [hAct, hAct]
  show EStateM.bind _ _ _ = EStateM.bind _ _ _
  rw [EStateM.bind, EStateM.bind, hConclude]

/-- **An operation lets foreign code run at announcements only.** Its work is done by then, and the
sink has kept the event that it is told of. -/
theorem starts_of_act (hLedger : (r.factory i).ledger = .object .ledger j)
    (hBudget : o.budget = .null ∨ ∃ k, o.budget = .object .budget k)
    (h : Starts (fun run => o.act run i) run r code r') :
    ∃ recipe a b r₁ x k, o.Done i j recipe r a b r₁ ∧ o.made a = [x] ∧
      ((r.factory i).sink = .object .eventLog k ∨ (r.factory i).sink = .object .scriptSink k) ∧
      r' = r₁.putSink k { r₁.sink k with events := (r₁.sink k).events ++ [.worldCreated x] } := by
  obtain ⟨run', hElse, hDiffers⟩ := h
  by_cases hDone : ∃ recipe a b r₁, o.Done i j recipe r a b r₁
  -- two ways to run code that agree on the sink's reaction make no difference to the operation
  · obtain ⟨recipe, a, b, r₁, hDone⟩ := hDone
    by_contra hNot
    refine hDiffers (act_congr hLedger hBudget hDone ?_)
    rw [events_eq]
    cases hMade : o.made a with
    | nil => exact (Sink.deliver_nil ..).trans (Sink.deliver_nil ..).symm
    | cons x rest =>
      have hOne : o.made a = [x] := made_eq (by simp [hMade])
      rw [← hMade, hOne]
      have hTell : Sink.tell run' (r.factory i).sink (.worldCreated x) r₁ =
          Sink.tell run (r.factory i).sink (.worldCreated x) r₁ := by
        refine tell_congr fun k c hk => hElse c _ fun hPoint => hNot ?_
        exact ⟨recipe, a, b, r₁, x, k, hDone, hOne, hk, (congrArg Prod.snd hPoint).symm⟩
      by_cases hNull : (r.factory i).sink = .null
      · rw [hNull]
        rfl
      · show Sink.deliver run' _ [_] _ = Sink.deliver run _ [_] _
        rw [Sink.deliver_singleton run' hNull, Sink.deliver_singleton run hNull]
        show EStateM.bind _ _ _ = EStateM.bind _ _ _
        rw [EStateM.bind, EStateM.bind, hTell]
  -- otherwise the operation fails, however code is run
  · have hNone : ∀ recipe a b r₁, ¬o.Done i j recipe r a b r₁ :=
      fun recipe a b r₁ h => hDone ⟨recipe, a, b, r₁, h⟩
    obtain ⟨e, r₂, -, hAct⟩ := course_of_not_done hLedger hBudget hNone
    exact absurd ((hAct run').1.trans (hAct run).1.symm) hDiffers

end Operation

/-! ## Runs -/

/-- A realm evolves by the work of an operation. -/
theorem Operation.Done.evolves {i j : Nat} {o : Operation} {r r₁ : Realm κ} {recipe : Recipe}
    {a : o.Result} {b : Workbench} (h : o.Done i j recipe r a b r₁) : r.Evolves r₁ := by
  obtain ⟨hRecipe, hPurse, hWork⟩ := h
  have hClosed : r.Evolves (r.closed j b.site) :=
    Realm.onward_closed (follows_work (ends_of_ok hWork)).site
  obtain ⟨budgets, hKept⟩ := (r.closed j b.site).kept_eq b.purse o.budget
  rw [hKept]
  exact hClosed.tail (.aside rfl rfl (Nat.le_refl _))

/-- A realm goes on evolving from the announcement to the end of the operation, while the sink is
told, and while a world is undone that is refused. -/
theorem Operation.Done.evolves_act {run : κ → Act κ Unit} {i j : Nat} {o : Operation}
    {r r₁ : Realm κ} {recipe : Recipe} {a : o.Result} {b : Workbench} {B : Realm κ → Realm κ → Prop}
    (hLedger : (r.factory i).ledger = .object .ledger j)
    (hBudget : o.budget = .null ∨ ∃ k, o.budget = .object .budget k)
    (h : o.Done i j recipe r a b r₁) (hRun : ∀ code, Leads Realm.Evolves B (run code)) :
    r₁.Evolves (ends (o.act run i) r).2 := by
  obtain ⟨hPurse, hAct⟩ := act_of_done hLedger hBudget h
  have hConclude : Leads Realm.Evolves B
      (Factory.conclude run (r.factory i) b.journal (.ok a) o.events) :=
    (Realm.converses_conclude _ _ _ _).alike hRun
  -- a farewell only adds to the records
  have hFarewell : ∀ a₁, Leads Realm.Evolves B (o.farewell b.purse a₁ : Act κ o.Result) := by
    refine fun a₁ => leads_of_forall fun s => ?_
    obtain ⟨entries, hLast⟩ := farewell_eq hPurse hBudget a₁ s
    rw [ends_of_ok hLast]
    exact .single (.aside rfl rfl (Nat.le_refl _))
  rw [ends, hAct]
  exact (hConclude.bind hFarewell r₁).1

namespace Realm

/-- **The worlds that are announced on a ledger**, from one realm on, in the order of their
announcements. Any factory may announce; and before and after an announcement anything may change,
also while the sink is being told. -/
inductive Announced (j : Nat) (r : Realm κ) : List InstanceHandle → Realm κ → Prop
  | start : Announced j r [] r
  | change {told : List InstanceHandle} {r₁ r₂ : Realm κ} (h : Announced j r told r₁)
      (hChange : Change r₁ r₂) : Announced j r told r₂
  | announce {told : List InstanceHandle} {r₁ r₂ : Realm κ} {i : Nat} {recipe : Recipe}
      {o : Operation} {a : o.Result} {b : Workbench} (h : Announced j r told r₁)
      (hLedger : (r₁.factory i).ledger = .object .ledger j)
      (hDone : o.Done i j recipe r₁ a b r₂) : Announced j r (told ++ o.made a) r₂

variable {j c : Nat} {r r' : Realm κ} {told : List InstanceHandle}

/-- Whatever a realm evolves into is part of the run. -/
theorem Announced.evolves {r₁ r₂ : Realm κ} (h : Announced j r told r₁) (hEvolves : r₁.Evolves r₂) :
    Announced j r told r₂ := by
  induction hEvolves with
  | refl => exact h
  | tail _ hChange ih => exact ih.change hChange

/-- **Along every run, the announced numbers go up**, and the ledger counts on behind them. -/
theorem Announced.ascending (hLawful : r.Lawful)
    (hOwn : (r.ledger j).catalog = .object .catalog c) (hOlder : c < j)
    (h : Announced j r told r') :
    (r'.Lawful ∧ r.GoesOn j c r') ∧ (told.Pairwise fun x y => x.number < y.number) ∧
      ∀ x ∈ told, x.number < (r'.ledger j).ledger.allocator.next.toInt := by
  induction h with
  | start => exact ⟨⟨hLawful, hOwn, .refl _⟩, .nil, fun x hMem => by cases hMem⟩
  | change _ hChange ih =>
    obtain ⟨⟨hLaw, hOn⟩, hAscending, hBelow⟩ := ih
    have hStep := hChange.goesOn hOn.catalog (hLaw.there hOn.catalog) hOlder
    refine ⟨stable_goesOn r hOlder _ _ hChange ⟨hLaw, hOn⟩, hAscending, fun x hMem => ?_⟩
    exact Int.lt_of_lt_of_le (hBelow x hMem) hStep.leads.next_le
  | @announce told r₁ r₂ i recipe o a b _ hLedger hDone ih =>
    obtain ⟨hBefore, hAscending, hBelow⟩ := ih
    obtain ⟨p, hWork⟩ := hDone.work
    have hScene := scene_of_done hDone
    have hLeads : (r₁.scene j).LeadsTo (r₂.scene j) := by
      rw [hScene]
      exact Operation.leads_of_work (ends_of_ok hWork)
    -- what is announced was the next handle when the work began, and it is below the next one now
    have hFresh : ∀ x ∈ o.made a, x.number = (r₁.ledger j).ledger.allocator.next.toInt ∧
        x.number < (r₂.ledger j).ledger.allocator.next.toInt := by
      intro x hMem
      obtain ⟨rfl, hNext⟩ := Operation.made_of_work hWork hMem
      have hEnd : (r₂.ledger j).ledger = b.site.ledger := congrArg Scene.ledger hScene
      rw [hEnd, hNext]
      exact ⟨rfl, Int.lt_succ _⟩
    refine ⟨(stable_goesOn r hOlder).holds hDone.evolves hBefore, ?_, fun x hMem => ?_⟩
    · rw [List.pairwise_append]
      refine ⟨hAscending, o.pairwise_made a _, fun x hx y hy => ?_⟩
      rw [(hFresh y hy).1]
      exact hBelow x hx
    · rcases List.mem_append.1 hMem with hOld | hNew
      · exact Int.lt_of_lt_of_le (hBelow x hOld) hLeads.next_le
      · exact (hFresh x hNew).2

end Realm

end WorldForge

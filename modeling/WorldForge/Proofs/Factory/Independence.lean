import WorldForge.Proofs.Realm.Arrival

/-!
# Spawns are independent

Two worlds are requested of a factory, one after the other, and each request is paid for from a
budget of its own. Which of them comes first makes no difference but for the numbers of the two new
handles and the order in which the worlds are listed (`Realm.Independent`): what the one leaves of
itself is a lodger for the other one, which does not notice.

No care has to be taken of the recipe. If its executor is alive, it is older than both worlds. If it
is not, be it a handle that has not been given out yet, then nothing arrives, so the second request
does not find it alive either.

Main results:

* `request_beside` — what is requested after another request;
* `spawns_independent` — either order comes out the same.
-/

namespace WorldForge

variable {κ : Type} {run : κ → Act κ Unit} {p : Premises} {r r₁ : Realm κ}
  {handed : List InstanceHandle} {given given₁ given₂ budget budget₁ budget₂ : Value}
  {a b : Arrival}

/-! ## What has been paid -/

/-- A request works in parallel with itself. -/
theorem parallel_work_request {φ : Shift} {lodgers : Ledger.Lodgers} (c : Catalog) (recipe : Recipe)
    (given budget : Value) :
    Work.Parallel φ lodgers
      (Operation.work (renumber φ.number recipe) c (.request given budget) : Work InstanceHandle)
      (Operation.work recipe c (.request given budget)) := by
  by_cases hRequest : ∃ name components systems, given = .request name components systems
  · obtain ⟨name, components, systems, rfl⟩ := hRequest
    exact Work.parallel_makeWorld c recipe name components systems
  · rw [Operation.work_of_not_request hRequest, Operation.work_of_not_request hRequest,
      Operation.misrequest, Operation.misrequest]
    cases given.name? with
    | none => exact parallel_throw rfl
    | some name =>
      have hLacking : Error.lacking given "component_ids" =
          renumber φ.number (.lacking given "component_ids") := rfl
      exact (Work.parallel_deployWorld c recipe name).bind fun _ => parallel_throw hLacking

/-- The purse after the work of a request, if there was something to pay with: the budget that was
handed over, or a fresh one. -/
def Factory.purseAfter (p : Premises) (given budget : Value) (r : Realm κ) : Option Purse :=
  match (r.factory p.factory).recipe, (ends ((r.factory p.factory).purse budget) r).1 with
  | .ok recipe, .ok purse =>
    some (ends (Operation.work recipe (r.catalogFor p.ledger) (.request given budget))
      ⟨r.site p.ledger, purse, []⟩).2.purse
  | _, _ => none

/-- **The same is paid** on premises that lie beside each other. -/
theorem Realm.Beside.purseAfter {φ : Shift} {lodgers : Ledger.Lodgers} {p : Outlook} {s : Realm κ}
    (h : r.Beside φ lodgers p s) (hApart : budget = .null ∨ budget ≠ p.hidden) (given : Value) :
    Factory.purseAfter p.toPremises given budget r =
      Factory.purseAfter p.toPremises given budget s := by
  have hPurse := (Factory.parallel_purse (s.factory p.factory) hApart _ _ h).1
  rw [Factory.purseAfter, Factory.purseAfter, h.factory, Factory.recipe_renumber, hPurse]
  cases (s.factory p.factory).recipe with
  | error e => rfl
  | ok recipe =>
    cases (ends ((s.factory p.factory).purse budget) s).1 with
    | error e => rfl
    | ok purse =>
      have hStart : (⟨r.site p.ledger, purse, []⟩ : Workbench).Beside φ lodgers
          ⟨s.site p.ledger, purse, []⟩ := ⟨h.site, rfl, rfl⟩
      -- both requests do the same work side by side, so they pay the same
      have hDone := parallel_work_request (s.catalogFor p.ledger) recipe given budget _ _ hStart
      show some (ends (Operation.work _ (r.catalogFor p.ledger) _) _).2.purse = some _
      rw [h.catalogFor, renumber_purse, hDone.2.purse]

/-! ## One request after another -/

namespace Operation

/-- A request is to make a world, even if it cannot. -/
theorem made_request_ne (given budget : Value) :
    ∀ h : (request given budget).Result, (request given budget).made h ≠ [] :=
  fun _ => List.cons_ne_nil _ _

/-- **What is requested after another request** comes out as it would have without it, up to the
numbers of handles, and leaves the same arrival at another handle. -/
theorem request_beside (hQuiet : r.Quiet p)
    (hReached : Ledger.Reached (r.catalogFor p.ledger) (r.ledger p.ledger).ledger handed)
    (hVisited : r.Visited p budget₁ a r₁)
    (hReached₁ : ∃ handed, Ledger.Reached (r₁.catalogFor p.ledger) (r₁.ledger p.ledger).ledger
      handed)
    (hBudget : budget = .null ∨ ∃ k, budget = .object .budget k)
    (hApart : budget = .null ∨ budget ≠ budget₁)
    (hOther : r.Visited p budget b (ends (Factory.spawnRequest run p.factory given budget) r).2) :
    let φ := a.shift (r.ledger p.ledger).ledger.allocator.next.toInt
    let x := ends (Factory.spawnRequest run p.factory given budget) r
    let y := ends (Factory.spawnRequest run p.factory given budget) r₁
    y.1 = renumber φ.number x.1 ∧
      r₁.Visited p budget (b.movedTo (r₁.ledger p.ledger).ledger.allocator.fresh) y.2 ∧
      Factory.purseAfter p given budget r₁ = Factory.purseAfter p given budget r ∧
      ∀ k, .object .budget k ≠ budget₁ → y.2.budget k = x.2.budget k := by
  intro φ x y
  obtain ⟨handed₁, hReached₁⟩ := hReached₁
  have hSide := hVisited.beside hQuiet hReached
  obtain ⟨hSame, hSide'⟩ := Factory.parallel_spawnRequest given hApart _ _ hSide
  refine ⟨hSame, ?_, hSide.purseAfter hApart given, hSide'.budgets⟩
  obtain ⟨b', -, hVisited'⟩ := exists_arrival (o := .request given budget) hVisited.quiet hReached₁
    hBudget (made_request_ne given budget) run
  have hLeads : (r.scene p.ledger).LeadsTo (x.2.scene p.ledger) :=
    leads_act (o := .request given budget) hQuiet hBudget run
  obtain ⟨handed₂, hReached₂⟩ := reached_of_leads hLeads hReached
  change Ledger.Reached _ (x.2.ledger p.ledger).ledger _ at hReached₂
  rw [hOther.ledger] at hReached₂
  -- the ledgers after the request lie beside each other, so the arrivals on them are the same
  have hJoined : ((y.2.ledger p.ledger).ledger).Beside φ a.lodgers (x.2.ledger p.ledger).ledger :=
    hSide'.site.ledger
  have hEnd : (y.2.ledger p.ledger).ledger = (r₁.ledger p.ledger).ledger.join b' := hVisited'.ledger
  rw [hOther.ledger, hEnd] at hJoined
  have hLedgers : (r₁.ledger p.ledger).ledger.Beside φ a.lodgers (r.ledger p.ledger).ledger :=
    hSide.site.ledger
  have hArrival : b' = renumber φ.number b := Ledger.eq_renumber_of_beside hReached.sound hLedgers
    hJoined hOther.place hVisited'.place
  have hMoved : renumber φ.number b = b.movedTo (r₁.ledger p.ledger).ledger.allocator.fresh :=
    Ledger.renumber_eq_movedTo hReached.sound hOther.place hReached₂ hLedgers.fresh.symm
      fun _ => Arrival.number_of_lt
  rw [← hMoved, ← hArrival]
  exact hVisited'

end Operation

/-! ## Both orders -/

/-- **What two operations leave of themselves**, one after the other: two arrivals, the second of
which stands at the handle after the first one. All that was there before is as it was, apart from
the two budgets. -/
structure Realm.Received (p : Premises) (budgets : List Value) (a b : Arrival) (r r' : Realm κ) :
    Prop where
  ledger : (r'.ledger p.ledger).ledger = ((r.ledger p.ledger).ledger.join a).join
    (b.movedTo ((r.ledger p.ledger).ledger.join a).allocator.fresh)
  /-- Whoever was there before is as before: alive or dead, with its template and its world. -/
  older : ∀ x : InstanceHandle, x.number < (r.ledger p.ledger).ledger.allocator.fresh.number →
    (r'.ledger p.ledger).ledger.isAlive (.handle x) =
        (r.ledger p.ledger).ledger.isAlive (.handle x) ∧
      (r'.ledger p.ledger).ledger.templateOf (.handle x) =
        (r.ledger p.ledger).ledger.templateOf (.handle x) ∧
      (r'.ledger p.ledger).ledger.dispatcher (.handle x) =
        (r.ledger p.ledger).ledger.dispatcher (.handle x) ∧
      (r'.ledger p.ledger).ledger.world? x = (r.ledger p.ledger).ledger.world? x
  catalogs : r'.catalogs = r.catalogs
  factories : r'.factories = r.factories
  log : ∀ k, p.log? = some k → (r'.sink k).events = (r.sink k).events ++
    (a.given ++ (b.movedTo ((r.ledger p.ledger).ledger.join a).allocator.fresh).given).map
      .worldCreated
  budgets : ∀ k, .object .budget k ∉ budgets → r'.budget k = r.budget k

/-- What two operations leave of themselves that have come one after the other. -/
theorem Realm.Visited.received {r₂ : Realm κ} (h : r.Visited p budget₁ a r₁)
    (h₁ : r₁.Visited p budget₂ (b.movedTo (r₁.ledger p.ledger).ledger.allocator.fresh) r₂) :
    r.Received p [budget₁, budget₂] a b r₂ where
  ledger := by
    rw [h₁.ledger, h.ledger]
  -- whoever was there before the first operation was there before the second one, too
  older x hOld := by
    have hLater : x.number < (r₁.ledger p.ledger).ledger.allocator.fresh.number := by
      rw [h.ledger]
      exact Int.lt_of_lt_of_le hOld (Ledger.number_fresh_le_join _ a)
    obtain ⟨hAlive, hTemplate, hDispatcher, hWorld⟩ := Ledger.join_elsewhere h.place hOld
    obtain ⟨hAlive₁, hTemplate₁, hDispatcher₁, hWorld₁⟩ := Ledger.join_elsewhere h₁.place hLater
    rw [← h₁.ledger] at hAlive₁ hTemplate₁ hDispatcher₁ hWorld₁
    rw [← h.ledger] at hAlive hTemplate hDispatcher hWorld
    exact ⟨hAlive₁.trans hAlive, hTemplate₁.trans hTemplate, hDispatcher₁.trans hDispatcher,
      hWorld₁.trans hWorld⟩
  catalogs := h₁.catalogs.trans h.catalogs
  factories := h₁.factories.trans h.factories
  log k hLog := by
    rw [h₁.log k hLog, h.log k hLog, h.ledger]
    simp
  budgets k hk := by
    rw [List.mem_cons, List.mem_singleton, not_or] at hk
    exact (h₁.budgets k hk.2).trans (h.budgets k hk.1)

/-- How a request is settled: with its handle or an error, and with what is in the purse then. -/
structure Factory.Settlement where
  outcome : Except Error InstanceHandle
  purse : Option Purse

/-- **Two requests are independent**, which are settled as `x` and `x'` if the first one is made
first, and as `y` and `y'` if the second one is, while the realm becomes `rx` or `ry`. With the
arrivals `a` and `a'`, it makes no difference for any of them which was first, but for the numbers
of handles. -/
structure Realm.Independent (p : Premises) (budget budget' : Value) (r : Realm κ)
    (x x' : Factory.Settlement) (rx : Realm κ) (y' y : Factory.Settlement) (ry : Realm κ)
    (a a' : Arrival) : Prop where
  /-- The first request comes out the same, be it a success or the same error. -/
  first : y.outcome =
    renumber (a'.shift (r.ledger p.ledger).ledger.allocator.next.toInt).number x.outcome
  /-- And so does the second one. -/
  second : x'.outcome =
    renumber (a.shift (r.ledger p.ledger).ledger.allocator.next.toInt).number y'.outcome
  /-- The steps that were charged are the same, also those that a fresh budget has paid for. -/
  charged : x.purse = y.purse ∧ x'.purse = y'.purse ∧ ∀ k, rx.budget k = ry.budget k
  /-- A request succeeds if its world has arrived alive. -/
  given : x.outcome.toOption.toList = a.given ∧ y'.outcome.toOption.toList = a'.given
  received : r.Received p [budget, budget'] a a' rx
  received' : r.Received p [budget', budget] a' a ry

namespace Factory

/-- How a request is settled, and the realm that it leaves. -/
def settle (run : κ → Act κ Unit) (p : Premises) (given budget : Value) (r : Realm κ) :
    Settlement × Realm κ :=
  let done := ends (spawnRequest run p.factory given budget) r
  (⟨done.1, purseAfter p given budget r⟩, done.2)

/-- The handles that a request is said to give are those it has come out with: one if it has
succeeded, and otherwise none. -/
theorem toList_of_givenBy {out : Except Error InstanceHandle}
    (h : givenBy (.request given budget) out = a.given) : out.toOption.toList = a.given := by
  rw [← h]
  cases out <;> rfl

/-- **Spawns are independent.** Each of two requests comes out the same, whether it is the first or
the second one: it succeeds or raises the same error up to the numbers of handles, and as many steps
are charged. It makes the same world or none, at the one handle or at the other. All else is the
same in the end. -/
theorem spawns_independent (hQuiet : r.Quiet p)
    (hReached : Ledger.Reached (r.catalogFor p.ledger) (r.ledger p.ledger).ledger handed)
    (hBudget₁ : budget₁ = .null ∨ ∃ k, budget₁ = .object .budget k)
    (hBudget₂ : budget₂ = .null ∨ ∃ k, budget₂ = .object .budget k)
    (hApart : budget₁ = budget₂ → budget₁ = .null) (run : κ → Act κ Unit)
    (given₁ given₂ : Value) :
    let x := settle run p given₁ budget₁ r
    let x' := settle run p given₂ budget₂ x.2
    let y' := settle run p given₂ budget₂ r
    let y := settle run p given₁ budget₁ y'.2
    ∃ a a', r.Independent p budget₁ budget₂ x.1 x'.1 x'.2 y'.1 y.1 y.2 a a' := by
  intro x x' y' y
  -- what either request leaves of itself, if it comes first
  obtain ⟨a₁, hGiven₁, hVisited₁⟩ := Operation.exists_arrival (o := .request given₁ budget₁) hQuiet
    hReached hBudget₁ (Operation.made_request_ne given₁ budget₁) run
  obtain ⟨a₂, hGiven₂, hVisited₂⟩ := Operation.exists_arrival (o := .request given₂ budget₂) hQuiet
    hReached hBudget₂ (Operation.made_request_ne given₂ budget₂) run
  have hReached₁ := Operation.reached_of_leads
    (Operation.leads_act (o := .request given₁ budget₁) hQuiet hBudget₁ run) hReached
  have hReached₂ := Operation.reached_of_leads
    (Operation.leads_act (o := .request given₂ budget₂) hQuiet hBudget₂ run) hReached
  have hApart₁ : budget₁ = .null ∨ budget₁ ≠ budget₂ := by
    by_cases hSame : budget₁ = budget₂
    · exact .inl (hApart hSame)
    · exact .inr hSame
  have hApart₂ : budget₂ = .null ∨ budget₂ ≠ budget₁ := by
    by_cases hSame : budget₁ = budget₂
    · exact .inl (hSame ▸ hApart hSame)
    · exact .inr (Ne.symm hSame)
  -- and if it comes after the other one
  obtain ⟨hSecond, hVisited₂', hPurse₂, hBudgets₂⟩ :=
    Operation.request_beside hQuiet hReached hVisited₁
    hReached₁ hBudget₂ hApart₂ hVisited₂
  obtain ⟨hFirst, hVisited₁', hPurse₁, hBudgets₁⟩ :=
    Operation.request_beside hQuiet hReached hVisited₂
    hReached₂ hBudget₁ hApart₁ hVisited₁
  have hBudgets : ∀ k, x'.2.budget k = y.2.budget k := by
    intro k
    by_cases hk : .object .budget k = budget₁
    -- this budget is the first request's, so the other one has left it alone
    · have hNe : Value.object .budget k ≠ budget₂ := by
        intro hk₂
        have hNull := hApart (hk.symm.trans hk₂)
        rw [hNull] at hk
        cases hk
      exact (hVisited₂'.budgets k hNe).trans (hBudgets₁ k hNe).symm
    · exact (hBudgets₂ k hk).trans (hVisited₁'.budgets k hk).symm
  exact ⟨a₁, a₂, hFirst, hSecond, ⟨hPurse₁.symm, hPurse₂, hBudgets⟩,
    ⟨toList_of_givenBy hGiven₁, toList_of_givenBy hGiven₂⟩,
    hVisited₁.received hVisited₂', hVisited₂.received hVisited₁'⟩

/-- A world is requested before and after another one that cannot be made, since it is to have the
same component twice. Its handle is the next one in either order, and there is a gap before it if it
comes second. -/
theorem spawns_independent_arena :
    let p : Premises := ⟨4, 1, .object .catalog 0, some 2⟩
    let pit := Value.request (.str "pit") [Arena.health, Arena.speed] [Arena.physics]
    let cave := Value.request (.str "cave") [Arena.health, Arena.health] []
    let x := settle Empty.elim p pit (.object .budget 3) Arena.logged
    let x' := settle Empty.elim p cave .null x.2
    let y' := settle Empty.elim p cave .null Arena.logged
    let y := settle Empty.elim p pit (.object .budget 3) y'.2
    x.1.outcome.toOption.map InstanceHandle.number = some 0x1001 ∧
      y.1.outcome.toOption.map InstanceHandle.number = some 0x1002 ∧
      ∃ a a', Arena.logged.Independent p (.object .budget 3) .null x.1 x'.1 x'.2 y'.1 y.1 y.2
        a a' := by
  intro p pit cave x x' y' y
  have hQuiet : Arena.logged.Quiet p := by
    refine ⟨rfl, rfl, ⟨rfl, rfl⟩, fun k hk => ?_⟩
    cases hk
    rfl
  have hReached : Ledger.Reached (Arena.logged.catalogFor 1) (Arena.logged.ledger 1).ledger
      [Arena.executor] := Arena.reached_ledger
  have hApart : Value.object .budget 3 = .null → Value.object .budget 3 = .null := id
  -- the two numbers are computed, the rest is a case of the theorem
  exact ⟨by decide +kernel, by decide +kernel,
    spawns_independent hQuiet hReached (.inr ⟨3, rfl⟩) (.inl rfl) hApart Empty.elim pit cave⟩

end Factory

end WorldForge

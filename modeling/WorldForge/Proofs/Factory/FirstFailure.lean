import WorldForge.Proofs.Factory.Attempts
import WorldForge.Proofs.Factory.Halting

/-!
# The first failure

Whether an operation succeeds that registers parts, and for what it fails, is decided by two numbers
that are known beforehand, and either of which may be infinite: the position of the first unfit
part, and the steps that are left. Where they are equal, there is no step for the unfit part, and
nobody sees that it is unfit.

Main results:

* `Operation.act_of_work_error` — without faults an operation fails as its work does;
* `Operation.ends_act` — an unhindered operation comes out as its work does;
* `Factory.first_failure_decides` — how an operation comes out that registers parts.
-/

namespace WorldForge

variable {κ : Type}

/-! ## Operations -/

namespace Operation

variable {run : κ → Act κ Unit} {i j : Nat} {o : Operation} {r : Realm κ} {recipe : Recipe}
  {p : Budget} {handed : List InstanceHandle} {b : Workbench} {res : Except Error o.Result}

/-- **An operation fails as its work does** where no fault is planned, since its undoing does not
fail. -/
theorem act_of_work_error {e : Error} (hLedger : (r.factory i).ledger = .object .ledger j)
    (hs : Ledger.Sound (r.catalogFor j) (r.ledger j).ledger handed)
    (hFaults : (r.ledger j).faults = [])
    (hRecipe : (r.factory i).configuration = .holding recipe)
    (hPurse : o.purse (r.factory i) r = .ok (.budget p) r)
    (hSame : ∀ k, o.budget = .object .budget k → p = r.budget k)
    (hWork : ends (o.work recipe (r.catalogFor j)) ⟨r.site j, .budget p, []⟩ = (.error e, b))
    (run : κ → Act κ Unit) :
    ∃ r', o.act run i r = .error e r' ∧ ∀ k, o.budget = .object .budget k →
      r'.budget k = { r.budget k with used := (r.budget k).used + o.attempts i r } := by
  obtain ⟨hPaid, hSize⟩ := purse_of_work hLedger hRecipe hPurse hWork
  obtain ⟨r₁, hWorked, -, hAct⟩ :=
    act_eq hLedger hRecipe hPurse ⟨p, rfl, hSame⟩ hWork hSize hPaid
  obtain ⟨new?, n, -, hDone⟩ :=
    accounted_work (b := ⟨r.site j, .budget p, []⟩) o recipe hs rfl
  rw [hWork] at hDone
  have hNone : b.site.faults = [] := List.eq_nil_iff_forall_not_mem.2 fun f hMem =>
    hDone.spare (Realm.spare_of_faults hFaults f.call) f hMem rfl
  -- without faults the undoing succeeds, so that the error of the work is raised as it is
  obtain ⟨r', l, hEnd, hKept, -⟩ := Factory.exists_concluded hLedger hs hDone hNone hWorked.ledger e
    o.events
  refine ⟨r', (hAct run).trans (bind_of_error hEnd), fun k hk => ?_⟩
  rw [Realm.budget, hKept]
  exact hWorked.charged k hk

/-- **An operation comes out as its work does** where it is unhindered. The budget that was handed
over has paid a step for each registration that was attempted. -/
theorem ends_act (h : Factory.Unhindered r i j handed)
    (hRecipe : (r.factory i).configuration = .holding recipe)
    (hPurse : o.purse (r.factory i) r = .ok (.budget p) r)
    (hSame : ∀ k, o.budget = .object .budget k → p = r.budget k)
    (hBudget : o.budget = .null ∨ ∃ k, o.budget = .object .budget k)
    (hWork : ends (o.work recipe (r.catalogFor j)) ⟨r.site j, .budget p, []⟩ = (res, b))
    (run : κ → Act κ Unit) :
    ∃ r', ends (o.act run i) r = (res, r') ∧ ∀ k, o.budget = .object .budget k →
      r'.budget k = { r.budget k with used := (r.budget k).used + o.attempts i r } := by
  obtain ⟨hPaid, hSize⟩ := purse_of_work h.ledger hRecipe hPurse hWork
  obtain ⟨r₁, hWorked, -, hAct⟩ :=
    act_eq h.ledger hRecipe hPurse ⟨p, rfl, hSame⟩ hWork hSize hPaid
  rw [ends, hAct run]
  cases res with
  -- a log at most is told of a success
  | ok a =>
    obtain ⟨sinks, hTold⟩ : ∃ sinks, Sink.deliver run (r.factory i).sink (o.events a) r₁ =
        .ok () { r₁ with sinks } := by
      have hOne : ∀ event, ∃ sinks, Sink.deliver run (r.factory i).sink [event] r₁ =
          .ok () { r₁ with sinks } := by
        intro event
        obtain ⟨sinks, hTold⟩ := r₁.told_eq event (r.factory i).sink
        exact ⟨sinks, by rw [h.deliver hWorked.sinks, hTold]⟩
      cases o with
      | registerAll world components systems budget => exact ⟨r₁.sinks, Sink.deliver_nil ..⟩
      | _ => exact hOne _
    obtain ⟨entries, hFarewell⟩ :=
      farewell_eq ⟨_, hPaid⟩ hBudget a ({ r₁ with sinks } : Realm κ)
    rw [bind_of_ok ((Factory.conclude_eq_ok_iff h.ledger).2 ⟨rfl, hTold⟩), hFarewell]
    exact ⟨_, rfl, hWorked.charged⟩
  -- and a failure is undone without fail
  | error e =>
    obtain ⟨r', hFails, hCharged⟩ := act_of_work_error h.ledger h.reached.sound h.faults hRecipe
      hPurse hSame hWork run
    rw [← hAct run]
    exact ⟨r', ends_of_error hFails, hCharged⟩

/-- **The first failure decides an operation** that registers the parts `xs` and is paid for by `p`.
Of them `first` is the position of the first unfit one, and `wrap` tells what is raised because of
what stops the registrations. -/
structure StopsAtFirst (run : κ → Act κ Unit) (i : Nat) (r : Realm κ) (o : Operation) (p : Budget)
    (xs : List Part) (first : ℕ∞) (wrap : Error → Error) : Prop where
  succeeds : (∃ a r', o.act run i r = .ok a r') ↔ (xs.length : ℕ∞) ≤ min first p.room
  exhausted : p.room < xs.length → p.room ≤ first → ∃ limit r', p.limit = some limit ∧
    o.act run i r = .error (wrap (.budget (.exhausted limit limit.toInt))) r'
  rejected : ∀ m : Nat, first = m → (m : ℕ∞) < p.room → ∃ k t cause r', xs[m]? = some (k, t) ∧
    cause.kind = .dispatchRejected ∧
    o.act run i r = .error (wrap (.registrationRejected t k cause)) r'
  attempts : (o.attempts i r : ℕ∞) = min (xs.length : ℕ∞) (min p.room (first + 1))
  charged : ∀ k, o.budget = .object .budget k → (ends (o.act run i) r).2.budget k =
    { r.budget k with used := (r.budget k).used + o.attempts i r }

/-- An operation is decided by its first failure if its work stops as a run over the parts does. -/
theorem stopsAtFirst_of_halts {c : Catalog} {taken : PartKind → List Key} {xs : List Part}
    {out : Except Error Unit} {n : Nat} {wrap : Error → Error} {f : Unit → o.Result}
    (h : Factory.Unhindered r i j handed)
    (hRecipe : (r.factory i).configuration = .holding recipe)
    (hPurse : o.purse (r.factory i) r = .ok (.budget p) r)
    (hSame : ∀ k, o.budget = .object .budget k → p = r.budget k)
    (hBudget : o.budget = .null ∨ ∃ k, o.budget = .object .budget k) (hZero : p.Covers 0)
    (hHalts : Halts c taken xs p out n)
    (hRes : (ends (o.work recipe (r.catalogFor j)) ⟨r.site j, .budget p, []⟩).1 =
      (out.mapError wrap).map f)
    (hPaid : (ends (o.work recipe (r.catalogFor j)) ⟨r.site j, .budget p, []⟩).2.purse =
      .budget { p with used := p.used + n }) (run : κ → Act κ Unit) :
    o.StopsAtFirst run i r p xs (firstUnfit c taken xs) wrap := by
  rcases hWork : ends (o.work recipe (r.catalogFor j)) ⟨r.site j, .budget p, []⟩ with ⟨res, b⟩
  rw [hWork] at hRes hPaid
  obtain ⟨r', hAct, hCharged⟩ := ends_act h hRecipe hPurse hSame hBudget hWork run
  obtain rfl : res = (out.mapError wrap).map f := hRes
  -- what has been paid tells how many registrations were attempted
  have hAttempts : o.attempts i r = n := by
    have hSpent := (purse_of_work h.ledger hRecipe hPurse hWork).1.symm.trans hPaid
    simp only [Purse.after, Purse.budget.injEq, Budget.mk.injEq, true_and] at hSpent
    omega
  have hEnd : ∀ k, o.budget = .object .budget k → (ends (o.act run i) r).2.budget k =
      { r.budget k with used := (r.budget k).used + o.attempts i r } := by
    rw [hAct]
    exact hCharged
  -- the operation comes out as the loop over the parts does, but for the wrapping of its error
  have hOk : (∃ a r', o.act run i r = .ok a r') ↔ out = .ok () := by
    constructor
    · rintro ⟨a, r₁, hDone⟩
      rw [ends_of_ok hDone] at hAct
      cases out with
      | ok _ => rfl
      | error e => cases hAct
    · rintro rfl
      exact ⟨_, _, eq_ok_of_ends hAct⟩
  refine ⟨hOk.trans (hHalts.eq_ok_iff hZero), fun hMore hFirst => ?_, fun m hFirst hLess => ?_, ?_,
    hEnd⟩
  · obtain ⟨limit, hLimit, rfl⟩ := hHalts.eq_exhausted hZero hMore hFirst
    exact ⟨limit, r', hLimit, eq_error_of_ends hAct⟩
  · obtain ⟨k, t, refusal, hAt, hKind, rfl⟩ := hHalts.eq_rejected hZero hFirst hLess
    exact ⟨k, t, .ledger refusal, r', hAt, hKind, eq_error_of_ends hAct⟩
  · rw [hAttempts]
    exact hHalts.paid_eq hZero

end Operation

namespace Factory

variable {i j : Nat} {r : Realm κ} {recipe : Recipe} {budget : Value}
  {handed : List InstanceHandle}

/-- **The first failure decides** which registrations are made, where a factory is unhindered, and
has steps of its own to pay with if no budget is handed over. In a live world, and in a world that
is spawned once the ledger deploys it, parts are registered until one is unfit or no step is left.
All are, and the operation succeeds, exactly if neither comes before their end. Otherwise it fails
for what comes first, and for the step if both come at once. Each registration that is attempted has
cost one step, and none is attempted after the first failure. -/
theorem first_failure_decides (h : Unhindered r i j handed)
    (hSteps : budget = .null → (r.factory i).stepBudget = .null ∨
      ∃ n, (r.factory i).stepBudget.numeral? = some n ∧ 0 ≤ n.toInt)
    (hRecipe : (r.factory i).configuration = .holding recipe) (hSorted : (r.catalogFor j).Sorted)
    (hBudget : budget = .null ∨ ∃ k, budget = .object .budget k ∧ (r.budget k).Reached)
    (run : κ → Act κ Unit) (cs ss : List Value) (hIds : ∀ t ∈ cs ++ ss, ∃ id, t = .template id) :
    ∃ p, (r.factory i).purse budget r = .ok (.budget p) r ∧
      (∀ x w components systems, (r.ledger j).ledger.liveWorld? (.handle x) = some w →
        components.items? = some cs → systems.items? = some ss →
          Operation.StopsAtFirst run i r (.registerAll (.handle x) components systems budget) p
            (tagged cs ss) (firstUnfit (r.catalogFor j) w.templateKeys (tagged cs ss)) id) ∧
      ∀ name plan x l, (r.ledger j).ledger.deploy (r.catalogFor j) recipe.template
          (Argument.values [name, .handle recipe.executor]) = .ok ((plan, x), l) →
        Operation.StopsAtFirst run i r (.spawn name cs ss budget) p (tagged cs ss)
          (firstUnfit (r.catalogFor j) (fun _ => []) (tagged cs ss))
          (.registrationFailed name x) := by
  have hs := h.reached.sound
  obtain ⟨p, hPurse, hBounds, hSame⟩ := exists_purse hSteps hBudget
  have hZero : p.Covers 0 := hBounds.covers_zero
  have hHanded : budget = .null ∨ ∃ k, budget = .object .budget k := by
    rcases hBudget with hNull | ⟨k, hk, -⟩
    · exact .inl hNull
    · exact .inr ⟨k, hk⟩
  have hSpare := Realm.spare_of_faults h.faults
  -- ids can be looked up, so that every part is looked for in the catalog
  have hKeys : ∀ t ∈ cs ++ ss, t.changeable? = none := by
    intro t ht
    obtain ⟨id, rfl⟩ := hIds t ht
    rfl
  refine ⟨p, hPurse, fun x w components systems hLive hComponents hSystems => ?_,
    fun name plan x l hDeploy => ?_⟩
  -- registering in a world that is there starts from the parts that it has
  · have hFixed : (Value.handle x).changeable? = none := rfl
    obtain ⟨hKey, hFaithful⟩ := hs.worlds hLive
    have hReady : Work.Ready (r.catalogFor j) w.handle w p ⟨r.site j, .budget p, []⟩ :=
      ⟨hSpare, by rw [hKey]; exact hLive, rfl, hFaithful, rfl, hZero⟩
    obtain ⟨n, hHalts, hPaid⟩ := Work.halts_registerParts (b := ⟨r.site j, .budget p, []⟩)
      hs.catalog hSorted hFixed hLive hReady hComponents hSystems hKeys
    refine Operation.stopsAtFirst_of_halts (o := .registerAll (.handle x) components systems budget)
      (f := id) h hRecipe hPurse hSame hHanded hZero hHalts ?_ hPaid run
    show (ends (Work.registerParts _ _ _ _) _).1 = _
    generalize (ends (Work.registerParts (r.catalogFor j) (.handle x) components systems)
      ⟨r.site j, .budget p, []⟩).1 = res
    cases res <;> rfl
  -- a spawn starts from a world without parts
  · obtain ⟨n, res, hHalts, hRes, hPaid⟩ := Work.halts_makeWorld (b := ⟨r.site j, .budget p, []⟩)
      hs.catalog hSorted hSpare rfl hZero hDeploy hKeys
    exact Operation.stopsAtFirst_of_halts (o := .spawn name cs ss budget) h hRecipe hPurse hSame
      hHanded hZero hHalts hRes hPaid run

/-- Two steps pay for speed and for physics, and no step is left to find out that physics is asked
for twice. A spawn that has steps enough finds out that health is. -/
theorem first_failure_decides_arena :
    let r := (Arena.logged.putLedger 1 ⟨.object .catalog 0, Arena.inhabited, []⟩).putBudget 3
      ⟨some (.number 2), 0⟩
    let furnish : Operation := .registerAll (.handle Arena.pit.handle) (.list [Arena.speed])
      (.list [Arena.physics, Arena.physics]) (.object .budget 3)
    let spawn : Operation := .spawn (.str "den") [Arena.health, Arena.health] [Arena.physics] .null
    (∃ r', furnish.act Empty.elim 4 r = .error (.budget (.exhausted (.number 2) 2)) r' ∧
      r'.budget 3 = ⟨some (.number 2), 2⟩) ∧
    ∃ x cause r', spawn.act Empty.elim 4 r = .error (.registrationFailed (.str "den") x
        (.registrationRejected Arena.health .component cause)) r' ∧
      cause.kind = .dispatchRejected ∧ spawn.attempts 4 r = 2 := by
  intro r furnish spawn
  have hUnhindered : Unhindered r 4 1 [Arena.executor, Arena.pit.handle] :=
    ⟨rfl, Arena.reached_inhabited, rfl, .inr ⟨2, rfl, rfl⟩⟩
  have hRecipe : (r.factory 4).configuration = .holding Arena.recipe := rfl
  have hLimit : Budget.ofLimit? (some (.number 2)) = .ok ⟨some (.number 2), 0⟩ := rfl
  constructor
  · obtain ⟨p, hPurse, hWorld, -⟩ := first_failure_decides hUnhindered
      (fun hNull => by cases hNull) hRecipe Arena.sorted_catalog (.inr ⟨3, rfl, .fresh hLimit⟩)
      Empty.elim [Arena.speed] [Arena.physics, Arena.physics]
      (by simp [Arena.speed, Arena.physics])
    cases hPurse
    have hStops := hWorld Arena.pit.handle Arena.pit (.list [Arena.speed])
      (.list [Arena.physics, Arena.physics]) rfl rfl rfl
    have hFirst : firstUnfit (r.catalogFor 1) Arena.pit.templateKeys
        (tagged [Arena.speed] [Arena.physics, Arena.physics]) = (2 : Nat) :=
      firstUnfit_eq (by decide +kernel) (by decide +kernel)
    have hRoom : (r.budget 3).room = (2 : Nat) := rfl
    rw [hFirst] at hStops
    -- the budget has room for two of the three parts, and the first unfit one would be the third
    have hShort : (r.budget 3).room < (3 : Nat) := by
      rw [hRoom]
      exact Nat.cast_lt.2 (by decide)
    obtain ⟨limit, r', hMax, hAct⟩ := hStops.exhausted hShort hRoom.le
    cases hMax
    have hAttempts : (furnish.attempts 4 r : ℕ∞) = (2 : Nat) := by
      rw [hStops.attempts, hRoom]
      rfl
    have hPaid := hStops.charged 3 rfl
    rw [ends_of_error hAct, Nat.cast_inj.1 hAttempts] at hPaid
    exact ⟨r', hAct, hPaid⟩
  -- the second component is the first one again, so that it is rejected
  · obtain ⟨p, hPurse, -, hSpawn⟩ := first_failure_decides hUnhindered (fun _ => .inl rfl) hRecipe
      Arena.sorted_catalog (.inl rfl) Empty.elim [Arena.health, Arena.health] [Arena.physics]
      (by simp [Arena.health, Arena.physics])
    cases hPurse
    have hStops := hSpawn (.str "den") _ _ _ rfl
    have hFirst : firstUnfit (r.catalogFor 1) (fun _ => [])
        (tagged [Arena.health, Arena.health] [Arena.physics]) = (1 : Nat) :=
      firstUnfit_eq (by decide +kernel) (by decide +kernel)
    rw [hFirst] at hStops
    obtain ⟨k, t, cause, r', hAt, hKind, hAct⟩ := hStops.rejected 1 rfl (ENat.natCast_lt_top 1)
    cases hAt
    have hAttempts : (spawn.attempts 4 r : ℕ∞) = (2 : Nat) := by
      rw [hStops.attempts]
      rfl
    exact ⟨_, cause, r', hAct, hKind, Nat.cast_inj.1 hAttempts⟩

end Factory

end WorldForge

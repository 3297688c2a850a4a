import WorldForge.Proofs.Factory.Documented
import WorldForge.Proofs.Factory.FirstFailure

/-!
# A factory's own steps

An operation that no budget is handed over for is paid from the factory's own number of steps, and
every such operation has all of them. So nothing but this number stands between a world that could
be made without a limit and its parts: with no more parts than steps it is made, and with more it
fails for want of a step. A number of steps that is not below zero always makes a budget, so that
what is raised is never an error of a bad value, unless it is one of the sink.

Main results:

* `Work.Ready.exhausted_of_forM` — registrations of fit parts fail only for want of a step;
* `Work.exhausted_of_makeWorld` — so does the making of a world that could be made without a limit;
* `Factory.Spends.spawnsWithin` — how many parts a spawn can register.
-/

namespace WorldForge

/-! ## Fit parts -/

section Fitness

variable {c : Catalog} {components systems : List Value} {recipe : Recipe} {l : Ledger}
  {name : Value} {p : Budget}

/-- Whether a spawn can succeed is a matter of its parts and of the steps for them. -/
theorem Work.canSpawn_iff :
    Work.CanSpawn c l recipe name components systems p ↔
      Work.CanSpawn c l recipe name components systems .unmetered ∧
        p.Covers (components.length + systems.length) := by
  have hFree : Budget.unmetered.Covers (components.length + systems.length) := by
    intro left hLeft
    cases hLeft
  exact ⟨fun h => ⟨{ h with covered := hFree }, h.covered⟩,
    fun ⟨h, hCovers⟩ => { h with covered := hCovers }⟩

/-- Parts of a spawn that can succeed do not repeat, each among those of its kind. -/
theorem Work.CanSpawn.nodup (h : Work.CanSpawn c l recipe name components systems p) :
    ((tagged components systems).map fun q => (q.1, q.2.key)).Nodup := by
  have hKind : ∀ (k : PartKind) (ids : List Value), (ids.map Value.key).Nodup →
      ((ids.map (Prod.mk k)).map fun q : Part => (q.1, q.2.key)).Nodup := by
    intro k ids hDistinct
    rw [List.map_map]
    show (ids.map (Prod.mk k ∘ Value.key)).Nodup
    rw [← List.map_map]
    exact hDistinct.map (Prod.mk_right_injective k)
  rw [tagged, List.map_append, List.nodup_append]
  -- parts of different kinds are never the same
  refine ⟨hKind _ _ h.componentsDistinct, hKind _ _ h.systemsDistinct, ?_⟩
  intro a ha b hb hSame
  simp only [List.map_map, List.mem_map, Function.comp_apply] at ha hb
  obtain ⟨t, -, rfl⟩ := ha
  obtain ⟨t', -, rfl⟩ := hb
  cases (Prod.mk.inj hSame).1

/-- The parts of a spawn that can succeed are fit for a world that has none. -/
theorem Work.CanSpawn.fit (h : Work.CanSpawn c l recipe name components systems p) (i : Nat) :
    ¬Unfit c (fun _ => []) (tagged components systems) i := by
  intro hUnfit
  obtain ⟨q, hAt, hNot | hTaken | ⟨m, hEarlier, q', hThere, hKind, hSame⟩⟩ := unfit_iff.1 hUnfit
  · refine hNot ?_
    rcases List.mem_append.1 (List.mem_of_getElem? hAt) with hMem | hMem
    · obtain ⟨t, ht, rfl⟩ := List.mem_map.1 hMem
      exact h.componentsDeclared t ht
    · obtain ⟨t, ht, rfl⟩ := List.mem_map.1 hMem
      exact h.systemsDeclared t ht
  · cases hTaken
  · have hApart := List.nodup_iff_getElem?_ne_getElem?.1 h.nodup m i hEarlier
      (by simpa using hUnfit.lt_length)
    rw [List.getElem?_map, List.getElem?_map, hAt, hThere] at hApart
    exact hApart (by rw [Option.map_some, Option.map_some, hKind, hSame])

end Fitness

namespace Work

variable {c : Catalog} {x : InstanceHandle} {w : World} {p : Budget} {b d : Workbench}
  {xs : List Part} {recipe : Recipe} {name : Value} {components systems : List Value} {e : Error}

/-- **Registrations of fit parts fail only for want of a step.** -/
theorem Ready.exhausted_of_forM (h : Ready c x w p b) (hc : c.Consistent)
    (hFit : ∀ i, ¬Unfit c w.templateKeys xs i)
    (hFails : (xs.forM fun q => registerPart c x q.1 q.2) b = .error e d) :
    ∃ limit, p.limit = some limit ∧ e = .budget (.exhausted limit limit.toInt) := by
  -- each part that is registered leaves a world in which it is taken, and a purse that has paid
  induction xs generalizing b w p with
  | nil => cases hFails
  | cons q rest ih =>
    obtain ⟨k, t⟩ := q
    have hTaken := registerPart_isOk_iff (k := k) (t := t) h.spare hc h.found h.faithful h.purse
    rcases bind_eq_error_iff.1 hFails with hFirst | ⟨_, b₁, hFirst, hRest⟩
    · have hPart : c.Declares k t ∧ t.key ∉ w.templateKeys k := by
        have hZero := hFit 0
        rwa [unfit_cons_zero_iff, not_or, not_not] at hZero
      have hShort : ¬p.Covers 1 := by
        intro hOne
        obtain ⟨b', hOk⟩ := hTaken.2 ⟨hOne, hPart⟩
        cases hFirst.symm.trans hOk
      -- the step is not there, so that it is not the part that is refused
      rcases registerPart_eq_error hFirst with ⟨-, hPay⟩ | ⟨q, -, hPay, -⟩
      · rw [h.purse] at hPay
        obtain ⟨limit, hLimit, -, hError⟩ := Budget.eq_exhausted_of_payStep h.within hPay
        exact ⟨limit, hLimit, hError⟩
      · rw [h.purse] at hPay
        obtain ⟨p', q', hp, hCharge, -⟩ := Purse.payStep_eq_ok_iff.1 hPay
        cases hp
        exact absurd (Budget.covers_one_iff.2 ⟨q', hCharge⟩) hShort
    · obtain ⟨hOne, -⟩ := hTaken.1 ⟨b₁, hFirst⟩
      obtain ⟨w₁, hNext, hKeys⟩ := h.next hFirst hOne
      have hFitRest : ∀ i, ¬Unfit c w₁.templateKeys rest i := by
        intro i
        rw [hKeys, ← unfit_cons_succ_iff]
        exact hFit (i + 1)
      obtain ⟨limit, hLimit, hError⟩ := ih hNext hFitRest hRest
      exact ⟨limit, hLimit, hError⟩

/-- **A world that could be made without a limit** fails to be made only for want of a step. -/
theorem exhausted_of_makeWorld (hSpare : ∀ call, Fault.Spare b.site.faults call)
    (hc : c.Consistent) (hPurse : b.purse = .budget p) (hZero : p.Covers 0)
    (hCan : CanSpawn c b.site.ledger recipe name components systems .unmetered)
    (hFails : (ends (makeWorld c recipe name components systems) b).1 = .error e) :
    ∃ x limit, p.limit = some limit ∧
      e = .registrationFailed name x (.budget (.exhausted limit limit.toInt)) := by
  obtain ⟨x, b₁, hDone⟩ := hCan.exists_deployed hSpare hc
  obtain ⟨w, hReady, rfl, hBare⟩ := ready_of_deployWorld hSpare hPurse hZero hDone
  rw [ends_makeWorld hDone, ends_registerParts rfl hReady.found (hReady.spare _) rfl rfl] at hFails
  -- the parts would all be taken if they were paid for, so that only the purse can have failed
  cases hRun : (tagged components systems).forM
    (fun q => registerPart c w.handle q.1 q.2) b₁ with
  | ok _ d =>
    rw [ends_of_ok hRun] at hFails
    cases hFails
  | error e₀ d =>
    rw [ends_of_error hRun] at hFails
    obtain ⟨limit, hLimit, rfl⟩ :=
      hReady.exhausted_of_forM hc (fun i => by rw [hBare]; exact hCan.fit i) hRun
    cases hFails
    exact ⟨w.handle, limit, hLimit, rfl⟩

end Work

/-! ## Factories -/

/-- The number of steps in settings, if there is one, is enough for a number of parts. -/
def Settings.Affords (t : Settings) (parts : Nat) : Prop :=
  ∀ n, t.stepBudget = some n → (parts : Int) ≤ n

namespace Factory

variable {κ : Type} {run : κ → Act κ Unit} {i j : Nat} {r : Realm κ} {t : Settings}
  {handed : List InstanceHandle} {recipe : Recipe} {name : Value} {n : Int}
  {components systems : List Value}

/-- **A factory spends what settings say**: its own number of steps is theirs, and a budget can be
made of it. -/
structure Spends (t : Settings) (f : Factory) : Prop where
  steps : f.stepBudget = (t.stepBudget.map Value.int).getD .null
  nonneg : ∀ n, t.stepBudget = some n → 0 ≤ n

/-- The own steps of a factory are none, or they are a number that is not below zero. -/
theorem Spends.null_or_nonneg {f : Factory} (h : Spends t f) :
    f.stepBudget = .null ∨ ∃ n, f.stepBudget.numeral? = some n ∧ 0 ≤ n.toInt := by
  rw [h.steps]
  cases hSteps : t.stepBudget with
  | none => exact .inl rfl
  | some n => exact .inr ⟨.number n, rfl, h.nonneg n hSteps⟩

/-- **What pays for an operation** that no budget is handed over for: all the own steps. -/
theorem Spends.purse_eq {f : Factory} (h : Spends t f) (r : Realm κ) :
    f.purse .null r = .ok (.budget ⟨t.stepBudget.map .number, 0⟩) r := by
  have hValue : Budget.ofValue f.stepBudget = .ok ⟨t.stepBudget.map .number, 0⟩ := by
    rw [h.steps]
    cases hSteps : t.stepBudget with
    | none => rfl
    | some n =>
      have hn : ¬(Numeral.number n).toInt < 0 := Int.not_lt.2 (h.nonneg n hSteps)
      have hLimit : Budget.ofLimit? (some (.number n)) = .ok ⟨some (.number n), 0⟩ := by
        rw [Budget.ofLimit?, if_neg hn]
      exact (Budget.ofValue_of_numeral? rfl).trans hLimit
  simp only [purse, hValue]
  rfl

/-- The budget of all the own steps covers what they are enough for. -/
theorem covers_own_iff {parts : Nat} :
    (⟨t.stepBudget.map .number, 0⟩ : Budget).Covers parts ↔ t.Affords parts := by
  rw [Budget.covers_iff]
  cases hSteps : t.stepBudget <;> simp [Settings.Affords, hSteps, Numeral.toInt]

/-- A factory that spends by settings can afford to register nothing: the steps that settings give
are never below zero. -/
theorem Spends.affords_zero {f : Factory} (h : Spends t f) : t.Affords 0 := h.nonneg

/-- **What comes of a spawn** with parts that is paid from the own steps, on a ledger without
faults. If it succeeds, there were steps enough. With steps enough it succeeds, unless the sink does
not hear of it. And without, it fails for want of a step, if it could succeed without a limit. -/
structure SpawnsWithin (t : Settings) (run : κ → Act κ Unit) (i j : Nat) (r : Realm κ)
    (recipe : Recipe) (name : Value) (components systems : List Value) : Prop where
  affords : ∀ x r', spawn run i name components systems .null r = .ok x r' →
    Work.CanSpawn (r.catalogFor j) (r.ledger j).ledger recipe name components systems
        .unmetered ∧
      t.Affords (components.length + systems.length)
  succeeds : Work.CanSpawn (r.catalogFor j) (r.ledger j).ledger recipe name components systems
      .unmetered → t.Affords (components.length + systems.length) →
    (∃ x r', spawn run i name components systems .null r = .ok x r') ∨
      ∃ e, Operation.Unheard run i j (.spawn name components systems .null) r e
  exhausted : Work.CanSpawn (r.catalogFor j) (r.ledger j).ledger recipe name components systems
      .unmetered → ∀ n, t.stepBudget = some n → n < (components.length + systems.length : Nat) →
    ∃ x r', spawn run i name components systems .null r =
      .error (.registrationFailed name x (.budget (.exhausted (.number n) n))) r'

/-- Where an event log at most is told, nothing but the steps stands in the way of a spawn. -/
theorem SpawnsWithin.exists_ok (h : SpawnsWithin t run i j r recipe name components systems)
    (hSink : (r.factory i).sink = .null ∨
      ∃ k, (r.factory i).sink = .object .eventLog k ∧ (r.sink k).script = [])
    (hCan : Work.CanSpawn (r.catalogFor j) (r.ledger j).ledger recipe name components systems
      .unmetered) (hAffords : t.Affords (components.length + systems.length)) :
    ∃ x r', spawn run i name components systems .null r = .ok x r' := by
  rcases h.succeeds hCan hAffords with hSpawn | ⟨e, hUnheard⟩
  · exact hSpawn
  · exact (hUnheard.elim_quiet hSink).elim

section Spawns

variable (hSpends : Spends t (r.factory i)) (hFaults : (r.ledger j).faults = [])
  (hs : Ledger.Sound (r.catalogFor j) (r.ledger j).ledger handed)
include hSpends hFaults hs

/-- What can be made of the own steps. -/
theorem Spends.makeWorld_isOk_iff :
    (∃ x b, Work.makeWorld (r.catalogFor j) recipe name components systems
      ⟨r.site j, .budget ⟨t.stepBudget.map .number, 0⟩, []⟩ = .ok x b) ↔
        Work.CanSpawn (r.catalogFor j) (r.ledger j).ledger recipe name components systems
            .unmetered ∧
          t.Affords (components.length + systems.length) := by
  rw [← covers_own_iff, ← Work.canSpawn_iff]
  exact Work.makeWorld_isOk_iff (Realm.spare_of_faults hFaults) hs.catalog rfl
    (covers_own_iff.2 hSpends.affords_zero)

/-- **How many parts a spawn can register**: as many as there are own steps. -/
theorem Spends.spawnsWithin (hLedger : (r.factory i).ledger = .object .ledger j)
    (hRecipe : (r.factory i).configuration = .holding recipe) (run : κ → Act κ Unit) (name : Value)
    (components systems : List Value) :
    SpawnsWithin t run i j r recipe name components systems := by
  have hMake : (∃ x b, Work.makeWorld (r.catalogFor j) recipe name components systems
      ⟨r.site j, .budget ⟨t.stepBudget.map .number, 0⟩, []⟩ = .ok x b) ↔ _ :=
    hSpends.makeWorld_isOk_iff hFaults hs
  have hPurse := hSpends.purse_eq r
  -- what comes of the spawn is what comes of the making of its world
  refine ⟨fun x r' hSpawn => ?_, fun hCan hAffords => ?_, fun hCan n hSteps hMore => ?_⟩
  · exact hMake.1 (makeWorld_of_spawn hLedger hRecipe hPurse hSpawn)
  · obtain ⟨x, b, hMade⟩ := hMake.2 ⟨hCan, hAffords⟩
    rcases Operation.ok_or_unheard (o := .spawn name components systems .null) hLedger hRecipe
      hPurse (fun k hk => by cases hk) (.inl rfl) (ends_of_ok hMade) run with
      ⟨r', hSpawn⟩ | hUnheard
    · exact .inl ⟨x, r', hSpawn⟩
    · exact .inr hUnheard
  · cases hWork : Work.makeWorld (r.catalogFor j) recipe name components systems
      ⟨r.site j, .budget ⟨t.stepBudget.map .number, 0⟩, []⟩ with
    | ok x b => exact absurd ((hMake.1 ⟨x, b, hWork⟩).2 n hSteps) (Int.not_le.2 hMore)
    | error e b =>
      obtain ⟨r', hFails, -⟩ := Operation.act_of_work_error
        (o := .spawn name components systems .null) hLedger hs hFaults hRecipe hPurse
        (fun k hk => by cases hk) (ends_of_error hWork) run
      obtain ⟨x, limit, hLimit, rfl⟩ := Work.exhausted_of_makeWorld
        (Realm.spare_of_faults hFaults) hs.catalog rfl (covers_own_iff.2 hSpends.affords_zero) hCan
        (congrArg Prod.fst (ends_of_error hWork))
      rw [hSteps] at hLimit
      cases hLimit
      exact ⟨x, r', hFails⟩

end Spawns

end Factory

end WorldForge

import WorldForge.Proofs.Factory.Attempts
import WorldForge.Proofs.Factory.FirstError

/-!
# What operations are documented to raise

An operation is documented to raise errors of a few kinds (`Operation.documented`). What stops the
work of an operation is an error of its ledger or of its budget, and it is raised in a wrap: a world
is not deployed, or a registration fails. So the error is of one of these kinds, if the ledger
raises errors of ledgers only. Undoing adds a kind of its own, and the sink is told at the end.

There is one gap. A factory takes any number for its steps, and finds out only when it has to pay
that no budget can be made of a number below zero. What it raises then is no documented error.

Main results:

* `Work.within_of_makeWorld` — what is raised when a world is made;
* `Operation.ok_or_unheard` — an operation succeeds as its work does, or its sink does not hear of
  it;
* `Operation.error_cases` — an error is documented, or comes of a number below zero, or of the sink;
* `Operation.unheard_of_badValue` — an error of a bad value is one of the sink, if there is
  something to pay with;
* `Operation.raises_documented` — so all errors are documented but those of a number below zero.
-/

namespace WorldForge

variable {κ : Type}

/-! ## The work -/

namespace Work

variable {c : Catalog} {recipe : Recipe} {name : Value} {components systems : List Value}
  {x : InstanceHandle} {b d : Workbench} {e : Error}

/-- A world that is not deployed fails as a deployment. -/
theorem within_of_deployWorld (hLawful : b.site.Lawful) (hc : c.Consistent) (hSorted : c.Sorted)
    (h : deployWorld c recipe name b = .error e d) : e.within .deploymentFailed = true := by
  obtain ⟨-, e₀, s, hSite, rfl⟩ := deployWorld_eq_error h
  have hRefused : e₀.within .ledger = true := by
    rcases bind_eq_error_iff.1 hSite with hCall | ⟨_, s₁, -, hEnd⟩
    · rw [Catalog.deploymentFlaw?_of_kinds hc (hSorted _)] at hCall
      exact hLawful.within_of_callBy rfl (fun _ h => (Ledger.told_of_deploy_error h).1) hCall
    · cases hEnd
  rw [if_pos hRefused]
  rfl

/-- **The making of a world fails** as its deployment or as a registration in it. -/
theorem within_of_makeWorld (hLawful : b.site.Lawful) (hc : c.Consistent) (hSorted : c.Sorted)
    (hPurse : ∃ p, b.purse = .budget p) (hKeys : ∀ t ∈ components ++ systems, t.changeable? = none)
    (h : makeWorld c recipe name components systems b = .error e d) :
    e.within .deploymentFailed = true ∨ e.within .registrationFailed = true := by
  rcases bind_eq_error_iff.1 h with hDeploy | ⟨x, b₁, hDeploy, hRest⟩
  · exact .inl (within_of_deployWorld hLawful hc hSorted hDeploy)
  -- the registrations meet the faults that the deployment has left, and are paid as it would be
  · obtain ⟨-, -, hSame, hFaults, -⟩ := deployWorld_spec hDeploy
    have hLawful₁ : b₁.site.Lawful := by
      rw [Site.Lawful, hFaults]
      exact hLawful.met .deploy
    rcases bind_eq_error_iff.1 hRest with hParts | ⟨_, b₂, -, hEnd⟩
    · obtain ⟨e₀, hRun, rfl⟩ := wrapping_eq_error_iff.1 hParts
      have hFailed : e₀.within .registration = true :=
        within_of_registerParts hLawful₁ hc hSorted (hSame ▸ hPurse) rfl hKeys hRun
      rw [if_pos hFailed]
      exact .inr rfl
    · cases hEnd

end Work

/-! ## Operations -/

/-- **A factory as its documentation takes it.** Its ledger has come about by calls, has only
declarations of the kinds, and raises errors of ledgers only; and its number of steps is any
number. -/
structure Factory.Lawful (r : Realm κ) (i j : Nat) (handed : List InstanceHandle) : Prop where
  ledger : (r.factory i).ledger = .object .ledger j
  reached : Ledger.Reached (r.catalogFor j) (r.ledger j).ledger handed
  sorted : (r.catalogFor j).Sorted
  faults : (r.site j).Lawful
  steps : (r.factory i).stepBudget = .null ∨ ∃ n, (r.factory i).stepBudget.numeral? = some n

namespace Operation

/-- What a caller may hand over to pay for an operation: a budget, or null. -/
def Pays (budget : Value) : Prop := budget = .null ∨ ∃ k, budget = .object .budget k

/-- **An operation that is asked for as it should be**: its parts can be looked up, and so can its
world; and what is handed over to pay for it is a budget or null. -/
inductive Proper : Operation → Prop
  | spawn {name budget : Value} {components systems : List Value}
      (hKeys : ∀ t ∈ components ++ systems, t.changeable? = none) (hPays : Pays budget) :
      Proper (.spawn name components systems budget)
  | request {name budget : Value} {components systems : List Value}
      (hKeys : ∀ t ∈ components ++ systems, t.changeable? = none) (hPays : Pays budget) :
      Proper (.request (.request name components systems) budget)
  | deploy {name : Value} : Proper (.deploy name)
  | registerAll {world budget : Value} {components systems : List Value}
      (hWorld : world.changeable? = none)
      (hKeys : ∀ t ∈ components ++ systems, t.changeable? = none) (hPays : Pays budget) :
      Proper (.registerAll world (.list components) (.list systems) budget)

/-- The kinds of errors that an operation is documented to raise. -/
def documented : Operation → List ErrorKind
  | spawn .. | request .. => [.notInitialized, .deploymentFailed, .registrationFailed, .rollback]
  | deploy _ => [.notInitialized, .deploymentFailed, .rollback]
  | registerAll .. => [.notInitialized, .registration, .rollback]

/-- An operation is documented to raise an error if the error is of one of the kinds. -/
def Documents (o : Operation) (e : Error) : Prop := ∃ k ∈ o.documented, e.within k = true

instance (o : Operation) (e : Error) : Decidable (o.Documents e) :=
  inferInstanceAs (Decidable (∃ k ∈ o.documented, e.within k = true))

/-- **A factory is short of steps** for an operation if it has to pay for it from a number of steps
below zero. -/
def Short (f : Factory) (n : Numeral) : Operation → Prop
  | spawn _ _ _ budget | request _ budget | registerAll _ _ _ budget =>
    budget = .null ∧ f.stepBudget.numeral? = some n ∧ n.toInt < 0
  | deploy _ => False

variable {run : κ → Act κ Unit} {i j : Nat} {o : Operation} {r r' : Realm κ} {recipe : Recipe}
  {c : Catalog} {handed : List InstanceHandle} {e : Error} {b d : Workbench} {f : Factory}
  {n : Numeral}

/-- A proper operation is handed no budget, or one that is a budget and not something in place of
it. -/
theorem Proper.pays (h : o.Proper) : o.budget = .null ∨ ∃ k, o.budget = .object .budget k := by
  cases h with
  | spawn hKeys hPays | request hKeys hPays | registerAll hWorld hKeys hPays => exact hPays
  | deploy => exact .inl rfl

/-- All operations of a factory tell in their documentation that they need it to be set up. -/
theorem documents_notSetUp (o : Operation) : o.Documents (.configuration .notSetUp) := by
  refine ⟨.notInitialized, ?_, rfl⟩
  cases o <;> exact .head _

/-- All operations of a factory tell in their documentation that a rollback may fail. -/
theorem documents_rollbackFailed (o : Operation) (failures : List Error) (cause : Option Error) :
    o.Documents (.rollbackFailed failures cause) := by
  refine ⟨.rollback, ?_, rfl⟩
  cases o <;> simp [documented]

/-- **What stops the work of an operation** is documented: it is an error of the ledger, or of the
budget, and both are wrapped into the family that the operation names. -/
theorem Proper.documents_of_work (hProper : o.Proper) (hLawful : b.site.Lawful)
    (hc : c.Consistent) (hSorted : c.Sorted) (hPurse : ∃ p, b.purse = .budget p)
    (h : o.work recipe c b = .error e d) : o.Documents e := by
  cases hProper with
  | spawn hKeys hPays | request hKeys hPays =>
    rcases Work.within_of_makeWorld hLawful hc hSorted hPurse hKeys h with hDeploy | hParts
    · exact ⟨.deploymentFailed, by simp [documented], hDeploy⟩
    · exact ⟨.registrationFailed, by simp [documented], hParts⟩
  | deploy =>
    exact ⟨.deploymentFailed, by simp [documented],
      Work.within_of_deployWorld hLawful hc hSorted h⟩
  | registerAll hWorld hKeys hPays =>
    exact ⟨.registration, by simp [documented],
      Work.within_of_registerParts hLawful hc hSorted hPurse hWorld hKeys h⟩

/-! ### What pays -/

/-- No budget can be made of a number of steps below zero. -/
theorem Short.purse_eq (h : o.Short f n) (r : Realm κ) :
    o.purse f r = .error (.budget (.negativeLimit n)) r := by
  -- without a budget the number of steps is looked at, and it is negative
  have hNone : ∀ budget : Value, budget = .null ∧ f.stepBudget.numeral? = some n ∧ n.toInt < 0 →
      f.purse budget r = .error (.budget (.negativeLimit n)) r := by
    rintro budget ⟨rfl, hSteps, hNegative⟩
    have hValue : Budget.ofValue f.stepBudget = .error (.negativeLimit n) := by
      rw [Budget.ofValue_of_numeral? hSteps, Budget.ofLimit?, if_pos hNegative]
    simp only [Factory.purse, hValue]
    rfl
  cases o with
  | deploy name => exact h.elim
  | _ => exact hNone _ h

/-- An operation is short of steps only if the factory's own number of steps is a number below
zero. -/
theorem Short.negative (h : o.Short f n) : f.stepBudget.numeral? = some n ∧ n.toInt < 0 := by
  cases o with
  | deploy name => exact h.elim
  | _ => exact h.2

/-- **If there is nothing to pay with**, a factory is short of steps. -/
theorem short_of_purse_eq_error {e₀ : BudgetError}
    (hPays : o.budget = .null ∨ ∃ k, o.budget = .object .budget k)
    (hSteps : f.stepBudget = .null ∨ ∃ n, f.stepBudget.numeral? = some n)
    (h : o.purse f r = .error (.budget e₀) r) : ∃ n, o.Short f n ∧ e₀ = .negativeLimit n := by
  have hNone : ∀ budget : Value, (budget = .null ∨ ∃ k, budget = .object .budget k) →
      f.purse budget r = .error (.budget e₀) r → ∃ n, (budget = .null ∧
        f.stepBudget.numeral? = some n ∧ n.toInt < 0) ∧ e₀ = .negativeLimit n := by
    rintro budget (rfl | ⟨k, rfl⟩) hPurse
    -- the factory pays itself, and no budget can be made of its number of steps
    · have hValue : Budget.ofValue f.stepBudget = .error e₀ := by
        cases hMade : Budget.ofValue f.stepBudget <;> simp only [Factory.purse, hMade] at hPurse <;>
          cases hPurse
        rfl
      rcases hSteps with hNull | ⟨n, hn⟩
      · rw [hNull] at hValue
        cases hValue
      · rw [Budget.ofValue_of_numeral? hn, Budget.ofLimit?] at hValue
        split at hValue <;> cases hValue
        exact ⟨n, ⟨rfl, hn, ‹_›⟩, rfl⟩
    · cases hPurse
  cases o with
  | deploy name => cases h
  | _ => exact hNone _ hPays h

/-! ### Unheard operations -/

/-- **An operation goes unheard** with an error if its work has come out well, and the sink raises
the error when it is told of what has come of it. -/
inductive Unheard (run : κ → Act κ Unit) (i j : Nat) (o : Operation) (r : Realm κ) (e : Error) :
    Prop
  | intro {recipe : Recipe} {p : Purse} {a : o.Result} {b : Workbench} {n : Nat} {r₁ r₂ : Realm κ}
      (hRecipe : (r.factory i).configuration = .holding recipe)
      (hPurse : o.purse (r.factory i) r = .ok p r)
      (hWork : ends (o.work recipe (r.catalogFor j)) ⟨r.site j, p, []⟩ = (.ok a, b))
      (hWorked : r.Worked j o.budget n b.site r₁)
      (hTold : Sink.deliver run (r.factory i).sink (o.events a) r₁ = .error e r₂)

/-- An event log hears of everything. -/
theorem Unheard.elim_quiet (h : Unheard run i j o r e)
    (hSink : (r.factory i).sink = .null ∨
      ∃ k, (r.factory i).sink = .object .eventLog k ∧ (r.sink k).script = []) : False := by
  obtain ⟨-, -, -, hWorked, hTold⟩ := h
  cases o with
  | registerAll world components systems budget =>
    cases hTold.symm.trans (Sink.deliver_nil ..)
  | _ => cases hTold.symm.trans (Sink.deliver_of_sinks hSink hWorked.sinks _)

/-- **An operation succeeds as its work does**, or it goes unheard. -/
theorem ok_or_unheard {p : Budget} {a : o.Result}
    (hLedger : (r.factory i).ledger = .object .ledger j)
    (hRecipe : (r.factory i).configuration = .holding recipe)
    (hPurse : o.purse (r.factory i) r = .ok (.budget p) r)
    (hSame : ∀ k, o.budget = .object .budget k → p = r.budget k)
    (hBudget : o.budget = .null ∨ ∃ k, o.budget = .object .budget k)
    (hWork : ends (o.work recipe (r.catalogFor j)) ⟨r.site j, .budget p, []⟩ = (.ok a, b))
    (run : κ → Act κ Unit) :
    (∃ r', o.act run i r = .ok a r') ∨ ∃ e, Unheard run i j o r e := by
  obtain ⟨hPaid, hSize⟩ := purse_of_work hLedger hRecipe hPurse hWork
  obtain ⟨r₁, hWorked, -, hAct⟩ :=
    act_eq hLedger hRecipe hPurse ⟨p, rfl, hSame⟩ hWork hSize hPaid
  -- after work that has succeeded, only the sink can raise an error
  cases hTold : Sink.deliver run (r.factory i).sink (o.events a) r₁ with
  | ok _ r₂ =>
    obtain ⟨entries, hFarewell⟩ := farewell_eq ⟨_, hPaid⟩ hBudget a r₂
    refine .inl ⟨_, (hAct run).trans ((bind_of_ok ?_).trans hFarewell)⟩
    exact (Factory.conclude_eq_ok_iff hLedger).2 ⟨rfl, hTold⟩
  | error e r₂ => exact .inr ⟨e, .intro hRecipe hPurse hWork hWorked hTold⟩

/-! ### What is raised -/

/-- **Where an error comes from** that an operation raises: there is nothing to pay with, the
undoing has failed, the work has raised it, or the sink. -/
inductive Origin (run : κ → Act κ Unit) (i j : Nat) (recipe : Recipe) (o : Operation) (r : Realm κ)
    (e : Error) (r' : Realm κ) : Prop
  | unpaid {e₀ : BudgetError} (hPurse : o.purse (r.factory i) r = .error (.budget e₀) r)
      (hError : e = .budget e₀) (hSame : r' = r)
  | undoing {failures : List Error} {cause : Option Error}
      (hError : e = .rollbackFailed failures cause)
  | work {p : Budget} {b : Workbench} (hPurse : o.purse (r.factory i) r = .ok (.budget p) r)
      (hWork : o.work recipe (r.catalogFor j) ⟨r.site j, .budget p, []⟩ = .error e b)
  | sink (hUnheard : Unheard run i j o r e)

/-- **Where the error of an operation comes from**: from its purse, which could not be made, from
its work, from the sink, or from a rollback that failed. The factory has to be set up, on a ledger
with a sound history. -/
theorem origin_of_error (hLedger : (r.factory i).ledger = .object .ledger j)
    (hRecipe : (r.factory i).configuration = .holding recipe)
    (hs : Ledger.Sound (r.catalogFor j) (r.ledger j).ledger handed)
    (hPays : o.budget = .null ∨ ∃ k, o.budget = .object .budget k)
    (hFails : o.act run i r = .error e r') : Origin run i j recipe o r e r' := by
  rcases act_eq_error hLedger hRecipe hs hPays hFails with
    ⟨e₀, hUnpaid, rfl, rfl⟩ | ⟨p, b, res, new?, n, r₁, hPurse, -, hWork, -, hWorked, hConclude⟩
  · exact .unpaid hUnpaid rfl rfl
  obtain ⟨trigger, r₂, hTriggered, hAbandon⟩ := Factory.conclude_eq_error hConclude
  obtain ⟨os, s, hUnwound⟩ :=
    exists_unwound (fun r s => ⟨_, Site.report_eq r s⟩) b.journal (r₂.site j)
  rw [Factory.abandon_of_unwound hLedger hUnwound] at hAbandon
  cases hAbandon
  by_cases hRaised : raised os = []
  -- where the undoing raises nothing, what has triggered it is raised
  · rw [hRaised, afterRollback_nil]
    cases hTriggered with
    | delivery hTold => exact .sink (.intro hRecipe hPurse hWork hWorked hTold)
    | work =>
      rcases purse_cases (r.factory i) r hPays with ⟨_, hNone⟩ | ⟨_, hBudget, q, rfl, -⟩
      · cases hPurse.symm.trans hNone
      · cases hPurse.symm.trans hBudget
        exact .work hPurse (eq_error_of_ends hWork)
  · rw [afterRollback_of_ne_nil trigger hRaised]
    exact .undoing rfl

/-- **What an operation raises**, whoever is told of it: a documented error, or the error of a
number of steps below zero, or one that the sink has raised. -/
theorem error_cases (h : Factory.Lawful r i j handed) (hProper : o.Proper)
    (hFails : o.act run i r = .error e r') :
    o.Documents e ∨
      (∃ n, o.Short (r.factory i) n ∧ e = .budget (.negativeLimit n) ∧ r' = r) ∨
      Unheard run i j o r e := by
  rcases hConfiguration : (r.factory i).configuration with ⟨_ | recipe⟩
  · rw [act_of_blank hConfiguration] at hFails
    cases hFails
    exact .inl (documents_notSetUp o)
  -- an error comes from the purse, from the work, from the undoing or from the sink
  cases origin_of_error h.ledger hConfiguration h.reached.sound hProper.pays hFails with
  | unpaid hUnpaid hError hSame =>
    obtain ⟨n, hShort, rfl⟩ := short_of_purse_eq_error hProper.pays h.steps hUnpaid
    exact .inr (.inl ⟨n, hShort, hError, hSame⟩)
  | undoing hError =>
    rw [hError]
    exact .inl (documents_rollbackFailed ..)
  | @work p b hPurse hWork =>
    exact .inl (hProper.documents_of_work (b := ⟨r.site j, .budget p, []⟩) h.faults
      h.reached.sound.catalog h.sorted ⟨p, rfl⟩ hWork)
  | sink hUnheard => exact .inr (.inr hUnheard)

/-! ### Bad values -/

/-- The wrap of an operation is no error of a bad value. -/
theorem within_around {x : InstanceHandle} (h : e.within .badValue = false) :
    (o.around x e).within .badValue = false := by
  cases o with
  | spawn name cs ss budget => rfl
  | request given budget =>
    cases given with
    | request name cs ss => rfl
    | _ => exact h
  | _ => exact h

/-- What an operation raises for a stage is no error of a bad value, unless that of the stage is. -/
theorem within_raise {x : InstanceHandle} {stage : Work.Stage}
    (h : e.within .badValue = false) : (o.raise recipe x stage e).within .badValue = false := by
  have hRaised : (Work.Stage.raised recipe stage e).within .badValue = false := by
    cases stage with
    | deploy name | dispatcher world | register y k t =>
      rw [Work.Stage.raised]
      split
      · rfl
      · exact h
    | pay | notIterable parts | lacking given feature => exact h
  by_cases hDeploy : ∃ name, stage = .deploy name
  · obtain ⟨name, rfl⟩ := hDeploy
    rw [raise_deploy]
    exact hRaised
  -- once a world is there, an error of registrations gets a wrap of its own
  · rw [raise_of_ne_deploy fun name hEq => hDeploy ⟨name, hEq⟩]
    split
    · exact within_around hRaised
    · exact hRaised

/-- **The work of an operation raises no error of a bad value** where no fault does. -/
theorem within_of_work {p : Budget} {site : Site}
    (hFaults : ∀ f ∈ site.faults, f.error.within .badValue = false)
    (h : o.work recipe c ⟨site, .budget p, []⟩ = .error e d) : e.within .badValue = false := by
  have hStaged := staged_work o recipe c ⟨site, .budget p, []⟩
  rw [Work.Staged, ends_of_error h] at hStaged
  obtain ⟨done, stage, later, e₀, b₁, -, hDone, hRaised, rfl⟩ := hStaged.exists_first
  obtain ⟨hPurse, hErrors⟩ := Work.errors_of_forM (b := ⟨site, .budget p, []⟩) ⟨p, rfl⟩ hDone
  -- the stages before the first that fails have left the faults as they were, but for their counts
  have hOld : ∀ e ∈ site.faults.map Fault.error, e.within .badValue = false :=
    List.forall_mem_map.2 hFaults
  rw [← hErrors] at hOld
  refine within_raise ?_
  rcases Work.foreign_badValue.error_cases (List.forall_mem_map.1 hOld) hPurse hRaised with
    ⟨-, limit, used, rfl⟩ | ⟨-, hOther⟩
  · rfl
  · exact hOther

/-- **An error of a bad value is one of the sink**, where no fault raises such errors and a budget
can be made of the number of steps that the factory has. -/
theorem unheard_of_badValue (hLedger : (r.factory i).ledger = .object .ledger j)
    (hs : Ledger.Sound (r.catalogFor j) (r.ledger j).ledger handed)
    (hFaults : ∀ f ∈ (r.ledger j).faults, f.error.within .badValue = false)
    (hSteps : (r.factory i).stepBudget = .null ∨
      ∃ n, (r.factory i).stepBudget.numeral? = some n ∧ 0 ≤ n.toInt)
    (hPays : o.budget = .null ∨ ∃ k, o.budget = .object .budget k)
    (hFails : o.act run i r = .error e r') (hBad : e.within .badValue = true) :
    Unheard run i j o r e := by
  rcases hConfiguration : (r.factory i).configuration with ⟨_ | recipe⟩
  · rw [act_of_blank hConfiguration] at hFails
    cases hFails
    cases hBad
  cases origin_of_error hLedger hConfiguration hs hPays hFails with
  | unpaid hUnpaid hError hSame =>
    -- a purse is refused only if the own steps are below zero, and here they are not
    have hNumber : (r.factory i).stepBudget = .null ∨
        ∃ n, (r.factory i).stepBudget.numeral? = some n :=
      hSteps.imp_right fun ⟨n, hn, _⟩ => ⟨n, hn⟩
    obtain ⟨n, hShort, -⟩ := short_of_purse_eq_error hPays hNumber hUnpaid
    obtain ⟨hn, hNegative⟩ := hShort.negative
    rcases hSteps with hNull | ⟨m, hm, hNonneg⟩
    · rw [hNull] at hn
      cases hn
    · cases hm.symm.trans hn
      omega
  | undoing hError =>
    rw [hError] at hBad
    cases hBad
  | work hPurse hWork => cases hBad.symm.trans (within_of_work hFaults hWork)
  | sink hUnheard => exact hUnheard

end Operation

/-- The arena with an event log, a ledger without systems, and a number of steps below zero. -/
def Arena.indebted : Realm Empty :=
  let stuck : Fault := .always (.register .system) (.raised .ledger "stuck")
  (logged.putLedger 1 ⟨.object .catalog 0, ledger, [stuck]⟩).putFactory 4
    ⟨.object .ledger 1, .object .eventLog 2, .int (-1), .holding recipe⟩

/-- The arena with a factory whose number of steps is below zero is lawful otherwise: there is a
recipe, and the executor in it is alive. -/
theorem Arena.lawful_indebted : Factory.Lawful indebted 4 1 [executor] := by
  refine ⟨rfl, reached_ledger, sorted_catalog, fun f hMem => ?_, .inr ⟨.number (-1), rfl⟩⟩
  obtain rfl := List.mem_singleton.1 hMem
  rfl

namespace Operation

variable {run : κ → Act κ Unit} {i j : Nat} {o : Operation} {r : Realm κ}
  {handed : List InstanceHandle}

/-- **Operations raise what is documented**, with one exception. A lawful factory that tells an
event log, or nobody, raises no other error, unless it has to pay itself from a number of steps
below zero. If it is set up, it then raises the error of a bad value before anything is done. -/
theorem raises_documented (h : Factory.Lawful r i j handed) (hProper : o.Proper)
    (hSink : (r.factory i).sink = .null ∨
      ∃ k, (r.factory i).sink = .object .eventLog k ∧ (r.sink k).script = [])
    (run : κ → Act κ Unit) :
    (∀ e r', o.act run i r = .error e r' → o.Documents e ∨
      ∃ n, o.Short (r.factory i) n ∧ e = .budget (.negativeLimit n) ∧ r' = r) ∧
    ∀ n recipe, o.Short (r.factory i) n → (r.factory i).configuration = .holding recipe →
      o.act run i r = .error (.budget (.negativeLimit n)) r := by
  refine ⟨fun e r' hFails => ?_, fun n recipe hShort hRecipe => ?_⟩
  · rcases error_cases h hProper hFails with
      hDocumented | hShort | hUnheard
    · exact .inl hDocumented
    · exact .inr hShort
    · exact (hUnheard.elim_quiet hSink).elim
  · exact act_of_purse_error hRecipe (hShort.purse_eq r)

/-- A system that the ledger does not take is told of as a failed registration. The factory cannot
pay for anything itself. -/
theorem raises_documented_arena :
    (∃ e r', Arena.spawn.act Empty.elim 4 Arena.indebted = .error e r' ∧ Arena.spawn.Documents e ∧
      e.kind = .registrationFailed) ∧
    (Operation.spawn (.str "pit") [] [] .null).act Empty.elim 4 Arena.indebted =
      .error (.budget (.negativeLimit (.number (-1)))) Arena.indebted := by
  have hSink : (Arena.indebted.factory 4).sink = .null ∨
      ∃ k, (Arena.indebted.factory 4).sink = .object .eventLog k ∧
        (Arena.indebted.sink k).script = [] := .inr ⟨2, rfl, rfl⟩
  constructor
  · have hProper : Arena.spawn.Proper :=
      .spawn (by simp [Arena.health, Arena.speed, Arena.physics, Value.changeable?])
        (.inr ⟨3, rfl⟩)
    have hKind : ((ends (Arena.spawn.act Empty.elim 4) Arena.indebted).1.map fun _ => ()).mapError
        Error.kind = .error .registrationFailed := by decide +kernel
    -- the kind of the outcome is computed, and it tells which of the documented errors this is
    cases hAct : Arena.spawn.act Empty.elim 4 Arena.indebted with
    | ok a r' =>
      rw [ends_of_ok hAct] at hKind
      cases hKind
    | error e r' =>
      rw [ends_of_error hAct] at hKind
      rcases (raises_documented Arena.lawful_indebted hProper hSink Empty.elim).1 e r' hAct with
        hDocumented | ⟨n, hShort, -⟩
      · exact ⟨e, r', rfl, hDocumented, Except.error.inj hKind⟩
      · cases hShort.1
  -- without a budget the own steps have to pay, and they are below zero
  · have hProper : (Operation.spawn (.str "pit") [] [] .null).Proper := .spawn (by simp) (.inl rfl)
    exact (raises_documented Arena.lawful_indebted hProper hSink Empty.elim).2 (.number (-1))
      Arena.recipe ⟨rfl, rfl, by decide⟩ rfl

/-- **An undocumented error**: a factory is made with a number of steps below zero, and what it
raises when it spawns a world is the error of a bad value. -/
theorem own_steps_undocumented : ∃ o : Operation, o.Proper ∧
    Factory.Lawful Arena.indebted 4 1 [Arena.executor] ∧ ∃ e, ¬o.Documents e ∧ e.kind = .badValue ∧
      o.act Empty.elim 4 Arena.indebted = .error e Arena.indebted :=
  ⟨.spawn (.str "pit") [Arena.health] [] .null, .spawn (by simp [Arena.health, Value.changeable?])
    (.inl rfl), Arena.lawful_indebted, .budget (.negativeLimit (.number (-1))), by decide, rfl, rfl⟩

end Operation

end WorldForge

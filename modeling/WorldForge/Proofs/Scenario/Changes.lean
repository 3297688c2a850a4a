import WorldForge.Proofs.Realm.Changes
import WorldForge.Scenario.Play

/-!
# How scenarios change a realm

A realm evolves by every step of a scenario, whatever object it makes and whichever call it makes,
and whether it comes out well or not. The steps that run inside it, in the reactions of sinks, in
compensations and in the blocks of transactions, have their place in between: they begin in what the
realm has evolved into by then, and it goes on evolving when they are over. So what is stable holds
in all states of a session, also in those in which such code begins, and no step undoes what has
become of the realm while code was running inside it.

Main results:

* `alike_step` — a step is alike for code that is alike;
* `onward_runCode` — all code leads onward, by whichever way one looks at the realms;
* `onward_around` — so do a step before and after the code that it starts;
* `Later.holds` — what is stable holds in all later states of a session;
* `later_playFrom` — to play a scenario leads to a later state;
* `After.onward` — in whichever order states of a session come, they lead onward in this order.
-/

namespace WorldForge.Scenario

variable {κ : Type} {R B : Realm κ → Realm κ → Prop} {run run' : κ → Act κ Unit}

open Realm (Attentive Evolves Ordinary Stable Transacts)

section Calls

variable [Ordinary R]

/-! ## Answers -/

theorem onward_give (v : Value) : Leads R B (Call.give v) := leads_pure _

theorem onward_done : Leads R B (Call.done : Act κ Answer) := leads_pure _

theorem onward_refuse (target : Value) (m : Method) (args : List Value) :
    Leads R B (Call.refuse target m args : Act κ Answer) :=
  leads_throw _

theorem onward_mustBeKey (v : Value) : Leads R B (Call.mustBeKey v : Act κ Unit) :=
  (leads_orRaise _ _).bind fun _ => leads_pure _

/-! ## Catalogs and allocators -/

/-- A declaration changes the catalog in which it is made. -/
theorem onward_declare (i : Nat) (name kind id : Value) :
    Leads R B (Call.declare i name kind id) := by
  refine leads_of_forall fun r => ?_
  -- a name that counts as nothing is refused before the catalog is asked
  by_cases hNothing : r.countsAsNothing name = true
  · have hEnd : Call.declare i name kind id r = .error (.catalog .emptyName) r := by
      unfold Call.declare
      rw [bind_of_ok (get_eq r), if_pos hNothing]
      rfl
    rw [ends_of_error hEnd]
    exact Std.Refl.refl r
  · have hGo : Call.declare i name kind id r =
        (orRaise .catalog ((r.catalog i).declare kind name (Call.givenId id)) >>= fun p =>
          modify (Realm.putCatalog i p.2) >>= fun _ => Call.give p.1) r := by
      unfold Call.declare
      rw [bind_of_ok (get_eq r), if_neg hNothing]
      rfl
    cases hDeclare : (r.catalog i).declare kind name (Call.givenId id) with
    | error e =>
      have hEnd : Call.declare i name kind id r = .error (.catalog e) r := by
        rw [hGo, hDeclare]
        rfl
      rw [ends_of_error hEnd]
      exact Std.Refl.refl r
    | ok p =>
      have hEnd : Call.declare i name kind id r = .ok (.value p.1) (r.putCatalog i p.2) := by
        rw [hGo, hDeclare]
        rfl
      rw [ends_of_ok hEnd]
      exact Ordinary.calm (.declared hDeclare) ⟨rfl, fun _ => rfl, fun _ => rfl, [],
        (List.append_nil _).symm, fun _ hMem => by cases hMem⟩

/-- What is asked of a catalog leads onward: a declaration is a change, and everything else only
looks. -/
theorem onward_onCatalog (i : Nat) (m : Method) (args : List Value) :
    Leads R B (Call.onCatalog i m args) := by
  unfold Call.onCatalog
  refine .get fun r => ?_
  dsimp only
  split
  · exact onward_declare i _ _ _
  · exact onward_declare i _ _ _
  · refine (onward_mustBeKey _).bind fun _ => ?_
    split
    · exact onward_give _
    · unfold Call.giveDeclaration
      split
      · exact leads_throw _
      · exact onward_give _
  · exact (onward_mustBeKey _).bind fun _ => onward_give _
  · exact leads_pure _
  · exact onward_refuse _ _ _

/-- What is asked of an allocator leads onward, as no ledger of the realm has it. -/
theorem onward_onAllocator (i : Nat) (m : Method) (args : List Value) :
    Leads R B (Call.onAllocator i m args) := by
  unfold Call.onAllocator
  refine .get fun r => ?_
  dsimp only
  split
  · split
    · exact leads_throw _
    · exact .bind (Realm.onward_modify fun _ => rfl) fun _ => onward_give _
  · refine (onward_mustBeKey _).bind fun _ => ?_
    split
    · exact leads_throw _
    · exact .bind (Realm.onward_modify fun _ => rfl) fun _ => onward_done
  · exact (onward_mustBeKey _).bind fun _ => onward_give _
  · exact onward_give _
  · exact leads_pure _
  · exact onward_refuse _ _ _

/-! ## Ledgers and worlds -/

/-- A declaration by way of a ledger is made in the catalog from which the ledger deploys. -/
theorem onward_declareOn (i : Nat) (name kind id : Value) :
    Leads R B (Call.declareOn i name kind id) := by
  unfold Call.declareOn
  refine .get fun r => ?_
  split
  · exact onward_declare _ _ _ _
  · exact leads_throw _

/-- **What is asked of a ledger leads onward**: a move on it, a declaration in its catalog, or a
look at it. -/
theorem onward_onLedger (i : Nat) (m : Method) (args : List Value) :
    Leads R B (Call.onLedger i m args) := by
  unfold Call.onLedger
  refine .get fun r => ?_
  dsimp only
  split
  · exact onward_declareOn i _ _ _
  · exact onward_declareOn i _ _ _
  · exact (Realm.onward_onSite fun c l => Site.keeps_deployFrom _ _).bind fun h => onward_give _
  · exact (Realm.onward_onSite fun c l => Site.keeps_destroy _).bind fun _ => onward_done
  · exact (Realm.onward_onSite fun c l => Site.keeps_dispatcher Site.Follows.withFaults _).bind
      fun w => onward_give _
  · exact (onward_mustBeKey _).bind fun _ => (leads_orRaise _ _).bind fun t => onward_give _
  · exact (onward_mustBeKey _).bind fun _ => onward_give _
  · exact onward_give _
  · exact onward_give _
  · exact onward_give _
  · refine .get fun r => ?_
    split
    · exact leads_throw _
    · exact leads_pure _
  · exact onward_refuse _ _ _

/-- What is asked of a world is asked of its ledger, and leads onward as that does. -/
theorem onward_onWorld (i : Nat) (h : InstanceHandle) (m : Method)
    (args : List Value) : Leads R B (Call.onWorld i h m args) := by
  unfold Call.onWorld
  refine .get fun r => ?_
  split
  · exact leads_throw _
  · split
    · exact (Realm.onward_onSite fun c l => Site.keeps_register _ _ _).bind fun _ => onward_done
    · exact (Realm.onward_onSite fun c l => Site.keeps_deregister _ _ _).bind fun _ => onward_done
    · exact (onward_mustBeKey _).bind fun _ => (leads_orRaise _ _).bind fun t => onward_give _
    · exact onward_give _
    · exact leads_pure _
    · exact onward_refuse _ _ _

/-! ## Budgets and configurations -/

omit [Ordinary R] in
/-- A charge to a budget leads onward from where the budget is looked at. -/
theorem onward_charge [Attentive R] (i : Nat) (n : Numeral) (r : Realm κ) :
    R r (ends (Call.onBudget.charge i (r.budget i) n) r).2 := by
  cases hCharge : (r.budget i).charge n with
  | error e =>
    have hEnd : Call.onBudget.charge i (r.budget i) n r = .error (.budget e) r := by
      rw [Call.onBudget.charge, hCharge]
      rfl
    rw [ends_of_error hEnd]
    exact Std.Refl.refl r
  | ok b =>
    have hEnd : Call.onBudget.charge i (r.budget i) n r =
        (modify (Realm.putBudget i b) >>= fun _ => Call.done) r := by
      rw [Call.onBudget.charge, hCharge]
      rfl
    rw [ends, hEnd]
    exact Attentive.charges hCharge

omit [Ordinary R] in
/-- What is asked of a budget leads onward if charges do. This is where attention to budgets is
needed. -/
theorem onward_onBudget [Attentive R] (i : Nat) (m : Method) (args : List Value) :
    Leads R B (Call.onBudget i m args) := by
  unfold Call.onBudget
  refine leads_get_bind fun r => ?_
  dsimp only
  split
  · exact onward_charge i _ r
  · rename_i v
    cases hSteps : v.asSteps with
    | error e => exact Std.Refl.refl r
    | ok n => exact onward_charge i n r
  · exact Std.Refl.refl r
  · exact Std.Refl.refl r
  · exact Std.Refl.refl r
  · exact Std.Refl.refl r
  · exact Std.Refl.refl r
  · exact Std.Refl.refl r

/-- A configuration by itself is no factory's, so what it keeps leads onward. -/
theorem onward_keep (i : Nat) (outcome : Except ConfigurationError Recipe) :
    Leads R B (Call.onConfiguration.keep i outcome) :=
  (leads_orRaise _ _).bind fun _ =>
    .bind (Realm.onward_modify fun _ => rfl) fun _ => onward_done

/-- What is asked of a configuration leads onward, as no factory has it. -/
theorem onward_onConfiguration (i : Nat) (m : Method) (args : List Value) :
    Leads R B (Call.onConfiguration i m args) := by
  unfold Call.onConfiguration
  refine .get fun r => ?_
  dsimp only
  split
  · exact onward_give _
  · exact onward_keep i _
  · exact onward_keep i _
  · exact onward_keep i _
  · exact (leads_orRaise _ _).bind fun _ => onward_give _
  · exact (leads_orRaise _ _).bind fun _ => onward_give _
  · exact (leads_orRaise _ _).bind fun _ => onward_give _
  · exact leads_pure _
  · exact onward_refuse _ _ _

/-! ## Values of any kind -/

/-- To ask for a length changes nothing. -/
theorem onward_lengthOf (v : Value) : Leads R B (Call.lengthOf v) := by
  unfold Call.lengthOf
  refine .get fun r => ?_
  split
  · exact leads_throw _
  · exact onward_give _

/-- To ask a dictionary for an entry changes nothing. -/
theorem onward_onDictionary (entries : List (Value × Value)) (m : Method) (args : List Value) :
    Leads R B (Call.onDictionary entries m args) := by
  unfold Call.onDictionary
  split
  · exact (onward_mustBeKey _).bind fun _ => onward_give _
  · exact onward_refuse _ _ _

/-! ## Calls that run code -/

section Foreign

variable (hRun : ∀ code, Alike R B (run code) (run' code))
include hRun

/-- A sink that is called as a session calls it comes out the same by two ways to run code that are
alike. -/
theorem alike_onSink (kind : ObjectKind) (i : Nat) (m : Method) (args : List Value) :
    Alike R B (Call.onSink run kind i m args) (Call.onSink run' kind i m args) := by
  unfold Call.onSink
  refine .get fun r => ?_
  dsimp only
  split
  · exact (Realm.alike_emit hRun i _).bind fun _ => onward_done
  · exact onward_give _
  · exact leads_pure _
  · exact onward_refuse _ _ _

/-- A log that is called as a session calls it comes out the same by two ways to run code that are
alike. -/
theorem alike_onEventLog (i : Nat) (m : Method) (args : List Value) :
    Alike R B (Call.onEventLog run i m args) (Call.onEventLog run' i m args) := by
  unfold Call.onEventLog
  refine .get fun r => ?_
  dsimp only
  split
  · exact onward_give _
  · exact .bind (Realm.onward_modify fun _ => rfl) fun _ => onward_done
  · exact alike_onSink hRun .eventLog i _ _

omit [Ordinary R] in
/-- **A call on a transaction** comes out the same by two ways to run code that are alike, if the
transaction itself does so. -/
theorem alike_onTransaction [Transacts R B] (i : Nat) (m : Method) (args : List Value) :
    Alike R B (Call.onTransaction run i m args) (Call.onTransaction run' i m args) := by
  unfold Call.onTransaction
  split
  · exact (Transacts.stages i _).bind fun _ => onward_done
  · exact (Transaction.leads_pending i).bind fun _ => onward_give _
  · exact (Transacts.commits hRun i).bind fun _ => onward_done
  · exact (Transacts.rollsBack hRun i).bind fun _ => onward_done
  · exact (Transaction.leads_pending i).bind fun _ => leads_pure _
  · exact onward_refuse _ _ _

omit [Ordinary R] in
/-- **A call on a factory** comes out the same by two ways to run code that are alike: it is an
operation, an administrative call, or a look. -/
theorem alike_onFactory [Attentive R] (i : Nat) (m : Method) (args : List Value)
    (budget : Option Value) :
    Alike R B (Call.onFactory run i m args budget) (Call.onFactory run' i m args budget) := by
  unfold Call.onFactory
  refine .get fun r => ?_
  dsimp only
  split
  · exact (Realm.onward_administration (.setUp _ _) i).bind fun _ => onward_done
  · exact (Realm.onward_administration (.setExecutor _) i).bind fun _ => onward_done
  · exact (Realm.onward_administration (.setTemplate _) i).bind fun _ => onward_done
  · exact (leads_release _).bind fun _ => onward_give _
  · exact (leads_release _).bind fun _ => onward_give _
  · split
    · exact onward_refuse _ _ _
    · refine (leads_release _).bind fun cs => (leads_release _).bind fun ss => ?_
      exact (Realm.alike_act hRun (.spawn _ cs ss _) i).bind fun _ => onward_give _
  · exact (Realm.alike_act hRun (.request _ _) i).bind fun _ => onward_give _
  · exact (Realm.alike_act hRun (.deploy _) i).bind fun _ => onward_give _
  · exact (Realm.alike_act hRun (.registerAll _ _ _ _) i).bind fun _ => onward_done
  · split
    · exact leads_throw _
    · exact (Realm.alike_act hRun (.registerAll _ _ _ _) i).bind fun _ => onward_done
  · exact leads_pure _
  · exact onward_refuse _ _ _

omit [Ordinary R] in
/-- **Every call on every value** is alike for code that is alike. -/
theorem alike_invoke [Transacts R B] (target : Value) (m : Method) (args : List Value)
    (budget : Option Value) :
    Alike R B (Call.invoke run target m args budget) (Call.invoke run' target m args budget) := by
  unfold Call.invoke
  dsimp only
  -- a budget is refused where none is taken, before anything is done
  by_cases hRefused :
      (budget.isSome && (signature? target m).isSome && !takesBudget target m) = true
  · rw [if_pos hRefused, if_pos hRefused]
    exact alike_throw_bind _
  rw [if_neg hRefused, if_neg hRefused]
  split
  · exact onward_lengthOf target
  · split
    · exact onward_onDictionary _ _ _
    · exact onward_onCatalog _ _ _
    · exact onward_onAllocator _ _ _
    · exact onward_onLedger _ _ _
    · exact alike_onEventLog hRun _ _ _
    · exact alike_onSink hRun _ _ _ _
    · exact onward_onBudget _ _ _
    · exact onward_onConfiguration _ _ _
    · exact alike_onTransaction hRun _ _ _
    · exact alike_onFactory hRun _ _ _ _
    · exact onward_onWorld _ _ _ _
    · exact onward_refuse _ _ _

omit [Ordinary R] in
/-- A deployment that is asked for with strangers among its arguments runs no code of a session.
Without them it is a call like others. -/
theorem alike_deployWith [Transacts R B] (strangers : List (Nat × Stranger)) (target : Value)
    (args : List Value) (budget : Option Value) :
    Alike R B (Call.deployWith run strangers target args budget)
      (Call.deployWith run' strangers target args budget) := by
  unfold Call.deployWith
  split
  · exact (Realm.onward_onSite fun c l => Site.keeps_deploy _ _).bind fun h => onward_give _
  · exact alike_invoke hRun _ _ _ _

end Foreign

end Calls

/-! ## Making objects -/

section Making

variable {R B : Realm Code → Realm Code → Prop}

section Ordinary

variable [Ordinary R]

theorem onward_addObject {α : Type} (kind : ObjectKind) {put : Nat → α → Realm Code → Realm Code}
    (a : α) (hGist : ∀ i r, (put i a r).gist = r.gist) : Leads R B (addObject kind put a) :=
  (Realm.onward_add a hGist).bind fun _ => leads_pure _

theorem onward_addBudget (b : Budget) :
    Leads R B (addObject .budget Realm.putBudget b) :=
  (Realm.onward_addBudget b).bind fun _ => leads_pure _

/-- A new factory that a session makes leads onward, as it has no recipe yet. -/
theorem onward_addFactory {f : Factory} (hBlank : f.configuration = .blank) :
    Leads R B (addObject .factory Realm.putFactory f) :=
  (Realm.onward_addFactory hBlank).bind fun _ => leads_pure _

/-- To settle from which catalog a new ledger is to deploy leads onward, also if the catalog is a
new one. -/
theorem onward_ledgerCatalog (given : Value) : Leads R B (ledgerCatalog given) := by
  unfold ledgerCatalog
  refine .get fun r => ?_
  split
  · exact Realm.onward_addCatalog.bind fun _ => leads_pure _
  · exact leads_pure _

/-- **Making an object** leads onward, if it does to begin a transaction. -/
theorem onward_makeObject
    (hBegin : ∀ sink, Leads R B (Realm.add Realm.putTransaction (.begun sink))) (what : Creation)
    (args : List Value) : Leads R B (makeObject what args) := by
  unfold makeObject
  split
  · exact Realm.onward_addCatalog.bind fun _ => leads_pure _
  · exact onward_addObject _ _ fun _ _ => rfl
  · exact onward_addObject _ _ fun _ _ => rfl
  · exact onward_addObject _ _ fun _ _ => rfl
  · exact onward_addObject _ _ fun _ _ => rfl
  · exact onward_addBudget _
  · exact (leads_release _).bind fun _ => onward_give _
  · split
    · exact onward_addFactory rfl
    · exact onward_addFactory rfl
    · exact onward_addFactory rfl
    · exact leads_throw _
  · split
    · exact leads_throw _
    · refine (leads_orRaise _ _).bind fun settings => ?_
      dsimp only
      -- settings with both identifiers set the factory up, and those without leave it blank
      split
      · rename_i recipe hRecipe
        refine leads_of_forall fun r => Ordinary.newFactorySetUp r _ recipe ?_
        exact congrArg Configuration.mk hRecipe
      · rename_i hNone
        refine onward_addFactory (congrArg Configuration.mk ?_)
        exact Option.eq_none_iff_forall_ne_some.2 hNone
  · split
    · exact (onward_ledgerCatalog _).bind fun catalog =>
        (Realm.onward_addLedger catalog _).bind fun _ => leads_pure _
    · exact (leads_orRaise _ _).bind fun b => onward_addBudget b
    · exact (hBegin _).bind fun _ => leads_pure _
    · exact leads_throw _

/-! ## Steps -/

/-- To give a name to a result touches nothing that ways onward look at. -/
theorem onward_bindName (name : Option String) (v : Value) : Leads R B (bindName name v) := by
  refine .optionForM (fun n => ?_) name
  exact Realm.onward_modify fun _ => rfl

/-- When a step is over, its result is bound to a name and its outcome is noted in the trace, and
neither is a setting. -/
theorem onward_finish (task : Task) (result : Option String) (throws : Bool)
    (outcome : Except Error Answer) : Leads R B (Step.finish task result throws outcome) := by
  cases outcome with
  | error e =>
    refine (Realm.onward_note rfl).bind fun _ => ?_
    split
    · exact leads_throw _
    · exact leads_pure _
  | ok answer => exact (onward_bindName _ _).bind fun _ => Realm.onward_note rfl

end Ordinary

variable [Transacts R B] {run run' : Code → Act Code Unit}
  (hRun : ∀ code, Alike R B (run code) (run' code))
include hRun

/-- **What a task does** is alike for code that is alike. -/
theorem alike_perform (inputs : Inputs) (task : Task) :
    Alike R B (task.perform run inputs) (task.perform run' inputs) := by
  unfold Task.perform
  split
  · exact onward_makeObject Transacts.begins _ _
  · exact onward_addObject _ _ fun _ _ => rfl
  · exact alike_invoke hRun _ _ _ _
  · exact alike_deployWith hRun _ _ _ _
  · split
    · exact (Transacts.enters _ _).bind fun _ => onward_done
    · exact leads_throw _
  · exact leads_throw _
  · split
    · exact leads_throw _
    -- the body of a block is code like any other
    · refine (Transacts.begins _).bind fun i => ?_
      refine (onward_bindName _ _).bind fun _ => ?_
      exact (Realm.alike_within hRun i (hRun _)).bind fun _ => onward_done

/-- **A step** is alike for code that is alike. -/
theorem alike_step (s : Step) : Alike R B (s.run run) (s.run run') := by
  obtain ⟨task, operands, result, throws⟩ := s
  unfold Step.run
  refine .get fun r => ?_
  split
  · exact Realm.onward_note rfl
  · exact onward_finish task result throws _
  · exact (alike_perform hRun _ task).attempt.bind fun outcome =>
      onward_finish task result throws outcome

omit hRun in
/-- **All code leads onward**, whatever runs inside it. -/
theorem onward_runCode (depth : Nat) (code : Code) : Leads R B (runCode depth code) := by
  induction depth generalizing code with
  | zero => exact leads_pure ()
  | succ depth ih => exact .forM (alike_step ih) code

end Making

/-! ## Sessions -/

/-- **The states of a session from one of its states on**: each state between two steps, and each
state in which a step starts code. What a session does inside code, it may do anywhere. -/
inductive Later (r : Realm Code) : Realm Code → Prop
  | here : Later r r
  | step {r₁ : Realm Code} (h : Later r r₁) (depth : Nat) (s : Step) :
      Later r (ends (s.run (runCode depth)) r₁).2
  | inside {r₁ r₂ : Realm Code} {depth : Nat} {s : Step} {code : Code} (h : Later r r₁)
      (hStarts : Starts (fun run => s.run run) (runCode depth) r₁ code r₂) : Later r r₂

variable {r r₁ r' : Realm Code}

/-- What comes later than a later state is a later state. -/
theorem Later.trans (h : Later r r₁) (h₁ : Later r₁ r') : Later r r' := by
  induction h₁ with
  | here => exact h
  | step _ depth s ih => exact .step ih depth s
  | inside _ hStarts ih => exact .inside ih hStarts

section Around

variable {R : Realm Code → Realm Code → Prop} [∀ B, Transacts R B]

/-- **A step leads onward around the code that it starts**, up to where this begins and from where
it ends. -/
theorem onward_around {depth : Nat} {s : Step} {code : Code}
    (hStarts : Starts (fun run => s.run run) (runCode depth) r code r') :
    R r r' ∧ R (ends (runCode depth code) r').2 (ends (s.run (runCode depth)) r).2 := by
  have hAny : Transacts R fun _ _ => False := inferInstance
  have hRefl : Std.Refl R := ⟨hAny.refl⟩
  exact between_of_starts (fun _ _ hRun => alike_step hRun s)
    (fun c t => (onward_runCode (B := fun _ _ => False) depth c t).1) hStarts

/-- **Each step of a session leads onward**, with all code that it starts. The depth to which code
can be nested does not matter. -/
theorem onward_step (depth : Nat) (s : Step) (r : Realm Code) :
    R r (ends (s.run (runCode depth)) r).2 :=
  (alike_step (B := fun _ _ => False) (onward_runCode depth) s r).1

end Around

/-- The realm of a later state has come about by changes. -/
theorem Later.evolves (h : Later r r') : Evolves r r' := by
  induction h with
  | here => exact .refl
  | step _ depth s ih => exact ih.trans (onward_step depth s _)
  | inside _ hStarts ih => exact ih.trans (onward_around hStarts).1

/-- **What is stable holds in all later states** of a session, those inside the reactions of sinks
and inside compensations among them. -/
theorem Later.holds {V : Realm Code → Prop} (hV : Stable V) (h : Later r r') (hr : V r) : V r' :=
  hV.holds h.evolves hr

/-- Steps that are taken one after the other lead to a later state, whatever they raise. -/
theorem later_foldl (depth : Nat) (steps : Code) (r : Realm Code) :
    Later r (steps.foldl (fun r s => (ends (s.run (runCode depth)) r).2) r) := by
  induction steps generalizing r with
  | nil => exact .here
  | cons s rest ih => exact (Later.here.step depth s).trans (ih _)

/-- To play a scenario is to take its steps one after the other, whatever they raise. -/
theorem playFrom_eq (r : Realm Code) (steps : Code) :
    playFrom r steps =
      steps.foldl (fun r s => (ends (s.run (runCode (codeSize steps))) r).2) r := by
  rw [playFrom]
  congr
  funext r s
  rw [ends]
  cases s.run (runCode (codeSize steps)) r <;> rfl

/-- **Playing a scenario** leads to a later state. -/
theorem later_playFrom (r : Realm Code) (steps : Code) : Later r (playFrom r steps) := by
  rw [playFrom_eq]
  exact later_foldl ..

/-- **The order of the states in a session**: after a state comes the end of a step that is taken
there, and the beginning of code that this step starts. After the end of this code comes the end of
the step. -/
inductive After (r : Realm Code) : Realm Code → Prop
  | here : After r r
  | step {r₁ : Realm Code} (h : After r r₁) (depth : Nat) (s : Step) :
      After r (ends (s.run (runCode depth)) r₁).2
  | inside {r₁ r₂ : Realm Code} {depth : Nat} {s : Step} {code : Code} (h : After r r₁)
      (hStarts : Starts (fun run => s.run run) (runCode depth) r₁ code r₂) : After r r₂
  | back {r₁ r₂ : Realm Code} {depth : Nat} {s : Step} {code : Code}
      (hStarts : Starts (fun run => s.run run) (runCode depth) r₁ code r₂)
      (h : After r (ends (runCode depth code) r₂).2) : After r (ends (s.run (runCode depth)) r₁).2

/-- Later states come after the state from which they are reached. -/
theorem Later.after (h : Later r r') : After r r' := by
  induction h with
  | here => exact .here
  | step _ depth s ih => exact ih.step depth s
  | inside _ hStarts ih => exact ih.inside hStarts

/-- The end of code comes after its beginning, by the steps that it consists of. -/
theorem After.code (h : After r r₁) (depth : Nat) (code : Code) :
    After r (ends (runCode depth code) r₁).2 := by
  cases depth with
  | zero => exact h
  | succ depth =>
    induction code generalizing r₁ with
    | nil => exact h
    | cons s rest ih =>
      have hStep := h.step depth s
      have hRun : runCode (depth + 1) (s :: rest) =
          s.run (runCode depth) >>= fun _ => runCode (depth + 1) rest := rfl
      rw [hRun, ends_bind]
      rcases hEnds : ends (s.run (runCode depth)) r₁ with ⟨_ | _, r₂⟩
      -- an error ends the code there
      · rw [hEnds] at hStep
        exact hStep
      · rw [hEnds] at hStep
        exact ih hStep

/-- **The states of a session lead onward in their order**, by whichever way one looks at them. -/
theorem After.onward {R : Realm Code → Realm Code → Prop} [∀ B, Transacts R B] (h : After r r') :
    R r r' := by
  have hAny : Transacts R fun _ _ => False := inferInstance
  induction h with
  | here => exact hAny.refl r
  | step _ depth s ih => exact hAny.trans ih (onward_step depth s _)
  | inside _ hStarts ih => exact hAny.trans ih (onward_around hStarts).1
  | back hStarts _ ih => exact hAny.trans ih (onward_around hStarts).2

/-- The realm of a state that comes after another one has come about from it by changes. -/
theorem After.evolves (h : After r r') : Evolves r r' := h.onward

end WorldForge.Scenario

import WorldForge.Proofs.Realm.Deeds
import WorldForge.Proofs.Scenario.Changes

/-!
# Steps as dialogues

A step of a scenario is a dialogue with the code that runs inside it. Before it comes to any code,
it does what it does by itself to budgets and configurations, which is at most one deed: that of the
call that it makes, if this is a charge, an administrative call or an operation of a factory. And
from then on it does nothing more to them by itself.

Main results:

* `Call.deed?`, `Step.deeds` — the deed of a call, and of a step;
* `conversesFrom_invoke` — a call does its deed first, and then goes on without deeds;
* `conversesFrom_step` — and so does a step.
-/

namespace WorldForge.Scenario

variable {κ : Type} {R : Realm κ → Realm κ → Prop} {r : Realm κ} {target : Value} {m : Method}
  {args : List Value} {budget : Option Value} {i k : Nat}

open Realm (Explained Ordinary Still)

/-! ## Deeds of calls -/

/-- A charge is a deed, if it is of a number of steps. -/
def Call.chargeOf? (k : Nat) (m : Method) (args : List Value) : Option Deed :=
  match m, args with
  | .charge, [] => some (.charge k (.number 1))
  | .charge, [v] => v.asSteps.toOption.map (Deed.charge k)
  | _, _ => none

/-- What a factory is asked to do is a deed. A call that is refused for its arguments is none. -/
def Call.askedOf? (i : Nat) (m : Method) (args : List Value) (budget : Option Value) :
    Option Deed :=
  match m, args with
  | .setUp, [t, h] => some (.administer i (.setUp t h))
  | .setExecutor, [h] => some (.administer i (.setExecutor h))
  | .setTemplate, [t] => some (.administer i (.setTemplate t))
  | .spawn, name :: parts =>
    match partsOf? parts with
    | none => none
    | some (components, systems) =>
      match components.items, systems.items with
      | .ok cs, .ok ss => some (.operate i (.spawn name cs ss (budget.getD .null)))
      | _, _ => none
  | .spawnRequest, [request] => some (.operate i (.request request (budget.getD .null)))
  | .deploy, [name] => some (.operate i (.deploy name))
  | .registerAll, [world, components, systems] =>
    some (.operate i (.registerAll world components systems (budget.getD .null)))
  | .registerAll, [world, components, systems, b] =>
    if budget.isSome then none else some (.operate i (.registerAll world components systems b))
  | _, _ => none

/-- **The deed of a call**, if it is one. -/
def Call.deed? (target : Value) (m : Method) (args : List Value) (budget : Option Value) :
    Option Deed :=
  if budget.isSome && (signature? target m).isSome && !takesBudget target m then none
  else
    match target with
    | .object .budget k => chargeOf? k m args
    | .object .factory i => askedOf? i m args budget
    | _ => none

/-- The deeds of a task that is taken up in a realm: one at most. -/
def Task.deeds (inputs : Inputs) (r : Realm Code) : Task → List (Deed × Realm Code)
  | .call m => (Call.deed? inputs.target m inputs.args inputs.budget).toList.map (·, r)
  | .deploy _ => (Call.deed? inputs.target .deploy inputs.args inputs.budget).toList.map (·, r)
  | _ => []

/-- The deeds of a step. One that is skipped does none. -/
def Step.deeds (r : Realm Code) : Step → List (Deed × Realm Code)
  | .mk task operands _ _ =>
    match operands.resolve r.names with
    | .ok inputs => task.deeds inputs r
    | .error _ => []

/-- A step does no deed, or one in the realm in which it is taken. -/
theorem Step.deeds_cases (s : Step) (r : Realm Code) :
    s.deeds r = [] ∨ ∃ d, s.deeds r = [(d, r)] := by
  obtain ⟨task, operands, result, throws⟩ := s
  rw [Step.deeds]
  cases operands.resolve r.names with
  | error reason => exact .inl rfl
  | ok inputs =>
    -- a step has one task, and a task is one deed or none
    have hCall : ∀ called : Option Deed,
        called.toList.map (·, r) = [] ∨ ∃ d, called.toList.map (·, r) = [(d, r)] := by
      rintro (_ | d)
      · exact .inl rfl
      · exact .inr ⟨d, rfl⟩
    cases task with
    | call m => exact hCall _
    | deploy strangers => exact hCall _
    | _ => exact .inl rfl

/-! ## Calls -/

/-- What only leads onward is no deed. -/
theorem conversesFrom_of_leads {α : Type} {x : Act κ α} (h : Leads Still (fun _ _ => False) x) :
    ConversesFrom Still (Explained [] r) (fun _ : κ → Act κ Unit => x) r :=
  Realm.conversesFrom_of_explained (h r).1

/-- A computation that goes on with the realm that it finds. -/
theorem conversesFrom_get {α : Type} {F : Realm κ → Prop}
    {f : Realm κ → (κ → Act κ Unit) → Act κ α} (h : ConversesFrom R F (f r) r) :
    ConversesFrom R F (fun run => get >>= fun s => f s run) r :=
  h.of_ends fun _ => rfl

section Sinks

variable [Ordinary R]

/-- A sink that a session calls runs the code of a reaction at most. -/
theorem converses_onSink (kind : ObjectKind) (i : Nat) (m : Method) (args : List Value) :
    Converses R fun run : κ → Act κ Unit => Call.onSink run kind i m args := by
  unfold Call.onSink
  refine .get fun r => ?_
  by_cases hEmit : ∃ v, m = .emit ∧ args = [v]
  · obtain ⟨v, rfl, rfl⟩ := hEmit
    exact (Realm.converses_emit i v).bind fun _ => converses_of_leads onward_done
  -- whatever else a sink is asked, it answers by itself
  · refine converses_of_indifferent (fun run run' => ?_) fun run => ?_
    · dsimp only
      split
      · exact absurd ⟨_, rfl, rfl⟩ hEmit
      · rfl
      · rfl
      · rfl
    · dsimp only
      split
      · exact absurd ⟨_, rfl, rfl⟩ hEmit
      · exact onward_give _
      · exact leads_pure _
      · exact onward_refuse _ _ _

/-- A log that a session calls runs the code of a reaction at most. -/
theorem converses_onEventLog (i : Nat) (m : Method) (args : List Value) :
    Converses R fun run : κ → Act κ Unit => Call.onEventLog run i m args := by
  unfold Call.onEventLog
  refine .get fun r => ?_
  by_cases hOwn : (∃ type, m = .ofType ∧ args = [type]) ∨ m = .clear ∧ args = []
  · obtain ⟨type, rfl, rfl⟩ | ⟨rfl, rfl⟩ := hOwn
    · exact converses_of_leads (onward_give _)
    · have hClear : Leads R (fun _ _ => False)
          (modify (Realm.putSink i { r.sink i with events := [] }) : Act κ Unit) :=
        Realm.onward_modify fun _ => rfl
      exact (converses_of_leads hClear).bind fun _ => converses_of_leads onward_done
  -- everything else a log answers as a sink
  · intro s
    refine (converses_onSink .eventLog i m args s).of_ends fun run => ?_
    dsimp only
    split
    · exact absurd (.inl ⟨_, rfl, rfl⟩) hOwn
    · exact absurd (.inr ⟨rfl, rfl⟩) hOwn
    · rfl

/-- A call on a transaction runs the code of its sink and of its compensations. What it writes by
itself is the transaction. -/
theorem converses_onTransaction (hWrite : ∀ i r t, R r (Realm.putTransaction i t r)) (i : Nat)
    (m : Method) (args : List Value) :
    Converses R fun run : κ → Act κ Unit => Call.onTransaction run i m args := by
  by_cases hEnds : m = .commit ∧ args = [] ∨ m = .rollback ∧ args = []
  · obtain ⟨rfl, rfl⟩ | ⟨rfl, rfl⟩ := hEnds
    · exact (Realm.converses_commit (hWrite i)).bind fun _ => converses_of_leads onward_done
    · exact (Realm.converses_rollback (hWrite i)).bind fun _ => converses_of_leads onward_done
  -- only the endings of a transaction run code
  · unfold Call.onTransaction
    refine converses_of_indifferent (fun run run' => ?_) fun run => ?_
    · split
      · rfl
      · rfl
      · exact absurd (.inl ⟨rfl, rfl⟩) hEnds
      · exact absurd (.inr ⟨rfl, rfl⟩) hEnds
      · rfl
      · rfl
    · split
      · exact (Realm.onward_stage (hWrite i) _).bind fun _ => onward_done
      · exact (Transaction.leads_pending i).bind fun _ => onward_give _
      · exact absurd (.inl ⟨rfl, rfl⟩) hEnds
      · exact absurd (.inr ⟨rfl, rfl⟩) hEnds
      · exact (Transaction.leads_pending i).bind fun _ => leads_pure _
      · exact onward_refuse _ _ _

end Sinks

/-! ## Budgets -/

/-- A charge from where the budget is looked at. -/
theorem explained_onCharge (k : Nat) (n : Numeral) (r : Realm κ) :
    Explained [(.charge k n, r)] r (ends (Call.onBudget.charge k (r.budget k) n) r).2 := by
  rcases Realm.explained_charge r k n with ⟨e, hCharge, hDone⟩ | ⟨b, hCharge, hDone⟩
  · have hEnd : Call.onBudget.charge k (r.budget k) n r = .error (.budget e) r := by
      rw [Call.onBudget.charge, hCharge]
      rfl
    rw [ends_of_error hEnd]
    exact hDone
  · have hEnd : Call.onBudget.charge k (r.budget k) n r = .ok (.value .null) (r.putBudget k b) := by
      rw [Call.onBudget.charge, hCharge]
      rfl
    rw [ends_of_ok hEnd]
    exact hDone

/-- A budget changes by a charge only. Every other question about it is answered from what it is. -/
theorem leads_onBudget (k : Nat) (m : Method) (args : List Value) :
    Leads (fun r t : Realm κ => Explained ((Call.chargeOf? k m args).toList.map (·, r)) r t)
      (fun _ _ => False) (Call.onBudget k m args) := by
  unfold Call.onBudget
  refine leads_get_bind fun r => ?_
  dsimp only
  -- first the charges, without a number of steps and with one, and then what only reads
  split
  · exact explained_onCharge k _ r
  · rename_i v
    cases hSteps : v.asSteps with
    | error e =>
      rw [Call.chargeOf?, hSteps]
      exact Realm.still_refl r
    | ok n =>
      rw [Call.chargeOf?, hSteps]
      exact explained_onCharge k n r
  · exact Realm.still_refl r
  · exact Realm.still_refl r
  · exact Realm.still_refl r
  · exact Realm.still_refl r
  · exact Realm.still_refl r
  · rename_i hFree hCharge _
    have hNone : Call.chargeOf? k m args = none := by
      unfold Call.chargeOf?
      split
      · exact absurd rfl (hFree rfl)
      · exact absurd rfl (hCharge _ rfl)
      · rfl
    rw [hNone]
    exact Realm.still_refl r

/-! ## Factories -/

/-- To answer after what has been done is no deed. -/
theorem conversesFrom_answer {α : Type} {ds : List (Deed × Realm κ)}
    {x : (κ → Act κ Unit) → Act κ α} {f : α → Act κ Answer}
    (h : ConversesFrom Still (Explained ds r) x r) (hAnswer : ∀ a, ∃ answer, f a = pure answer) :
    ConversesFrom Still (Explained ds r) (fun run => x run >>= f) r := by
  refine h.bind (fun s t hDone hStill => hDone.still hStill) fun a => ?_
  obtain ⟨answer, hEnd⟩ := hAnswer a
  rw [hEnd]
  exact converses_of_leads (leads_pure answer)

/-- Parts that cannot be read are refused. -/
theorem onFactory_spawn_of_none {name : Value} {parts : List Value}
    (hParts : partsOf? parts = none) (budget : Option Value) (run : κ → Act κ Unit) (r : Realm κ) :
    Call.onFactory run k .spawn (name :: parts) budget r =
      Call.refuse (.object .factory k) .spawn (name :: parts) r := by
  unfold Call.onFactory
  rw [bind_of_ok (get_eq r)]
  dsimp only
  rw [hParts]

/-- A spawn lists its parts before anything else, the components first. -/
theorem onFactory_spawn_of_some {name components systems : Value} {parts : List Value}
    (hParts : partsOf? parts = some (components, systems)) (budget : Option Value)
    (run : κ → Act κ Unit) (r : Realm κ) :
    Call.onFactory run k .spawn (name :: parts) budget r =
      (do
        let cs ← release components.items
        let ss ← release systems.items
        Call.give (← Factory.spawn run k name cs ss (budget.getD .null))) r := by
  unfold Call.onFactory
  rw [bind_of_ok (get_eq r)]
  dsimp only
  rw [hParts]

/-- To answer from the recipe in force changes nothing, and runs no code. -/
theorem ends_telling_recipe (tell : Recipe → Value) (k : Nat) (r : Realm κ) :
    ∃ res, ends (do Call.give (tell (← release ((← get).factory k).recipe)) : Act κ Answer) r =
      (res, r) := by
  rw [ends_bind, ends_of_ok (get_eq r)]
  dsimp only
  cases (r.factory k).recipe with
  | error e => exact ⟨_, rfl⟩
  | ok recipe => exact ⟨_, rfl⟩

/-- **What a factory is asked** is an administrative call, or an operation, whose result is the
answer. If it is neither, then the factory changes nothing, and runs no code. -/
theorem onFactory_cases (k : Nat) (m : Method) (args : List Value) (budget : Option Value)
    (r : Realm κ) :
    (∃ a : Factory.Administration, Call.askedOf? k m args budget = some (.administer k a) ∧
      ∀ run : κ → Act κ Unit,
        Call.onFactory run k m args budget r = (a.act k >>= fun _ => Call.done) r) ∨
    (∃ (o : Operation) (f : o.Result → Act κ Answer),
      Call.askedOf? k m args budget = some (.operate k o) ∧ (∀ a, ∃ answer, f a = pure answer) ∧
      ∀ run : κ → Act κ Unit, Call.onFactory run k m args budget r = (o.act run k >>= f) r) ∨
    Call.askedOf? k m args budget = none ∧
      ∃ res, ∀ run : κ → Act κ Unit, ends (Call.onFactory run k m args budget) r = (res, r) := by
  have hDone : ∀ _ : Unit, ∃ answer, (Call.done : Act κ Answer) = pure answer :=
    fun _ => ⟨_, rfl⟩
  have hGiven : ∀ h : InstanceHandle, ∃ answer, (Call.give h : Act κ Answer) = pure answer :=
    fun _ => ⟨_, rfl⟩
  unfold Call.askedOf?
  split
  · exact .inl ⟨.setUp _ _, rfl, fun _ => rfl⟩
  · exact .inl ⟨.setExecutor _, rfl, fun _ => rfl⟩
  · exact .inl ⟨.setTemplate _, rfl, fun _ => rfl⟩
  · rename_i name parts
    cases hParts : partsOf? parts with
    | none =>
      exact .inr (.inr ⟨rfl, _, fun run => ends_of_error (onFactory_spawn_of_none hParts _ run r)⟩)
    | some p =>
      obtain ⟨components, systems⟩ := p
      have hSpawn := fun run => @onFactory_spawn_of_some κ k name _ _ _ hParts budget run r
      dsimp only
      -- the lists are read before anything is done, so that a spawn of no lists is no operation
      cases hComponents : components.items with
      | error e =>
        simp only [hComponents] at hSpawn
        exact .inr (.inr ⟨rfl, _, fun run => ends_of_error (hSpawn run)⟩)
      | ok cs =>
        cases hSystems : systems.items with
        | error e =>
          simp only [hComponents, hSystems] at hSpawn
          exact .inr (.inr ⟨rfl, _, fun run => ends_of_error (hSpawn run)⟩)
        | ok ss =>
          simp only [hComponents, hSystems] at hSpawn
          exact .inr (.inl ⟨.spawn _ cs ss _, _, rfl, hGiven, hSpawn⟩)
  · exact .inr (.inl ⟨.request _ _, _, rfl, hGiven, fun _ => rfl⟩)
  · exact .inr (.inl ⟨.deploy _, _, rfl, hGiven, fun _ => rfl⟩)
  · exact .inr (.inl ⟨.registerAll _ _ _ _, _, rfl, hDone, fun _ => rfl⟩)
  -- a budget may be given in its place or by its name, but not both
  · cases budget with
    | some b => exact .inr (.inr ⟨rfl, _, fun _ => rfl⟩)
    | none => exact .inr (.inl ⟨.registerAll _ _ _ _, _, rfl, hDone, fun _ => rfl⟩)
  -- all other calls are questions, or are refused
  · rename_i hSetUp hExecutor hTemplate hSpawn hRequest hDeploy hAll hPaid
    refine .inr (.inr ⟨rfl, ?_⟩)
    unfold Call.onFactory
    split
    · exact (hSetUp _ _ rfl rfl).elim
    · exact (hExecutor _ rfl rfl).elim
    · exact (hTemplate _ rfl rfl).elim
    · exact (ends_telling_recipe (fun recipe => .handle recipe.executor) k r).imp
        fun _ hEnds _ => hEnds
    · exact (ends_telling_recipe (fun recipe => .template recipe.template) k r).imp
        fun _ hEnds _ => hEnds
    · exact (hSpawn _ _ rfl rfl).elim
    · exact (hRequest _ rfl rfl).elim
    · exact (hDeploy _ rfl rfl).elim
    · exact (hAll _ _ _ rfl rfl).elim
    · exact (hPaid _ _ _ _ rfl rfl).elim
    · exact ⟨_, fun _ => rfl⟩
    · exact ⟨_, fun _ => rfl⟩

/-- **A call to a factory** does its deed first. -/
theorem conversesFrom_onFactory (i : Nat) (m : Method) (args : List Value) (budget : Option Value)
    (r : Realm κ) :
    ConversesFrom Still (Explained ((Call.askedOf? i m args budget).toList.map (·, r)) r)
      (fun run : κ → Act κ Unit => Call.onFactory run i m args budget) r := by
  rcases onFactory_cases i m args budget r with
    ⟨a, hAsked, hAct⟩ | ⟨o, f, hAsked, hAnswer, hAct⟩ | ⟨hAsked, res, hEnds⟩
  all_goals rw [hAsked]
  · have hDeed := Realm.conversesFrom_of_explained (Realm.explained_administer a i r)
    have hAnswer : ∀ _ : Unit, ∃ answer, (Call.done : Act κ Answer) = pure answer :=
      fun _ => ⟨_, rfl⟩
    refine (conversesFrom_answer hDeed hAnswer).of_ends fun run => ?_
    rw [ends, ends, hAct run]
  · refine (conversesFrom_answer (Realm.conversesFrom_act o i r) hAnswer).of_ends fun run => ?_
    rw [ends, ends, hAct run]
  · exact ⟨.done res r, hEnds, Realm.still_refl r⟩

/-! ## Steps -/

/-- **A call** does its deed first, and then goes on without deeds. -/
theorem conversesFrom_invoke (target : Value) (m : Method) (args : List Value)
    (budget : Option Value) (r : Realm κ) :
    ConversesFrom Still (Explained ((Call.deed? target m args budget).toList.map (·, r)) r)
      (fun run : κ → Act κ Unit => Call.invoke run target m args budget) r := by
  unfold Call.invoke Call.deed?
  dsimp only
  by_cases hRefused :
      (budget.isSome && (signature? target m).isSome && !takesBudget target m) = true
  · simp only [if_pos hRefused]
    exact conversesFrom_of_leads (leads_throw _)
  simp only [if_neg hRefused]
  by_cases hLength : m = .len
  · subst hLength
    have hTold : Leads Still (fun _ _ => False) (Call.lengthOf target : Act κ Answer) :=
      onward_lengthOf target
    -- to tell a length is no deed of anything
    split
    · exact conversesFrom_of_leads hTold
    · exact conversesFrom_of_leads hTold
    · exact conversesFrom_of_leads hTold
  simp only
  cases target with
  | object kind i =>
    cases kind with
    | catalog => exact conversesFrom_of_leads (onward_onCatalog i m args)
    | allocator => exact conversesFrom_of_leads (onward_onAllocator i m args)
    | ledger => exact conversesFrom_of_leads (onward_onLedger i m args)
    | eventLog => exact converses_onEventLog i m args r
    | scriptSink => exact converses_onSink .scriptSink i m args r
    | budget => exact Realm.conversesFrom_of_explained (leads_onBudget i m args r).1
    | configuration => exact conversesFrom_of_leads (onward_onConfiguration i m args)
    | transaction =>
      exact converses_onTransaction (fun i r t => Realm.still_putTransaction r i t) i m args r
    | factory => exact conversesFrom_onFactory i m args budget r
  | dictionary entries => exact conversesFrom_of_leads (onward_onDictionary entries m args)
  | world i h name => exact conversesFrom_of_leads (onward_onWorld i h m args)
  | _ => exact conversesFrom_of_leads (onward_refuse _ m args)

/-- A deployment with strangers does the deed of the call without them: on a ledger none, and
elsewhere it is this call. -/
theorem conversesFrom_deployWith (strangers : List (Nat × Stranger)) (target : Value)
    (args : List Value) (budget : Option Value) (r : Realm κ) :
    ConversesFrom Still
      (Explained ((Call.deed? target .deploy args budget).toList.map (·, r)) r)
      (fun run : κ → Act κ Unit => Call.deployWith run strangers target args budget) r := by
  unfold Call.deployWith
  split
  · exact conversesFrom_of_leads <|
      (Realm.onward_onSite fun c l => Site.keeps_deploy _ _).bind fun h => onward_give _
  · exact conversesFrom_invoke _ .deploy _ _ r

section Steps

variable {r : Realm Code}

/-- **What a task does** begins with the deed of the call that it makes, if it makes one. -/
theorem conversesFrom_perform (inputs : Inputs) (task : Task) (r : Realm Code) :
    ConversesFrom Still (Explained (task.deeds inputs r) r) (fun run => task.perform run inputs)
      r := by
  have hBegin : ∀ sink, Leads Still (fun _ _ => False)
      (Realm.add Realm.putTransaction (.begun sink) : Act Code Nat) :=
    fun sink => leads_of_forall fun r => Realm.still_newTransaction r _
  have hWrite : ∀ i (r : Realm Code) t, Still r (Realm.putTransaction i t r) :=
    fun i r t => Realm.still_putTransaction r i t
  cases task with
  | create what => exact conversesFrom_of_leads (onward_makeObject hBegin _ _)
  | createScripted script => exact conversesFrom_of_leads (onward_addObject _ _ fun _ _ => rfl)
  | call m => exact conversesFrom_invoke inputs.target m inputs.args inputs.budget r
  | deploy strangers =>
    exact conversesFrom_deployWith strangers inputs.target inputs.args inputs.budget r
  | onRollback description action =>
    unfold Task.perform
    refine conversesFrom_of_leads ?_
    split
    · exact (Realm.onward_onRollback (hWrite _) _).bind fun _ => onward_done
    · exact leads_throw _
  | raise kind message => exact conversesFrom_of_leads (leads_throw _)
  -- a block begins a transaction without a deed, and its body is code that runs inside it
  | block name body =>
    unfold Task.perform
    dsimp only
    cases optional? inputs.args with
    | none => exact conversesFrom_of_leads (leads_throw _)
    | some sink =>
      refine (Converses.bind (converses_of_leads (hBegin sink)) fun i => ?_ : Converses _ _) r
      refine (converses_of_leads (onward_bindName _ _)).bind fun _ => ?_
      exact (Realm.converses_within (hWrite i) (converses_code body)).bind fun _ =>
        converses_of_leads onward_done

/-- **A step** does its deed first, and then goes on without deeds, but for the code that runs
inside it. -/
theorem conversesFrom_step (s : Step) (r : Realm Code) :
    ConversesFrom Still (Explained (s.deeds r) r) (fun run => s.run run) r := by
  obtain ⟨task, operands, result, throws⟩ := s
  have hDeeds : (Step.mk task operands result throws).deeds r =
      match operands.resolve r.names with
      | .ok inputs => task.deeds inputs r
      | .error _ => [] := rfl
  rw [hDeeds]
  unfold Step.run
  refine conversesFrom_get ?_
  cases operands.resolve r.names with
  | error reason =>
    cases reason with
    | unbound n =>
      have hSkip : Leads Still (fun _ _ => False)
          (Act.note (.step task.label (.skipped n)) : Act Code Unit) := Realm.onward_note rfl
      exact conversesFrom_of_leads hSkip
    | failed e =>
      exact conversesFrom_of_leads (onward_finish task result throws (.error e) :
        Leads Still (fun _ _ => False) (Step.finish task result throws (.error e)))
  | ok inputs =>
    -- what comes after the deed makes no other one
    have hGoOn : ∀ s t, Explained (task.deeds inputs r) r s → Still s t →
        Explained (task.deeds inputs r) r t := fun s t hDone hStill => hDone.still hStill
    exact ((conversesFrom_perform inputs task r).attempt hGoOn).bind hGoOn fun outcome =>
      converses_of_leads (onward_finish task result throws outcome)

end Steps

end WorldForge.Scenario

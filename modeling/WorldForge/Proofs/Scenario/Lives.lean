import WorldForge.Proofs.Scenario.Dialogues
import WorldForge.Proofs.Transaction.Life

/-!
# What happens on transactions in a session

A session is followed step by step: what a step does is read off its task, what a call does off the
value that is called, and where code is run, its steps are followed in turn, to the same depth to
which they are run. So the history of a session is a function of its steps, and it can be computed.

Of what there is in a session, only three things run code or do anything to transactions: sinks that
are told of something, transactions, and the operations of factories, which tell sinks. All others
leave transactions alone.

Main results:

* `passes_runCode` — what happens on a transaction while code is run is what the history of this
  code says;
* `passes_session` — and so it is in a session.
-/

namespace WorldForge.Scenario

open Transaction (History Passes)

variable {κ : Type} {i k : Nat} {r r₀ : Realm κ} {run : κ → Act κ Unit}
  {hist : κ → Realm κ → History κ}

/-! ## Histories of steps -/

section Following

variable (run : κ → Act κ Unit) (hist : κ → Realm κ → History κ)

/-- What happens while sink `k` is called. -/
def Call.sinkHistory (k : Nat) (m : Method) (args : List Value) (r : Realm κ) : History κ :=
  match m, args with
  | .emit, [event] => Transaction.tellHistory hist (.object .scriptSink k) event r
  | _, _ => []

/-- What happens while transaction `j` is called. -/
def Call.transactionHistory (j : Nat) (m : Method) (args : List Value) (r : Realm κ) : History κ :=
  match m, args with
  | .stage, [event] => Transaction.callHistory (.stage event) j r
  | .commit, [] => Transaction.commitHistory run hist j r
  | .rollback, [] => Transaction.rollbackHistory run hist j r
  | _, _ => []

/-- What happens while factory `k` is called: what its operations do, if it is asked for one. -/
def Call.factoryHistory (k : Nat) (m : Method) (args : List Value) (budget : Option Value)
    (r : Realm κ) : History κ :=
  match askedOf? k m args budget with
  | some (.operate _ o) => Transaction.operationHistory run hist k o r
  | _ => []

/-- **What happens during a call.** -/
def Call.history (target : Value) (m : Method) (args : List Value) (budget : Option Value)
    (r : Realm κ) : History κ :=
  if budget.isSome && (signature? target m).isSome && !takesBudget target m then []
  else
    match target with
    | .object .eventLog k | .object .scriptSink k => sinkHistory hist k m args r
    | .object .transaction j => transactionHistory run hist j m args r
    | .object .factory k => factoryHistory run hist k m args budget r
    | _ => []

end Following

section Steps

variable (run : Code → Act Code Unit) (hist : Code → Realm Code → History Code)

/-- The realm in which the body of a block begins: the transaction of the block has been made, and
given a name. -/
def blockRealm (name : Option String) (sink : Value) (r : Realm Code) : Realm Code :=
  let begun := Realm.putTransaction r.next (.begun sink) { r with next := r.next + 1 }
  match name with
  | none => begun
  | some n => { begun with names := begun.names.insert n (.object .transaction r.next) }

/-- What happens during a block: what its body does, and then what is done about its transaction
when the block is left. -/
def blockHistory (name : Option String) (body : Code) (sink : Value) (r : Realm Code) :
    History Code :=
  let begun := blockRealm name sink r
  let (outcome, left) := ends (run body) begun
  hist body begun ++ Transaction.leaveHistory run hist r.next outcome left

/-- **What happens during a task.** -/
def Task.history (inputs : Inputs) (r : Realm Code) : Task → History Code
  | .call m => Call.history run hist inputs.target m inputs.args inputs.budget r
  | .deploy _ => Call.history run hist inputs.target .deploy inputs.args inputs.budget r
  | .onRollback description action =>
    match inputs.target with
    | .object .transaction j =>
      Transaction.callHistory (.onRollback (.described description action)) j r
    | _ => []
  | .block name body =>
    match optional? inputs.args with
    | some sink => blockHistory run hist name body sink r
    | none => []
  | .create _ | .createScripted _ | .raise .. => []

/-- **What happens during a step.** -/
def Step.history (r : Realm Code) : Step → History Code
  | .mk task operands _ _ =>
    match operands.resolve r.names with
    | .ok inputs => task.history run hist inputs r
    | .error _ => []

/-- What happens during steps one of which may end the list. -/
def stepsHistory : Code → Realm Code → History Code
  | [], _ => []
  | s :: rest, r =>
    s.history run hist r ++
      match s.run run r with
      | .ok _ r₁ => stepsHistory rest r₁
      | .error _ _ => []

/-- What happens during steps that are all taken, whatever they raise. -/
def topHistory : Code → Realm Code → History Code
  | [], _ => []
  | s :: rest, r => s.history run hist r ++ topHistory rest (ends (s.run run) r).2

end Steps

/-- **What happens while code is run**, with steps inside steps to a depth below `depth`. -/
def codeHistory : Nat → Code → Realm Code → History Code
  | 0 => fun _ _ => []
  | depth + 1 => stepsHistory (runCode depth) (codeHistory depth)

/-- **What happens in a session.** -/
def sessionHistory (steps : Code) : History Code :=
  topHistory (runCode (codeSize steps)) (codeHistory (codeSize steps)) steps .empty

/-! ## Calls -/

/-- What leads onward without touching transactions is nothing that happens on them. -/
theorem passes_aside {α : Type} {x : Act κ α} (h : Leads (Passes i []) (fun _ _ => False) x)
    (r : Realm κ) : Passes i [] r (ends x r).2 :=
  (h r).1

/-- What comes out the same if no code is run at all leaves transactions alone, if nothing that it
does by itself touches them. -/
theorem passes_of_idle {α : Type} {x : (κ → Act κ Unit) → Act κ α}
    (hSame : x run r = x (fun _ => pure ()) r)
    (hIdle : Leads (Passes i []) (fun _ _ => False) (x fun _ => pure ())) :
    Passes i [] r (ends (x run) r).2 := by
  rw [ends, hSame]
  exact passes_aside hIdle r

/-- To answer after what has been done is nothing that happens. -/
theorem passes_answer {α β : Type} {hs : List (Transaction.Happening κ)} {x : Act κ α}
    {f : α → Act κ β} (h : Passes i hs r (ends x r₀).2) (hAnswer : ∀ a, ∃ b, f a = pure b) :
    Passes i hs r (ends (x >>= f) r₀).2 := by
  rw [ends_bind]
  rcases hEnds : ends x r₀ with ⟨e | a, r₁⟩
  all_goals rw [hEnds] at h
  · exact h
  · obtain ⟨b, hGiven⟩ := hAnswer a
    dsimp only
    rw [hGiven]
    exact h

section Calls

variable (hHist : ∀ code r, Passes i ((hist code r).of i) r (ends (run code) r).2)
include hHist

/-- **What happens while a sink is called.** -/
theorem passes_onSink (kind : ObjectKind) (k : Nat) (m : Method) (args : List Value) (r : Realm κ) :
    Passes i ((Call.sinkHistory hist k m args r).of i) r
      (ends (Call.onSink run kind k m args) r).2 := by
  by_cases hEmit : ∃ event, m = .emit ∧ args = [event]
  · obtain ⟨event, rfl, rfl⟩ := hEmit
    have hTold : Passes i _ r (ends (Sink.emit run k event) r).2 :=
      Transaction.passes_emit hHist k event r
    have hCall : Call.onSink run kind k .emit [event] r =
        (Sink.emit run k event >>= fun _ => Call.done) r := rfl
    rw [ends, hCall]
    exact passes_answer hTold fun _ => ⟨_, rfl⟩
  -- nothing else that a sink is asked runs code
  · have hNone : Call.sinkHistory hist k m args r = [] := by
      unfold Call.sinkHistory
      split
      · exact absurd ⟨_, rfl, rfl⟩ hEmit
      · rfl
    rw [hNone]
    refine passes_of_idle (x := fun run => Call.onSink run kind k m args) ?_
      (alike_onSink (fun _ => leads_pure ()) kind k m args)
    dsimp only [Call.onSink]
    rw [bind_of_ok (get_eq r), bind_of_ok (get_eq r)]
    split
    · exact absurd ⟨_, rfl, rfl⟩ hEmit
    · rfl
    · rfl
    · rfl

/-- **What happens while a log is called**: it answers by itself what sinks do not. -/
theorem passes_onEventLog (k : Nat) (m : Method) (args : List Value) (r : Realm κ) :
    Passes i ((Call.sinkHistory hist k m args r).of i) r
      (ends (Call.onEventLog run k m args) r).2 := by
  by_cases hOwn : (∃ type, m = .ofType ∧ args = [type]) ∨ m = .clear ∧ args = []
  · obtain ⟨type, rfl, rfl⟩ | ⟨rfl, rfl⟩ := hOwn
    · exact .refl r
    · exact .of_same (Nat.le_refl _) rfl
  -- a log is asked everything else as a sink
  · have hSink : Call.onEventLog run k m args r = Call.onSink run .eventLog k m args r := by
      unfold Call.onEventLog
      rw [bind_of_ok (get_eq r)]
      split
      · exact absurd (.inl ⟨_, rfl, rfl⟩) hOwn
      · exact absurd (.inr ⟨rfl, rfl⟩) hOwn
      · rfl
    rw [ends, hSink]
    exact passes_onSink hHist .eventLog k m args r

/-- **What happens while a transaction is called.** -/
theorem passes_onTransaction (j : Nat) (m : Method) (args : List Value) (r : Realm κ) :
    Passes i ((Call.transactionHistory run hist j m args r).of i) r
      (ends (Call.onTransaction run j m args) r).2 := by
  unfold Call.onTransaction
  split
  · exact passes_answer (Transaction.passes_call (.stage _) j r) fun _ => ⟨_, rfl⟩
  · exact .refl r
  · exact passes_answer (Transaction.passes_commit hHist j r) fun _ => ⟨_, rfl⟩
  · exact passes_answer (Transaction.passes_rollback hHist j r) fun _ => ⟨_, rfl⟩
  · exact .refl r
  -- any other call is refused, and so it has no history
  · rename_i hStage hCommit hRollback
    have hNone : Call.transactionHistory run hist j m args r = [] := by
      unfold Call.transactionHistory
      split
      · exact (hStage _ rfl rfl).elim
      · exact (hCommit rfl rfl).elim
      · exact (hRollback rfl rfl).elim
      · rfl
    rw [hNone]
    exact .refl r

/-- **What happens while a factory is called.** -/
theorem passes_onFactory (k : Nat) (m : Method) (args : List Value) (budget : Option Value)
    (r : Realm κ) :
    Passes i ((Call.factoryHistory run hist k m args budget r).of i) r
      (ends (Call.onFactory run k m args budget) r).2 := by
  rcases onFactory_cases k m args budget r with
    ⟨a, hAsked, hAct⟩ | ⟨o, f, hAsked, hAnswer, hAct⟩ | ⟨hAsked, res, hEnds⟩
  -- what is no operation has no history: it tells no sink, and leaves transactions alone
  · rw [Call.factoryHistory, hAsked, ends, hAct run]
    exact passes_answer (passes_aside (Realm.onward_administration a k) r) fun _ => ⟨_, rfl⟩
  · rw [Call.factoryHistory, hAsked, ends, hAct run]
    exact passes_answer (Transaction.passes_act hHist o k r) hAnswer
  · rw [Call.factoryHistory, hAsked, hEnds run]
    exact .refl r

/-- **What happens during a call**, on whatever value: sinks, transactions and factories have
histories, and all others leave transactions alone. -/
theorem passes_invoke (target : Value) (m : Method) (args : List Value) (budget : Option Value)
    (r : Realm κ) :
    Passes i ((Call.history run hist target m args budget r).of i) r
      (ends (Call.invoke run target m args budget) r).2 := by
  unfold Call.invoke Call.history
  dsimp only
  by_cases hRefused :
      (budget.isSome && (signature? target m).isSome && !takesBudget target m) = true
  · rw [if_pos hRefused, if_pos hRefused]
    exact .refl r
  rw [if_neg hRefused, if_neg hRefused]
  -- the length of something is asked for in the same way whatever it is
  by_cases hLength : m = .len
  · subst hLength
    have hTold : Passes i [] r _ := passes_aside (onward_lengthOf target) r
    cases target with
    | object kind k => cases kind <;> exact hTold
    | _ => exact hTold
  simp only
  cases target with
  | object kind k =>
    cases kind with
    | catalog => exact passes_aside (onward_onCatalog k m args) r
    | allocator => exact passes_aside (onward_onAllocator k m args) r
    | ledger => exact passes_aside (onward_onLedger k m args) r
    | eventLog => exact passes_onEventLog hHist k m args r
    | scriptSink => exact passes_onSink hHist .scriptSink k m args r
    | budget => exact passes_aside (onward_onBudget k m args) r
    | configuration => exact passes_aside (onward_onConfiguration k m args) r
    | transaction => exact passes_onTransaction hHist k m args r
    | factory => exact passes_onFactory hHist k m args budget r
  | dictionary entries => exact passes_aside (onward_onDictionary entries m args) r
  | world j h name => exact passes_aside (onward_onWorld j h m args) r
  | _ => exact passes_aside (onward_refuse _ m args) r

/-- **What happens during a deployment** with strangers among the arguments: on a ledger nothing,
and elsewhere it is a call like others. -/
theorem passes_deployWith (strangers : List (Nat × Stranger)) (target : Value) (args : List Value)
    (budget : Option Value) (r : Realm κ) :
    Passes i ((Call.history run hist target .deploy args budget r).of i) r
      (ends (Call.deployWith run strangers target args budget) r).2 := by
  unfold Call.deployWith
  split
  · exact passes_aside ((Realm.onward_onSite fun c l => Site.keeps_deploy _ _).bind fun h =>
      onward_give _) r
  · exact passes_invoke hHist _ .deploy _ _ r

end Calls

/-! ## Steps -/

section Steps

variable {r : Realm Code} {run : Code → Act Code Unit} {hist : Code → Realm Code → History Code}

/-- A block makes its transaction before its body begins. -/
theorem passes_blockRealm (name : Option String) (sink : Value) (r : Realm Code) :
    Passes i [] r (blockRealm name sink r) := by
  have hBegun : Passes i [] r _ := Transaction.passes_begin sink r
  cases name with
  | none => exact hBegun
  | some n => exact hBegun.trans (.of_same (Nat.le_refl _) rfl)

variable (hHist : ∀ code r, Passes i ((hist code r).of i) r (ends (run code) r).2)
include hHist

/-- **What happens during a block.** -/
theorem passes_block (name : Option String) (body : Code) (sink : Value) (r : Realm Code) :
    Passes i ((blockHistory run hist name body sink r).of i) r
      (ends (Transaction.within run r.next (run body)) (blockRealm name sink r)).2 := by
  rw [blockHistory, Transaction.within, ends_bind, ends_of_ok (attempt_eq _ _)]
  rcases hBody : ends (run body) (blockRealm name sink r) with ⟨outcome, left⟩
  have hDone := (passes_blockRealm name sink r).trans (hHist body (blockRealm name sink r))
  rw [hBody] at hDone
  dsimp only
  rw [History.of_append]
  exact hDone.trans (Transaction.passes_leave hHist r.next outcome left)

/-- **What happens during a task**: a call, a compensation that is entered, or a block with all that
its body does. To make an object is nothing that happens, as a transaction begins with nothing. -/
theorem passes_perform (inputs : Inputs) (task : Task) (r : Realm Code) :
    Passes i ((task.history run hist inputs r).of i) r (ends (task.perform run inputs) r).2 := by
  cases task with
  | create what =>
    exact passes_aside (onward_makeObject
      (fun sink => leads_of_forall fun r => Transaction.passes_begin sink r) _ _) r
  | createScripted script => exact passes_aside (onward_addObject _ _ fun _ _ => rfl) r
  | call m => exact passes_invoke hHist inputs.target m inputs.args inputs.budget r
  | deploy strangers =>
    exact passes_deployWith hHist strangers inputs.target inputs.args inputs.budget r
  | onRollback description action =>
    unfold Task.perform Task.history
    dsimp only
    cases inputs.target with
    | object kind j =>
      cases kind with
      | transaction =>
        exact passes_answer (Transaction.passes_call (.onRollback _) j r) fun _ => ⟨_, rfl⟩
      | _ => exact .refl r
    | _ => exact .refl r
  | raise kind message => exact .refl r
  | block name body =>
    unfold Task.perform Task.history
    dsimp only
    cases optional? inputs.args with
    | none => exact .refl r
    | some sink =>
      dsimp only
      -- a block begins with its transaction, under a name if it has one
      have hBegin : ∀ x : Nat → Act Code Answer, (do
          let i ← Realm.add Realm.putTransaction (Transaction.begun sink)
          bindName name (.object .transaction i)
          x i) r = x r.next (blockRealm name sink r) := fun x => by
        cases name <;> rfl
      rw [ends, hBegin]
      exact passes_answer (passes_block hHist name body sink r) fun _ => ⟨_, rfl⟩

/-- **What happens during a step** is what happens during its task. A step whose operands do not
resolve is skipped. -/
theorem passes_step (s : Step) (r : Realm Code) :
    Passes i ((s.history run hist r).of i) r (ends (s.run run) r).2 := by
  obtain ⟨task, operands, result, throws⟩ := s
  unfold Step.run Step.history
  dsimp only
  rw [ends_bind, ends_of_ok (get_eq r)]
  dsimp only
  cases operands.resolve r.names with
  | error reason =>
    cases reason with
    | unbound n => exact passes_aside (Realm.onward_note rfl) r
    | failed e => exact passes_aside (onward_finish task result throws (.error e)) r
  | ok inputs =>
    have hTask := passes_perform hHist inputs task r
    dsimp only
    rw [ends_bind, ends_of_ok (attempt_eq _ r)]
    dsimp only
    rcases hEnds : ends (task.perform run inputs) r with ⟨outcome, r₁⟩
    rw [hEnds] at hTask
    -- to record how the task came out, and to bind what it gave, is none of a transaction's
    -- business
    have hOver : Passes i [] r₁ _ := passes_aside (onward_finish task result throws outcome) r₁
    simpa using hTask.trans hOver

/-- What happens during steps that are taken one after the other, up to the first that ends the
list. -/
theorem passes_steps (steps : Code) (r : Realm Code) :
    Passes i ((stepsHistory run hist steps r).of i) r (ends (steps.forM (Step.run run)) r).2 := by
  induction steps generalizing r with
  | nil => exact .refl r
  | cons s rest ih =>
    have hStep := passes_step hHist s r
    have hRun : (s :: rest).forM (Step.run run) =
      s.run run >>= fun _ => rest.forM (Step.run run) := rfl
    rw [hRun, ends_bind, stepsHistory, History.of_append]
    cases hEnd : s.run run r with
    | ok _ r₁ =>
      rw [ends_of_ok hEnd] at hStep ⊢
      exact hStep.trans (ih r₁)
    | error e r₁ =>
      rw [ends_of_error hEnd] at hStep ⊢
      exact hStep.trans (.refl r₁)

/-- What happens during steps that are all taken. -/
theorem passes_top (steps : Code) (r : Realm Code) :
    Passes i ((topHistory run hist steps r).of i) r
      (steps.foldl (fun r s => (ends (s.run run) r).2) r) := by
  induction steps generalizing r with
  | nil => exact .refl r
  | cons s rest ih =>
    rw [topHistory, History.of_append]
    exact (passes_step hHist s r).trans (ih _)

end Steps

/-! ## Sessions -/

/-- **What happens while code is run** is what its history says. -/
theorem passes_runCode (depth : Nat) (code : Code) (r : Realm Code) :
    Passes i ((codeHistory depth code r).of i) r (ends (runCode depth code) r).2 := by
  induction depth generalizing code r with
  | zero => exact .refl r
  | succ depth ih => exact passes_steps ih code r

/-- **What happens in a session** is what its history says. -/
theorem passes_session (steps : Code) :
    Passes i ((sessionHistory steps).of i) .empty (playFrom .empty steps) := by
  rw [playFrom_eq]
  exact passes_top (passes_runCode (codeSize steps)) steps .empty

end WorldForge.Scenario

import WorldForge.Proofs.Scenario.Lives

/-!
# What the outcome of a commit says

Who commits a transaction goes by the outcome: if the commit returns, then nothing has been undone,
and if it raises what the sink has raised, then everything has been. A commit keeps this promise
(`Agrees`) if the sink leaves the ending to it, whatever else the sink does with the transaction.

But the transaction is open while its events are being told, so the sink may end it. Then the commit
does nothing more to it, and its outcome says only what has become of the events: it returns if the
sink has taken them all, even if the sink has rolled the transaction back; and if the sink has
raised an error, then the commit fails because the transaction is closed, even if the sink has
committed it.

Main results:

* `Ran.agrees` — a commit keeps its promise if its transaction is still open after the delivery;
* `Ran.overtaken_eq` — what a commit comes out as whose sink has ended the transaction;
* `commit_accounts_for_effects` — both cases, for any code in the sinks and compensations of a
  session;
* `outcome_belies_effects` — two sessions in which the promise is broken.
-/

namespace WorldForge.Transaction

variable {κ : Type} {i : Nat} {run : κ → Act κ Unit} {sink : Value} {staged : List Value}
  {journal : List (JournalEntry κ)} {told result : Except Error Unit}
  {r r₁ r' : Realm κ} {hs hs₁ : List (Happening κ)}

/-- **The promise of a commit** that leads to `r'`, given what has come of telling the sink, in
`r₁`. If the sink has taken all events, then the commit returns, and nothing has been undone. If it
has raised an error, then everything that has ever been entered has been undone, each entry once,
and the commit raises that error, or the failure of the rollback with that error as its cause. -/
def Agrees (run : κ → Act κ Unit) (i : Nat) (journal : List (JournalEntry κ))
    (told : Except Error Unit) (r₁ : Realm κ) (result : Except Error Unit)
    (hs : List (Happening κ)) (r' : Realm κ) : Prop :=
  match told with
  | .ok () => result = .ok () ∧ undoneIn hs = []
  | .error x => undoneIn hs = entriesOf (callsIn hs) ++ journal ∧
      ∃ os, Unwound Act.report JournalEntry.text (fun e => e.action.perform run)
        ((r₁.undelivered i x).unwinding i) (undoneIn hs) os r' ∧
        result = .error (afterRollback (raised os) x)

/-- What a commit comes out as if its transaction has been ended by its sink. -/
def overtakenOutcome : Except Error Unit → Except Error Unit
  | .ok () => .ok ()
  | .error _ => .error .transactionClosed

/-- **What a commit comes out as**, given what has come of telling the sink. -/
theorem Ran.accounts (h : Ran i (.commit run result) r hs r')
    (hTransaction : r.transaction i = ⟨sink, journal, staged, false⟩) :
    ∃ told hs₁ r₁,
      Ran i (.telling run sink (heard sink staged) told) (r.delivering i) hs₁ r₁ ∧
      ((r₁.transaction i).closed = false → Agrees run i journal told r₁ result hs r') ∧
      ((r₁.transaction i).closed = true → hs = hs₁ ∧ result = overtakenOutcome told ∧
        (undoneIn hs = [] ∨ undoneIn hs = entriesOf (callsIn hs) ++ journal)) := by
  have hStart : (r.delivering i).transaction i = ⟨sink, journal, [], false⟩ := by
    rw [transaction_delivering, hTransaction]
  have hCourse : ∀ {told hs₁ r₁},
      Ran i (.telling run sink (heard sink staged) told) (r.delivering i) hs₁ r₁ →
      Course ⟨sink, journal, [], false⟩ (heard sink staged) hs₁ (r₁.transaction i) := by
    intro told hs₁ r₁ hTelling
    rw [← hStart]
    exact hTelling.course (by rw [hStart]) rfl
  cases h with
  | commitRefused hClosed =>
    rw [hTransaction] at hClosed
    cases hClosed
  | @delivered _ _ r₁ hs₁ hOpen hTelling =>
    rw [hTransaction] at hTelling
    refine ⟨_, _, _, hTelling, fun hStill => ⟨rfl, ?_⟩, fun hEnded => ⟨?_, rfl, ?_⟩⟩
    · rw [undoneIn_append, ((hCourse hTelling).journal_eq hStill).1, closing, hStill]
      rfl
    · rw [closing, if_pos hEnded, List.append_nil]
    · rw [closing, if_pos hEnded, List.append_nil]
      exact (hCourse hTelling).undone
  | @undelivered _ _ r₁ _ hs₁ hs' x os hOpen hTelling hStill hUndoing =>
    rw [hTransaction] at hTelling
    refine ⟨_, _, _, hTelling, fun _ => ?_, fun hEnded => ?_⟩
    swap
    · rw [hStill] at hEnded
      cases hEnded
    obtain ⟨hUndone, hJournal⟩ := (hCourse hTelling).journal_eq hStill
    -- the rollback closes the transaction first, so nothing but its journal is undone
    obtain ⟨-, rfl⟩ := hUndoing.quiet (by rw [transaction_unwinding])
    have hAll : undoneIn (hs₁ ++ .closed :: (r₁.transaction i).journal.map .undone) =
        (r₁.transaction i).journal := by simp [hUndone]
    refine ⟨?_, os, ?_, rfl⟩
    · rw [hAll, hJournal]
      simp
    · rw [hAll]
      exact hUndoing.isRunOf
  | overtaken hOpen hTelling hEnded =>
    rw [hTransaction] at hTelling
    refine ⟨_, _, _, hTelling, fun hStill => ?_, fun _ => ⟨rfl, rfl, (hCourse hTelling).undone⟩⟩
    rw [hEnded] at hStill
    cases hStill

/-! ## Commits in sessions -/

open Scenario (Code Step codeHistory passes_runCode runCode)

/-- **What the outcome of a commit says about the side effects**, whatever the sink and the
compensations of a session do. If the transaction is still open when the sink has been told, then
the commit keeps its promise. If the sink has ended the transaction, then the commit does nothing
more to it, and comes out by what has become of the events; so whether the compensations have been
performed, all of them or none, is not to be seen from its outcome. -/
theorem commit_accounts_for_effects {depth : Nat} {r : Realm Code}
    {journal : List (JournalEntry Code)} (hThere : i < r.next)
    (hTransaction : r.transaction i = ⟨sink, journal, staged, false⟩) :
    ∃ result hs r' told hs₁ r₁,
      ends (commit (runCode depth) i) r = (result, r') ∧
      Ran i (.commit (runCode depth) result) r hs r' ∧
      Ran i (.telling (runCode depth) sink (heard sink staged) told) (r.delivering i) hs₁ r₁ ∧
      ((r₁.transaction i).closed = false → Agrees (runCode depth) i journal told r₁ result hs r') ∧
      ((r₁.transaction i).closed = true → hs = hs₁ ∧ result = overtakenOutcome told ∧
        (undoneIn hs = [] ∨ undoneIn hs = entriesOf (callsIn hs) ++ journal)) := by
  have hCommit := ran_commit (passes_runCode depth) hThere
  obtain ⟨told, hs₁, r₁, hTelling, hAccount⟩ := hCommit.accounts hTransaction
  exact ⟨_, _, _, told, hs₁, r₁, hCommit.commit_eq, hCommit, hTelling, hAccount⟩

/-! ## Sessions in which the promise is broken -/

/-- The opening of a session whose sink, when it is told of the first event, ends the transaction by
a step, and then may raise an error. -/
def meddlingOpening (ending : Step) (error : Option (ErrorKind × Text)) : Code :=
  [.mk (.createScripted [some ⟨some [ending], error⟩]) ⟨[], none, none⟩ (some "sink") false,
   .mk (.create .transaction) ⟨[.name "sink"], none, none⟩ (some "transaction") false,
   .mk (.onRollback "" (.leaveLabel (.str "made"))) ⟨[], some "transaction", none⟩ none false,
   stagingStep "first"]

def rollingBackStep : Step := .mk (.call .rollback) ⟨[], some "transaction", none⟩ none false

/-- The sink commits the transaction, and then it raises an error. -/
def fickleOpening : Code := meddlingOpening committingStep (some (.badValue, "no"))

/-- The realm before the commit: the sink is object 0, the transaction object 1. -/
def fickleRealm : Realm Code := Scenario.playFrom .empty fickleOpening

/-- The sink has ended the transaction, so the commit fails, and nothing is undone. -/
theorem commit_accounts_for_effects_fickle : ∃ hs r',
    ends (commit (runCode 2) 1) fickleRealm = (.error .transactionClosed, r') ∧
      Ran 1 (.commit (runCode 2) (.error .transactionClosed)) fickleRealm hs r' ∧
      (undoneIn hs = [] ∨
        undoneIn hs = entriesOf (callsIn hs) ++ (fickleRealm.transaction 1).journal) := by
  have hThere : 1 < fickleRealm.next := by decide
  obtain ⟨result, hs, r', told, hs₁, r₁, hEnds, hRan, hTelling, -, hEnded⟩ :=
    @commit_accounts_for_effects 1 _ _ 2 fickleRealm _ hThere rfl
  -- telling the sink of the one event ends in its error, with the transaction closed
  let told' := ends (heard (.object .scriptSink 0) [.str "first"] |>.forM
    (Sink.tell (runCode 2) (.object .scriptSink 0))) (fickleRealm.delivering 1)
  have hTold : told' = (told, r₁) := hTelling.isRunOf
  have hClosed : (told'.2.transaction 1).closed = true := rfl
  have hError : told'.1 = .error (.raised .badValue "no") := rfl
  rw [hTold] at hClosed hError
  obtain ⟨-, hResult, hUndone⟩ := hEnded hClosed
  change told = _ at hError
  rw [hError] at hResult
  change result = .error .transactionClosed at hResult
  rw [hResult] at hEnds hRan
  exact ⟨hs, r', hEnds, hRan, hUndone⟩

/-- **The outcome of a commit can belie what has been done.** -/
theorem outcome_belies_effects :
    -- the sink raises an error, but nothing is undone, and the commit raises another error
    (Scenario.playQuietly (fickleOpening ++ [committingStep])).drop 4 =
      [.step "commit" (.done (.value .null)), .step "commit" (.failed .transactionClosed)] ∧
    -- everything is undone, but the commit returns
    (Scenario.playQuietly (meddlingOpening rollingBackStep none ++ [committingStep])).drop 4 =
      [.undone (.str "made"), .step "rollback" (.done (.value .null)),
       .step "commit" (.done (.value .null))] := by
  exact ⟨rfl, rfl⟩

end WorldForge.Transaction

import WorldForge.Proofs.Transaction.Agreement

/-!
# Transactions in sessions

In a session every transaction lives a life of its own: it begins when it is made, by a step of its
own or for a block, and from then on all that any code of the session does is a run on it. This
holds for the code in the reactions of sinks, in compensations and in blocks, to any depth, and also
when that code calls the transaction that has started it. So what is true of runs is true of all
transactions of all sessions.

What happens in such a life is not left open: it is the history of the session, as far as it is
about this transaction, and this is read off the steps. A run with this history leads from the
beginning of the transaction to the end of the session. Its commits and rollbacks are those that the
session does, with the same outcome and in the same realm, and so are all the parts of these in
which the sink is told of an event or a compensation is performed. And what the operations do is
told for every realm, and for every way to run code.

Main result:

* `transactions_end_once` — what the operations of a transaction perform; the histories of all code,
  of the endings of a transaction and of sessions are those of runs of these operations; whatever
  happens on a transaction is orderly; and once it is closed it refuses everything, and stays as it
  is. -/

namespace WorldForge.Scenario

open Transaction (Happening History Orderly Performs Phase Ran Refuses commitHistory leaveHistory
  rollbackHistory)

variable {i : Nat} {r : Realm Code}

/-- **All code of a session is a run** on a transaction that is there when the code begins, and so
are the endings of the transaction. What happens on these runs is told by their histories. -/
theorem ran_histories (depth : Nat) (hThere : i < r.next) :
    let run := runCode depth
    let hist := codeHistory depth
    let committed := ends (Transaction.commit run i) r
    let rolledBack := ends (Transaction.rollback run i) r
    (∀ code, Ran i .code r ((hist code r).of i) (ends (run code) r).2) ∧
      Ran i (.commit run committed.1) r ((commitHistory run hist i r).of i) committed.2 ∧
      Ran i (.rollback run rolledBack.1) r ((rollbackHistory run hist i r).of i) rolledBack.2 ∧
      ∀ outcome, Ran i .code r ((leaveHistory run hist i outcome r).of i)
        (ends (Transaction.leave run i outcome) r).2 :=
  ⟨fun code => (passes_runCode depth code r).ran hThere,
    Transaction.ran_commit (passes_runCode depth) hThere,
    Transaction.ran_rollback (passes_runCode depth) hThere,
    fun outcome => (Transaction.passes_leave (passes_runCode depth) i outcome r).ran hThere⟩

/-- **The transactions of a session end once.**

The operations of a transaction perform what they are to perform, whatever the code does that they
run: a rollback, a commit of which an event is not taken, and the end of a block that has failed
perform each compensation of the journal once, the newest first, and a commit tells the sink of each
staged event once. In a run each commit, each rollback, each telling of a sink and each undoing of a
journal is the operation itself. All code of a session is a run on the transaction, at any depth,
and so are the endings of the transaction, and what happens on these runs is what the histories say.

What happens on a transaction in a session is what the history of the session says of it. If there
is such a transaction, then this is the history of a run from its beginning to the end of the
session; and it is orderly, as is all that happens on any run from the beginning of a transaction:
whoever calls it and from wherever, compensations are performed all or none, the newest first; no
event is told more often than it was staged; and it closes at most once. A closed transaction
refuses every call, and no run changes it. -/
theorem transactions_end_once (i : Nat) :
    (∀ run : Code → Act Code Unit, Performs run i) ∧
    (∀ (phase : Phase Code) (r r' : Realm Code) hs, Ran i phase r hs r' → phase.IsRunOf i r r') ∧
    (∀ depth (r : Realm Code), i < r.next →
      let run := runCode depth
      let hist := codeHistory depth
      let committed := ends (Transaction.commit run i) r
      let rolledBack := ends (Transaction.rollback run i) r
      (∀ code, Ran i .code r ((hist code r).of i) (ends (run code) r).2) ∧
        Ran i (.commit run committed.1) r ((commitHistory run hist i r).of i) committed.2 ∧
        Ran i (.rollback run rolledBack.1) r ((rollbackHistory run hist i r).of i) rolledBack.2 ∧
        ∀ outcome, Ran i .code r ((leaveHistory run hist i outcome r).of i)
          (ends (Transaction.leave run i outcome) r).2) ∧
    (∀ steps : Code,
      let r := playFrom .empty steps
      let hs := (sessionHistory steps).of i
      r.transaction i = ⟨.null, [], [], true⟩ ∧ hs = [] ∨
        (∃ r₀ sink, r₀.transaction i = .begun sink ∧ Ran i .code r₀ hs r) ∧ Orderly hs ∧
          ((r.transaction i).closed = true ↔ Happening.closed ∈ hs)) ∧
    (∀ (r₀ r : Realm Code) sink hs, r₀.transaction i = .begun sink → Ran i .code r₀ hs r →
      Orderly hs ∧ ((r.transaction i).closed = true ↔ Happening.closed ∈ hs)) ∧
    (∀ (r : Realm Code), (r.transaction i).closed = true →
      (∀ run, Refuses run i r) ∧
      ∀ hs r', Ran i .code r hs r' → hs = [] ∧ r'.transaction i = r.transaction i) := by
  have hOrderly : ∀ (r₀ r : Realm Code) sink hs, r₀.transaction i = .begun sink →
      Ran i .code r₀ hs r →
      Orderly hs ∧ ((r.transaction i).closed = true ↔ Happening.closed ∈ hs) := by
    intro r₀ r sink hs hBegun hRan
    obtain ⟨hOrder, hClosed, -⟩ := hRan.orderly hBegun
    exact ⟨hOrder, hClosed⟩
  refine ⟨fun run => Transaction.performs run i, fun _ _ _ _ hRan => hRan.isRunOf,
    fun depth r => ran_histories depth, fun steps => ?_, hOrderly, fun r hClosed => ⟨?_, ?_⟩⟩
  -- at the start there is no transaction yet, so that it has been made on the way, or is still not
  -- there
  · rcases (passes_session (i := i) steps).born (Nat.zero_le i) rfl with
      ⟨hAbsent, hNone⟩ | ⟨-, r₀, sink, hBegun, hRan⟩
    · exact .inl ⟨hAbsent, hNone⟩
    · exact .inr ⟨⟨r₀, sink, hBegun, hRan⟩, hOrderly _ _ _ _ hBegun hRan⟩
  · exact fun run => Transaction.refuses_of_closed run hClosed
  · exact fun hs r' hRan => (hRan.quiet hClosed).symm

/-- A session whose sink rolls the transaction back while it is being committed. -/
def meddlingSession : Code :=
  Transaction.meddlingOpening Transaction.rollingBackStep none ++ [Transaction.committingStep]

/-- The compensation is performed once, when the sink has been told of the event, and what remains
of the commit does nothing more. -/
theorem transactions_end_once_meddling :
    let entry : JournalEntry Code := .described "" (.leaveLabel (.str "made"))
    (sessionHistory meddlingSession).of 1 =
        [.accepted (.onRollback entry), .accepted (.stage (.str "first")), .told (.str "first"),
          .closed, .undone entry] ∧
      Orderly ((sessionHistory meddlingSession).of 1) ∧
      ∀ run, Refuses run 1 (playFrom .empty meddlingSession) := by
  have hClosed : ((playFrom .empty meddlingSession).transaction 1).closed = true := rfl
  obtain ⟨-, -, -, hLives, -, hFinal⟩ := transactions_end_once 1
  refine ⟨rfl, ?_, (hFinal _ hClosed).1⟩
  rcases hLives meddlingSession with ⟨hAbsent, -⟩ | ⟨-, hOrder, -⟩
  -- it is there, since it has a sink
  · cases hAbsent
  · exact hOrder

end WorldForge.Scenario

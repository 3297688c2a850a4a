import WorldForge.Proofs.Transaction.Outcome
import WorldForge.Scenario.Play

/-!
# What a commit delivers

A commit takes the staged events out of its transaction before it tells the sink of the first of
them, and closes the transaction after the last. While it delivers, the transaction is open, so it
accepts what a sink stages on it; but that is not among what is being delivered. So there are two
sorts of accepted events. Those that were staged when the commit began are told, each once and in
staging order. Those that are staged later are still held back when the commit returns, and the
transaction is over then: it takes no call any more by which anybody could be told of them.

Nothing is assumed about the sink. It may stage events, enter compensations, and commit or roll back
the transaction itself, to any depth.

Main results:

* `commit_eq_ok_iff` — a commit returns exactly if the sink takes what was staged when it began;
* `commit_tells_staged` — what has become of all accepted events when a commit has returned;
* `late_event_is_lost` — a session in which an accepted event is lost.
-/

namespace WorldForge

variable {κ : Type}

/-- The realm in which a commit begins to tell its sink: nothing is staged any more, and transaction
`i` is still open. -/
def Realm.delivering (r : Realm κ) (i : Nat) : Realm κ :=
  r.putTransaction i { r.transaction i with staged := [] }

namespace Transaction

/-- Events of later calls are staged behind those of earlier ones. -/
theorem eventsOf_append (early late : List (Call κ)) :
    eventsOf (early ++ late) = eventsOf early ++ eventsOf late :=
  List.filterMap_append

/-- **A sink takes events**: it is told of one after the other, each time in the realm that the one
before has left, and raises no error. -/
inductive Takes (run : κ → Act κ Unit) (sink : Value) : List Value → Realm κ → Realm κ → Prop
  | none (r : Realm κ) : Takes run sink [] r r
  | next {event : Value} {events : List Value} {r r₁ r' : Realm κ}
      (hTell : Sink.tell run sink event r = .ok () r₁) (hRest : Takes run sink events r₁ r') :
      Takes run sink (event :: events) r r'

variable {run : κ → Act κ Unit} {i : Nat} {sink : Value} {events : List Value} {e : Error}
  {r r' : Realm κ}

/-- To deliver events without an error is to have them taken by the sink, if there is one. -/
theorem deliver_eq_ok_iff :
    Sink.deliver run sink events r = .ok () r' ↔ Takes run sink (heard sink events) r r' := by
  rw [deliver_eq]
  -- what is heard is taken event by event, from one realm to the next
  generalize heard sink events = heard
  induction heard generalizing r with
  | nil =>
    constructor
    · intro hDone
      cases hDone
      exact .none _
    · intro hTakes
      cases hTakes
      rfl
  | cons event rest ih =>
    have hRun : (event :: rest).forM (Sink.tell run sink) r =
        (Sink.tell run sink event >>= fun _ => rest.forM (Sink.tell run sink)) r := rfl
    rw [hRun, bind_eq_ok_iff]
    constructor
    · rintro ⟨_, r₁, hTell, hRest⟩
      exact .next hTell (ih.1 hRest)
    · intro hTakes
      cases hTakes with
      | next hTell hRest => exact ⟨(), _, hTell, ih.2 hRest⟩

/-- What is rolled back raises an error in any case. -/
theorem rollbackAfter_ne_ok : rollbackAfter (α := Unit) run i e r ≠ .ok () r' := by
  intro hOk
  unfold rollbackAfter at hOk
  rw [bind_of_ok (attempt_eq (rollback run i) r)] at hOk
  cases hEnds : ends (rollback run i) r with
  | mk outcome r₁ =>
    rw [hEnds] at hOk
    dsimp only at hOk
    split at hOk <;> cases hOk

/-- **When a commit returns**: the transaction was open, and the sink has taken what was staged
then. Afterwards the transaction is closed, and nothing but its journal is cleared. -/
theorem commit_eq_ok_iff :
    commit run i r = .ok () r' ↔ (r.transaction i).closed = false ∧ ∃ r₁,
      Takes run (r.transaction i).sink (heard (r.transaction i).sink (r.transaction i).staged)
        (r.delivering i) r₁ ∧
      r' = r₁.putTransaction i { r₁.transaction i with journal := [], closed := true } := by
  cases hOpen : (r.transaction i).closed with
  | true =>
    have hCommit : commit run i r = .error .transactionClosed r :=
      bind_of_error (whileOpen_of_closed hOpen)
    rw [hCommit]
    simp
  | false =>
    cases hDeliver : Sink.deliver run (r.transaction i).sink (r.transaction i).staged
        (r.delivering i) with
    | ok _ r₁ =>
      rw [commit_of_delivered hOpen hDeliver]
      constructor
      · rintro ⟨⟩
        exact ⟨rfl, r₁, deliver_eq_ok_iff.1 hDeliver, rfl⟩
      · rintro ⟨-, r₂, hTakes, rfl⟩
        rw [deliver_eq_ok_iff.2 hTakes] at hDeliver
        cases hDeliver
        rfl
    -- the sink has refused an event, and the journal is unwound
    | error x r₁ =>
      rw [commit_of_undelivered hOpen hDeliver]
      constructor
      · intro hOk
        exact absurd hOk rollbackAfter_ne_ok
      · rintro ⟨-, r₂, hTakes, -⟩
        rw [deliver_eq_ok_iff.2 hTakes] at hDeliver
        cases hDeliver

/-- **What has become of the accepted events when a commit has returned.** The sink has taken those
that were staged before, each once and in staging order, and the transaction is over. If the sink
has made calls on the transaction meanwhile, the events that these calls have staged are still held
back. So the sink has taken all that was accepted exactly if none was staged meanwhile. -/
theorem commit_tells_staged {r₀ : Realm κ} {early : List (Call κ)}
    (hBegun : r₀.transaction i = .begun sink) (hSink : sink ≠ .null) (hEarly : Calls i r₀ early r)
    (hCommit : commit run i r = .ok () r') :
    ∃ r₁, Takes run sink (eventsOf early) (r.delivering i) r₁ ∧
      r' = r₁.putTransaction i { r₁.transaction i with journal := [], closed := true } ∧
      Over run i r' ∧
      ∀ late, Calls i (r.delivering i) late r₁ →
        (r'.transaction i).staged = eventsOf late ∧
        (eventsOf early = eventsOf (early ++ late) ↔ eventsOf late = []) := by
  have hTransaction : r.transaction i = ⟨sink, entriesOf early, eventsOf early, false⟩ := by
    rw [hEarly.transaction_eq (by rw [hBegun]; rfl), hBegun]
    simp [begun]
  have hHeard : heard sink (eventsOf early) = eventsOf early := by
    cases sink with
    | null => exact absurd rfl hSink
    | _ => rfl
  obtain ⟨-, r₁, hTakes, rfl⟩ := commit_eq_ok_iff.1 hCommit
  rw [hTransaction, hHeard] at hTakes
  refine ⟨r₁, hTakes, rfl, ?_, fun late hLate => ⟨?_, ?_⟩⟩
  · exact over_of_journal_eq_nil (by rw [transaction_putTransaction])
      (by rw [transaction_putTransaction])
  -- nothing is staged when the first event is told, so all that is left has come later
  · have hStart : (r.delivering i).transaction i = ⟨sink, entriesOf early, [], false⟩ := by
      rw [Realm.delivering, transaction_putTransaction, hTransaction]
    have hLeft := hLate.transaction_eq (by rw [hStart])
    rw [transaction_putTransaction, hLeft, hStart]
    rfl
  · rw [eventsOf_append, List.self_eq_append_right]

/-! ## A session in which an event is lost -/

open Scenario (Code Step runCode)

/-- A step that stages an event on the transaction. -/
def stagingStep (event : String) : Step :=
  .mk (.call .stage) ⟨[.value (.str event)], some "transaction", none⟩ none false

/-- When the sink is told of the first event, it stages another one on the transaction. -/
def lateOpening : Code :=
  [.mk (.createScripted [some ⟨some [stagingStep "late"], none⟩]) ⟨[], none, none⟩ (some "sink")
    false,
   .mk (.create .transaction) ⟨[.name "sink"], none, none⟩ (some "transaction") false]

def committingStep : Step := .mk (.call .commit) ⟨[], some "transaction", none⟩ none false

/-- The realm before the first event is staged: the sink is object 0, the transaction object 1. -/
def lateStart : Realm Code := Scenario.playFrom .empty lateOpening

/-- The realm before the commit. -/
def lateRealm : Realm Code := (ends ((stagingStep "first").run (runCode 2)) lateStart).2

/-- A step that stages an event makes one call on the transaction. -/
theorem calls_first : Calls 1 lateStart [.stage (.str "first")] lateRealm := by
  let staged := (ends (stage 1 (.str "first")) lateStart).2
  have hStage : stage 1 (.str "first") lateStart = .ok () staged := rfl
  have hAlone : lateRealm.transaction 1 = staged.transaction 1 := rfl
  exact .call hStage (.other hAlone (.done _))

/-- The sink takes the first event, and the one that it has staged is left. -/
theorem commit_tells_staged_late : ∃ r',
    commit (runCode 2) 1 lateRealm = .ok () r' ∧ (r'.transaction 1).staged = [.str "late"] ∧
      Over (runCode 2) 1 r' := by
  have hReturns : (ends (commit (runCode 2) 1) lateRealm).1.isOk = true := by decide +kernel
  obtain ⟨_, r', hCommit⟩ := exists_ok_of_ends hReturns
  have hBegun : lateStart.transaction 1 = .begun (.object .scriptSink 0) := rfl
  obtain ⟨r₁, hTakes, -, hOver, hLeft⟩ :=
    commit_tells_staged hBegun (by intro hNull; cases hNull) calls_first hCommit
  -- the sink keeps the one event that it is told of, and then it makes a call on the transaction
  let start := lateRealm.delivering 1
  let kept := start.putSink 0 { start.sink 0 with events := [.str "first"] }
  let told := (ends (Sink.tell (runCode 2) (.object .scriptSink 0) (.str "first")) start).2
  have hTold : told = r₁ := by
    cases hTakes with
    | next hTell hRest =>
      cases hRest
      exact congrArg Prod.snd (ends_of_ok hTell)
  let staged := (ends (stage 1 (.str "late")) kept).2
  have hKept : kept.transaction 1 = start.transaction 1 := rfl
  have hStage : stage 1 (.str "late") kept = .ok () staged := rfl
  have hAlone : told.transaction 1 = staged.transaction 1 := rfl
  have hLate : Calls 1 start [.stage (.str "late")] told :=
    .other hKept (.call hStage (.other hAlone (.done _)))
  rw [hTold] at hLate
  exact ⟨r', hCommit, (hLeft _ hLate).1, hOver⟩

/-- **An accepted event can be lost.** All steps of the session succeed, the one that stages the
late event among them, and the transaction is committed; but the sink is told of the first event
only. -/
theorem late_event_is_lost :
    let r := Scenario.playFrom .empty (lateOpening ++ [stagingStep "first", committingStep])
    r.trace =
      [.step "new ScriptSink" (.done (.value (.object .scriptSink 0))),
       .step "new Transaction" (.done (.value (.object .transaction 1))),
       .step "stage" (.done (.value .null)), .step "stage" (.done (.value .null)),
       .step "commit" (.done (.value .null))] ∧
    (r.sink 0).events = [.str "first"] ∧
    r.transaction 1 = ⟨.object .scriptSink 0, [], [.str "late"], true⟩ := by
  exact ⟨rfl, rfl, rfl⟩

end Transaction

end WorldForge

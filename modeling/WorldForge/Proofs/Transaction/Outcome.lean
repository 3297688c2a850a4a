import WorldForge.Proofs.Realm.Worked
import WorldForge.Realm.Transaction

/-!
# How transactions come out

The body of a transaction's block makes calls on it (`Calls`): it stages events and enters
compensations, in any order, and in between it may do whatever leaves the transaction alone. When
the block is left, the transaction makes others act (`Deeds`): it tells its sink of events, and it
has compensations performed. Each of these deeds has its outcome, and that is all that the end of
the block is made of, apart from records in the log and the transaction's own state.

Sinks and compensations may raise any error. They must not operate on the transaction that they are
called by (`Aloof`), since it looks at its own state anew after it has called them.

Main results:

* `delivered_or_fails` — events are told one after the other, up to the first that is not taken;
* `rolledBack` — a rollback performs every compensation, and reports what was raised;
* `committed`, `abandoned` — how a block ends after its body has succeeded, and after it has failed;
* `block_comes_out` — a block is left in one of three ways, and its transaction is over then.
-/

namespace WorldForge.Transaction

variable {κ : Type}

/-! ## The body of a block -/

/-- A call that the body of a block makes on its transaction. -/
inductive Call (κ : Type) where
  | stage (event : Value)
  | onRollback (entry : JournalEntry κ)

namespace Call

def perform (i : Nat) : Call κ → Act κ Unit
  | stage event => Transaction.stage i event
  | onRollback entry => Transaction.onRollback i entry

def event? : Call κ → Option Value
  | stage event => some event
  | onRollback _ => none

def entry? : Call κ → Option (JournalEntry κ)
  | stage _ => none
  | onRollback entry => some entry

end Call

/-- The events that calls stage, in staging order. -/
def eventsOf (calls : List (Call κ)) : List Value := calls.filterMap Call.event?

/-- The compensations that calls enter, newest first. -/
def entriesOf (calls : List (Call κ)) : List (JournalEntry κ) :=
  (calls.filterMap Call.entry?).reverse

/-- The event of a first call is staged before those of the calls that follow. -/
theorem eventsOf_cons (c : Call κ) (calls : List (Call κ)) :
    eventsOf (c :: calls) = eventsOf [c] ++ eventsOf calls :=
  List.filterMap_append (l := [c])

/-- The compensation of a first call stands behind those of the calls that follow, as the newest
comes first. -/
theorem entriesOf_cons (c : Call κ) (calls : List (Call κ)) :
    entriesOf (c :: calls) = entriesOf calls ++ entriesOf [c] := by
  show (([c] ++ calls).filterMap Call.entry?).reverse = _
  rw [List.filterMap_append, List.reverse_append]
  rfl

/-- What happens from one realm to another is that calls are made on transaction `i`, in this order.
In between anything may happen that leaves the transaction as it is. -/
inductive Calls (i : Nat) : Realm κ → List (Call κ) → Realm κ → Prop
  | done (r : Realm κ) : Calls i r [] r
  | call {r r₁ r' : Realm κ} {c : Call κ} {calls : List (Call κ)}
      (hCall : c.perform i r = .ok () r₁) (hRest : Calls i r₁ calls r') :
      Calls i r (c :: calls) r'
  | other {r r₁ r' : Realm κ} {calls : List (Call κ)}
      (hAlone : r₁.transaction i = r.transaction i) (hRest : Calls i r₁ calls r') :
      Calls i r calls r'

section Body

variable {i : Nat} {r r' : Realm κ} {t : Transaction κ} {calls : List (Call κ)}

@[simp] theorem transaction_putTransaction (r : Realm κ) (i : Nat) (t : Transaction κ) :
    (r.putTransaction i t).transaction i = t := by
  show ((r.transactions.insert i t).find? i).getD _ = t
  rw [Table.find?_insert_self]
  rfl

@[simp] theorem transaction_appendTrace (r : Realm κ) (i : Nat) (entries : List Entry) :
    (r.appendTrace entries).transaction i = r.transaction i := rfl

/-- An open transaction goes on to what is asked of it. -/
theorem whileOpen_of_open (h : (r.transaction i).closed = false) :
    whileOpen i r = .ok (r.transaction i) r := by
  unfold whileOpen
  rw [bind_of_ok (get_eq r), h]
  rfl

/-- A closed transaction refuses whatever is asked of it. -/
theorem whileOpen_of_closed (h : (r.transaction i).closed = true) :
    whileOpen i r = .error .transactionClosed r := by
  unfold whileOpen
  rw [bind_of_ok (get_eq r), h]
  rfl

/-- What a call does to a transaction that is open: the event comes last, or the entry first. -/
theorem perform_of_open (c : Call κ) (hOpen : (r.transaction i).closed = false) :
    ∃ r', c.perform i r = .ok () r' ∧ r'.transaction i =
      { r.transaction i with
        journal := entriesOf [c] ++ (r.transaction i).journal
        staged := (r.transaction i).staged ++ eventsOf [c] } := by
  cases c with
  | stage event =>
    refine ⟨r.putTransaction i
      { r.transaction i with staged := (r.transaction i).staged ++ [event] }, ?_, ?_⟩
    · show Transaction.stage i event r = _
      unfold Transaction.stage
      rw [bind_of_ok (whileOpen_of_open hOpen)]
      rfl
    · rw [transaction_putTransaction]
      rfl
  | onRollback entry =>
    refine ⟨(r.putTransaction i { r.transaction i with
      journal := entry :: (r.transaction i).journal }).appendTrace [.log (.journaled entry.text)],
      ?_, ?_⟩
    · show Transaction.onRollback i entry r = _
      unfold Transaction.onRollback
      rw [bind_of_ok (whileOpen_of_open hOpen)]
      rfl
    · rw [transaction_appendTrace, transaction_putTransaction]
      simp [entriesOf, eventsOf, Call.entry?, Call.event?]

/-- **What the body of a block leaves.** Whatever else it does, its events are staged in order, and
its compensations are in the journal, the newest first. -/
theorem Calls.transaction_eq (h : Calls i r calls r') (hOpen : (r.transaction i).closed = false) :
    r'.transaction i =
      { r.transaction i with
        journal := entriesOf calls ++ (r.transaction i).journal
        staged := (r.transaction i).staged ++ eventsOf calls } := by
  induction h with
  | done r => simp [entriesOf, eventsOf]
  | other hAlone _ ih =>
    rw [hAlone] at ih
    exact ih hOpen
  -- a call comes before the rest, so its event stands first and its entry last
  | @call r r₁ r' c calls hCall _ ih =>
    obtain ⟨r₂, hDone, hAfter⟩ := perform_of_open c hOpen
    rw [hCall] at hDone
    cases hDone
    have hRest := ih (by rw [hAfter]; exact hOpen)
    rw [hRest, hAfter, eventsOf_cons c calls, entriesOf_cons c calls]
    simp only [List.append_assoc]

/-- A transaction that is open takes all calls. -/
theorem exists_calls (hOpen : (r.transaction i).closed = false) (calls : List (Call κ)) :
    ∃ r', calls.forM (Call.perform i) r = .ok () r' ∧ Calls i r calls r' := by
  induction calls generalizing r with
  | nil => exact ⟨r, rfl, .done r⟩
  | cons c rest ih =>
    obtain ⟨r₁, hCall, hAfter⟩ := perform_of_open c hOpen
    obtain ⟨r', hRun, hRest⟩ := ih (by rw [hAfter]; exact hOpen)
    refine ⟨r', ?_, .call hCall hRest⟩
    show (c.perform i >>= fun _ => rest.forM (Call.perform i)) r = _
    rw [bind_of_ok hCall, hRun]

end Body

/-! ## Deeds -/

/-- What a transaction makes others do when it ends: its sink is told of a staged event, or a
compensation of its journal is performed. -/
inductive Deed (κ : Type) where
  | tell (event : Value)
  | undo (entry : JournalEntry κ)

def Deed.perform (run : κ → Act κ Unit) (sink : Value) : Deed κ → Act κ Unit
  | tell event => Sink.tell run sink event
  | undo entry => entry.action.perform run

/-- What happens from one realm to another is that deeds are done, in this order and with these
outcomes, each of them once. In between, nothing but transaction `i` is written, and the log. -/
inductive Deeds (run : κ → Act κ Unit) (i : Nat) (sink : Value) :
    Realm κ → List (Deed κ × Except Error Unit) → Realm κ → Prop
  | done (r : Realm κ) : Deeds run i sink r [] r
  | deed {r r₁ r' : Realm κ} {d : Deed κ} {o : Except Error Unit}
      {os : List (Deed κ × Except Error Unit)} (hDeed : ends (d.perform run sink) r = (o, r₁))
      (hRest : Deeds run i sink r₁ os r') : Deeds run i sink r ((d, o) :: os) r'
  | write {r r' : Realm κ} {os : List (Deed κ × Except Error Unit)} (t : Transaction κ)
      (hRest : Deeds run i sink (r.putTransaction i t) os r') : Deeds run i sink r os r'
  | log {r r' : Realm κ} {os : List (Deed κ × Except Error Unit)} (record : LogRecord)
      (hRest : Deeds run i sink (r.appendTrace [.log record]) os r') : Deeds run i sink r os r'

/-- Deeds do not operate on transaction `i`: whichever of them have been done, the next one leaves
the transaction as it is. -/
def Aloof (run : κ → Act κ Unit) (i : Nat) (sink : Value) (deeds : List (Deed κ)) (r : Realm κ) :
    Prop :=
  ∀ os r₁, Deeds run i sink r os r₁ → (∀ p ∈ os, p.1 ∈ deeds) →
    ∀ d ∈ deeds, (ends (d.perform run sink) r₁).2.transaction i = r₁.transaction i

/-- An event that the sink has taken. -/
def taken (event : Value) : Deed κ × Except Error Unit := (.tell event, .ok ())

/-- The entries of a journal with their outcomes. -/
def undone (journal : List (JournalEntry κ)) (outcomes : List (Except Error Unit)) :
    List (Deed κ × Except Error Unit) :=
  (journal.map Deed.undo).zip outcomes

/-- The events that a sink is told of; nobody is told of none. -/
def heard (sink : Value) (events : List Value) : List Value :=
  match sink with
  | .null => []
  | _ => events

section Doing

variable {run : κ → Act κ Unit} {i : Nat} {sink : Value} {deeds : List (Deed κ)}
  {r r₁ r' : Realm κ} {os ps : List (Deed κ × Except Error Unit)} {events : List Value}
  {journal : List (JournalEntry κ)} {outcomes : List (Except Error Unit)} {e : Error}

/-- Deeds that are done in a row make up one row of deeds. -/
theorem Deeds.append (h : Deeds run i sink r os r₁) (hRest : Deeds run i sink r₁ ps r') :
    Deeds run i sink r (os ++ ps) r' := by
  induction h with
  | done r => exact hRest
  | deed hDeed _ ih => exact .deed hDeed (ih hRest)
  | write t _ ih => exact .write t (ih hRest)
  | log record _ ih => exact .log record (ih hRest)

/-- Deeds that keep aloof still do so when some of them have been done. -/
theorem Aloof.after (h : Aloof run i sink deeds r) (hDeeds : Deeds run i sink r os r₁)
    (hMem : ∀ p ∈ os, p.1 ∈ deeds) : Aloof run i sink deeds r₁ := by
  intro ps r₂ hMore hMore' d hd
  apply h _ _ (hDeeds.append hMore) ?_ d hd
  intro p hp
  rcases List.mem_append.1 hp with hOld | hNew
  · exact hMem p hOld
  · exact hMore' p hNew

/-- What is written to the transaction in between does not make deeds operate on it. -/
theorem Aloof.write (h : Aloof run i sink deeds r) (t : Transaction κ) :
    Aloof run i sink deeds (r.putTransaction i t) :=
  h.after (.write t (.done _)) (by simp)

/-- What is logged in between does not make deeds operate on a transaction. -/
theorem Aloof.log (h : Aloof run i sink deeds r) (record : LogRecord) :
    Aloof run i sink deeds (r.appendTrace [.log record]) :=
  h.after (.log record (.done _)) (by simp)

/-- One deed leaves the transaction as it is, and those after it will do so too. -/
theorem Aloof.deed {d : Deed κ} {o : Except Error Unit} (h : Aloof run i sink deeds r)
    (hMem : d ∈ deeds) (hDeed : ends (d.perform run sink) r = (o, r₁)) :
    r₁.transaction i = r.transaction i ∧ Aloof run i sink deeds r₁ := by
  constructor
  · have hSame := h [] r (.done r) (by simp) d hMem
    rwa [hDeed] at hSame
  · apply h.after (.deed hDeed (.done r₁))
    simpa using hMem

/-- **Events are told one after the other.** The sink takes all of them, or those before the first
at which it raises an error, and then it is told of no more. -/
theorem delivered_or_fails (h : Aloof run i sink deeds r)
    (hMem : ∀ event ∈ events, .tell event ∈ deeds) :
    ∃ r', r'.transaction i = r.transaction i ∧ Aloof run i sink deeds r' ∧
      ((events.forM (Sink.tell run sink) r = .ok () r' ∧
          Deeds run i sink r (events.map taken) r') ∨
        ∃ before event after x, events = before ++ event :: after ∧
          events.forM (Sink.tell run sink) r = .error x r' ∧
          Deeds run i sink r (before.map taken ++ [(.tell event, .error x)]) r') := by
  -- each event finds a realm in which the deeds are still aloof
  induction events generalizing r with
  | nil => exact ⟨r, rfl, h, .inl ⟨rfl, .done r⟩⟩
  | cons event rest ih =>
    have hRun : (event :: rest).forM (Sink.tell run sink) r =
        (Sink.tell run sink event >>= fun _ => rest.forM (Sink.tell run sink)) r := rfl
    rcases hDeed : ends (Sink.tell run sink event) r with ⟨o, r₁⟩
    obtain ⟨hSame, hAloof⟩ := h.deed (hMem event (.head _)) hDeed
    cases o with
    -- the sink raises an error, and the others are not told
    | error x =>
      refine ⟨r₁, hSame, hAloof, .inr ⟨[], event, rest, x, rfl, ?_, .deed hDeed (.done r₁)⟩⟩
      rw [hRun, bind_of_error (eq_error_of_ends hDeed)]
    | ok _ =>
      obtain ⟨r', hSame', hAloof', hRest⟩ := ih hAloof fun ev hev => hMem ev (.tail _ hev)
      rw [hRun, bind_of_ok (eq_ok_of_ends hDeed)]
      refine ⟨r', hSame'.trans hSame, hAloof', ?_⟩
      rcases hRest with ⟨hAll, hDeeds⟩ | ⟨before, ev, after, x, rfl, hFail, hDeeds⟩
      · exact .inl ⟨hAll, .deed hDeed hDeeds⟩
      · exact .inr ⟨event :: before, ev, after, x, rfl, hFail, .deed hDeed hDeeds⟩

/-- **Delivery is telling the sink of one event after the other**, of those that it hears of. Where
there is no sink, none is heard. -/
theorem deliver_eq (run : κ → Act κ Unit) (sink : Value) (events : List Value) :
    Sink.deliver run sink events = (heard sink events).forM (Sink.tell run sink) := by
  cases sink <;> rfl

/-- To unwind a journal is to do its entries, the newest first. If none of them touches the
transaction, then this is as it was, and the journal has been undone entry by entry. -/
theorem deeds_of_unwound
    (hUnwound : Unwound Act.report JournalEntry.text (fun e => e.action.perform run) r journal
      outcomes r')
    (h : Aloof run i sink deeds r) (hMem : ∀ entry ∈ journal, .undo entry ∈ deeds) :
    Deeds run i sink r (undone journal outcomes) r' ∧ r'.transaction i = r.transaction i := by
  induction hUnwound with
  | nil r => exact ⟨.done r, rfl⟩
  | @undone r r₁ r' entry older outcomes hUndo _ ih =>
    have hDeed : ends ((Deed.undo entry).perform run sink) r = (.ok (), r₁) := ends_of_ok hUndo
    obtain ⟨hSame, hAloof⟩ := h.deed (hMem entry (.head _)) hDeed
    obtain ⟨hDeeds, hSame'⟩ := ih hAloof fun entry he => hMem entry (.tail _ he)
    exact ⟨.deed hDeed hDeeds, hSame'.trans hSame⟩
  -- the error is reported before the older entries have their turn
  | @failed r r₁ r₂ r' entry older outcomes e hUndo hReport _ ih =>
    have hDeed : ends ((Deed.undo entry).perform run sink) r = (.error e, r₁) :=
      ends_of_error hUndo
    obtain ⟨hSame, hAloof⟩ := h.deed (hMem entry (.head _)) hDeed
    cases hReport
    obtain ⟨hDeeds, hSame'⟩ := ih (hAloof.log _) fun entry he => hMem entry (.tail _ he)
    exact ⟨.deed hDeed (.log _ hDeeds), hSame'.trans hSame⟩

end Doing

/-! ## Leaving a block -/

/-- **What refuses everything**: each call raises the error that the transaction has been closed,
and nothing is done. -/
structure Refuses (run : κ → Act κ Unit) (i : Nat) (r : Realm κ) : Prop where
  call : ∀ c : Call κ, c.perform i r = .error .transactionClosed r
  commit : commit run i r = .error .transactionClosed r
  rollback : rollback run i r = .error .transactionClosed r
  /-- The block of a transaction is left as it came out. -/
  leave : ∀ outcome, leave run i outcome r = release outcome r

/-- A transaction that is over: nothing is pending, it refuses all calls, and it cannot be ended
again. Leaving its block once more does nothing. -/
structure Over (run : κ → Act κ Unit) (i : Nat) (r : Realm κ) : Prop where
  closed : (r.transaction i).closed = true
  pending : pending i r = .ok 0 r
  call : ∀ c : Call κ, c.perform i r = .error .transactionClosed r
  commit : commit run i r = .error .transactionClosed r
  rollback : rollback run i r = .error .transactionClosed r
  leave : ∀ outcome, leave run i outcome r = release outcome r

/-- The ways in which a block can be left. -/
inductive Ending where
  | delivered
  | undelivered
  | abandoned

/-- What is meant by an ending of a block whose body has made `calls` and has come out as `outcome`.
It leads from `r` to `r'`, and the block comes out as `result`. -/
def Ending.Describes (run : κ → Act κ Unit) (i : Nat) (sink : Value) (calls : List (Call κ))
    (outcome : Except Error Unit) (r : Realm κ) (result : Except Error Unit) (r' : Realm κ) :
    Ending → Prop
  -- the sink takes all events in staging order, and nothing is undone
  | delivered => outcome = .ok () ∧ result = .ok () ∧
      Deeds run i sink r ((heard sink (eventsOf calls)).map taken) r'
  -- the sink fails at an event, is told of no more, and then everything is undone
  | undelivered => outcome = .ok () ∧ ∃ before event after x os,
      heard sink (eventsOf calls) = before ++ event :: after ∧
      os.length = (entriesOf calls).length ∧ result = .error (afterRollback (raised os) x) ∧
      Deeds run i sink r
        (before.map taken ++ (.tell event, .error x) :: undone (entriesOf calls) os) r'
  -- the body fails, the sink is told of nothing, and everything is undone
  | abandoned => ∃ e os, outcome = .error e ∧ os.length = (entriesOf calls).length ∧
      result = .error (afterRollback (raised os) e) ∧
      Deeds run i sink r (undone (entriesOf calls) os) r'

/-- What a transaction makes others do, given the calls that have been made on it. -/
def deedsOf (calls : List (Call κ)) : List (Deed κ) :=
  (eventsOf calls).map Deed.tell ++ (entriesOf calls).map Deed.undo

/-- To tell of a staged event is among the deeds of the calls that staged it. -/
theorem tell_mem_deedsOf {sink event : Value} {calls : List (Call κ)}
    (h : event ∈ heard sink (eventsOf calls)) : .tell event ∈ deedsOf calls := by
  have hStaged : event ∈ eventsOf calls := by
    cases sink with
    | null => cases h
    | _ => exact h
  exact List.mem_append_left _ (List.mem_map_of_mem hStaged)

/-- To undo an entry is among the deeds of the calls that entered it. -/
theorem undo_mem_deedsOf {entry : JournalEntry κ} {calls : List (Call κ)}
    (h : entry ∈ entriesOf calls) : .undo entry ∈ deedsOf calls :=
  List.mem_append_right _ (List.mem_map_of_mem h)

section Leaving

variable {run : κ → Act κ Unit} {i : Nat} {sink : Value} {deeds : List (Deed κ)}
  {r r₁ r' : Realm κ} {journal : List (JournalEntry κ)} {staged : List Value}
  {calls : List (Call κ)} {outcome result : Except Error Unit} {e : Error}

/-- A closed transaction refuses everything. -/
theorem refuses_of_closed (run : κ → Act κ Unit) (hClosed : (r.transaction i).closed = true) :
    Refuses run i r := by
  have hRefused : whileOpen i r = .error .transactionClosed r := whileOpen_of_closed hClosed
  refine ⟨fun c => ?_, bind_of_error hRefused, bind_of_error hRefused, fun outcome => ?_⟩
  · cases c <;> exact bind_of_error hRefused
  · unfold Transaction.leave
    rw [bind_of_ok (get_eq r), if_pos hClosed]

/-- A transaction is over when it is closed and has nothing in its journal, whatever events it still
holds back. -/
theorem over_of_journal_eq_nil (hClosed : (r.transaction i).closed = true)
    (hJournal : (r.transaction i).journal = []) : Over run i r := by
  have hPending : (r.transaction i).journal.length = 0 := by
    rw [hJournal]
    rfl
  obtain ⟨hCall, hCommit, hRollback, hLeave⟩ := refuses_of_closed run hClosed
  refine ⟨hClosed, ?_, hCall, hCommit, hRollback, hLeave⟩
  show EStateM.Result.ok (r.transaction i).journal.length r = _
  rw [hPending]

/-- A closed transaction with nothing staged is over. -/
theorem over_of_closed (h : r.transaction i = ⟨sink, [], [], true⟩) : Over run i r :=
  over_of_journal_eq_nil (by rw [h]) (by rw [h])

/-- A rollback raises what its compensations have raised, if they have raised anything. -/
theorem rollback_eq {os : List (Except Error Unit)} (hOpen : (r.transaction i).closed = false)
    (hUnwound : Unwound Act.report JournalEntry.text (fun e => e.action.perform run)
      (r.putTransaction i { r.transaction i with journal := [], staged := [], closed := true })
      (r.transaction i).journal os r') :
    rollback run i r =
      if raised os = [] then .ok () r' else .error (.rollbackFailed (raised os) none) r' := by
  unfold rollback
  rw [bind_of_ok (whileOpen_of_open hOpen), bind_of_ok (modify_eq _ r),
    bind_of_ok hUnwound.unwind_eq]
  cases raised os <;> rfl

/-- **What is raised after a rollback**: the error that was its reason, or an error that tells of
the failed compensations with this error as its cause. -/
theorem rollbackAfter_eq {os : List (Except Error Unit)}
    (hOpen : (r.transaction i).closed = false)
    (hUnwound : Unwound Act.report JournalEntry.text (fun e => e.action.perform run)
      (r.putTransaction i { r.transaction i with journal := [], staged := [], closed := true })
      (r.transaction i).journal os r') :
    rollbackAfter (α := Unit) run i e r = .error (afterRollback (raised os) e) r' := by
  unfold rollbackAfter
  rw [bind_of_ok (attempt_eq (rollback run i) r)]
  have hRollback := rollback_eq hOpen hUnwound
  -- the error is the one that was there before, unless compensations have failed as well
  cases hRaised : raised os with
  | nil =>
    rw [hRaised, if_pos rfl] at hRollback
    rw [ends_of_ok hRollback]
    rfl
  | cons f rest =>
    rw [hRaised, if_neg (List.cons_ne_nil f rest)] at hRollback
    rw [ends_of_error hRollback]
    rfl

/-- **A rollback performs every compensation**, the newest first, whatever they raise. What called
for it is raised then, or it is the cause of what reports their errors. The transaction is closed
before the first one is performed. -/
theorem rolledBack (hTransaction : r.transaction i = ⟨sink, journal, staged, false⟩)
    (h : Aloof run i sink deeds r) (hMem : ∀ entry ∈ journal, .undo entry ∈ deeds) (e : Error) :
    ∃ os r', rollbackAfter (α := Unit) run i e r = .error (afterRollback (raised os) e) r' ∧
      os.length = journal.length ∧ Deeds run i sink r (undone journal os) r' ∧
      r'.transaction i = ⟨sink, [], [], true⟩ := by
  have hReport : ∀ (record : LogRecord) (r : Realm κ), ∃ r', Act.report record r = .ok () r' :=
    fun record r => ⟨_, rfl⟩
  have hOpen : (r.transaction i).closed = false := by rw [hTransaction]
  -- the transaction is closed first, and then its old journal is unwound
  obtain ⟨os, r', hUnwound⟩ : ∃ os r', Unwound Act.report JournalEntry.text
      (fun e => e.action.perform run) (r.putTransaction i ⟨sink, [], [], true⟩) journal os r' :=
    exists_unwound hReport journal _
  obtain ⟨hDeeds, hSame⟩ := deeds_of_unwound hUnwound (h.write _) hMem
  refine ⟨os, r', rollbackAfter_eq hOpen ?_, hUnwound.length_eq, .write _ hDeeds, ?_⟩
  · rw [hTransaction]
    exact hUnwound
  · rw [hSame, transaction_putTransaction]

/-- A commit whose events are all taken closes the transaction and undoes nothing. -/
theorem commit_of_delivered (hOpen : (r.transaction i).closed = false)
    (hDeliver : Sink.deliver run (r.transaction i).sink (r.transaction i).staged
      (r.putTransaction i { r.transaction i with staged := [] }) = .ok () r₁) :
    commit run i r =
      .ok () (r₁.putTransaction i { r₁.transaction i with journal := [], closed := true }) := by
  unfold commit
  rw [bind_of_ok (whileOpen_of_open hOpen), bind_of_ok (modify_eq _ r), bind_of_ok (attempt_eq _ _),
    ends_of_ok hDeliver]
  rfl

/-- A commit at which the sink fails reports it and rolls back, with the error of the sink for its
reason. -/
theorem commit_of_undelivered (hOpen : (r.transaction i).closed = false)
    (hDeliver : Sink.deliver run (r.transaction i).sink (r.transaction i).staged
      (r.putTransaction i { r.transaction i with staged := [] }) = .error e r₁) :
    commit run i r = rollbackAfter run i e
      (r₁.appendTrace [.log (.deliveryFailed (r₁.transaction i).journal.length e)]) := by
  unfold commit
  rw [bind_of_ok (whileOpen_of_open hOpen), bind_of_ok (modify_eq _ r), bind_of_ok (attempt_eq _ _),
    ends_of_error hDeliver]
  rfl

/-- **A commit tells the sink of all events, or undoes everything.** -/
theorem committed
    (hTransaction : r.transaction i = ⟨sink, entriesOf calls, eventsOf calls, false⟩)
    (h : Aloof run i sink (deedsOf calls) r) :
    ∃ result r', ends (commit run i) r = (result, r') ∧
      r'.transaction i = ⟨sink, [], [], true⟩ ∧
      ∃ ending, Ending.Describes run i sink calls (.ok ()) r result r' ending := by
  have hOpen : (r.transaction i).closed = false := by rw [hTransaction]
  -- the events are taken out of the transaction before the first of them is told
  let t : Transaction κ := ⟨sink, entriesOf calls, [], false⟩
  obtain ⟨r₁, hSame, hAloof, hDelivery⟩ := delivered_or_fails (h.write t) fun _ => tell_mem_deedsOf
  rw [transaction_putTransaction] at hSame
  have hDeliver : Sink.deliver run (r.transaction i).sink (r.transaction i).staged
      (r.putTransaction i { r.transaction i with staged := [] }) =
        (heard sink (eventsOf calls)).forM (Sink.tell run sink) (r.putTransaction i t) := by
    rw [hTransaction, deliver_eq]
  rcases hDelivery with ⟨hAll, hDeeds⟩ | ⟨before, event, after, x, hEvents, hFail, hDeeds⟩
  -- all events have been taken, and the journal is given up
  · have hCommit := commit_of_delivered hOpen (hDeliver.trans hAll)
    rw [hSame] at hCommit
    let last : Transaction κ := ⟨sink, [], [], true⟩
    have hClosed : Deeds run i sink r ((heard sink (eventsOf calls)).map taken)
        (r₁.putTransaction i last) := by
      rw [← List.append_nil (List.map _ _)]
      exact .write t (hDeeds.append (.write last (.done _)))
    exact ⟨.ok (), _, ends_of_ok hCommit, transaction_putTransaction .., .delivered, rfl, rfl,
      hClosed⟩
  -- the journal is still there when the sink fails, and is undone now
  · have hCommit := commit_of_undelivered hOpen (hDeliver.trans hFail)
    rw [hSame] at hCommit
    let record : LogRecord := .deliveryFailed (entriesOf calls).length x
    have hSame' : (r₁.appendTrace [.log record]).transaction i = t := hSame
    obtain ⟨os, r', hRollback, hLength, hUndone, hOver⟩ :=
      rolledBack hSame' (hAloof.log record) (fun _ => undo_mem_deedsOf) x
    refine ⟨_, r', ends_of_error (hCommit.trans hRollback), hOver, .undelivered, rfl, before,
      event, after, x, os, hEvents, hLength, rfl, ?_⟩
    have hBoth := hDeeds.append (.log record hUndone)
    rw [List.append_assoc] at hBoth
    exact .write t hBoth

/-- A block whose body has come out well is committed. -/
theorem leave_of_ok (hOpen : (r.transaction i).closed = false) :
    leave run i (.ok ()) r = commit run i r := by
  unfold leave
  rw [bind_of_ok (get_eq r), hOpen]
  rfl

/-- A block whose body has failed reports it and is rolled back, with the error of the body for its
reason. -/
theorem leave_of_error (hOpen : (r.transaction i).closed = false) (e : Error) :
    leave run i (.error e) r = rollbackAfter run i e
      (r.appendTrace [.log (.rollingBack (r.transaction i).journal.length e)]) := by
  unfold leave
  rw [bind_of_ok (get_eq r), hOpen]
  rfl

/-- **A block that is left after an error undoes everything.** -/
theorem abandoned
    (hTransaction : r.transaction i = ⟨sink, entriesOf calls, eventsOf calls, false⟩)
    (h : Aloof run i sink (deedsOf calls) r) (e : Error) :
    ∃ result r', ends (leave run i (.error e)) r = (result, r') ∧
      r'.transaction i = ⟨sink, [], [], true⟩ ∧
      Ending.Describes run i sink calls (.error e) r result r' .abandoned := by
  have hOpen : (r.transaction i).closed = false := by rw [hTransaction]
  let record : LogRecord := .rollingBack (r.transaction i).journal.length e
  have hSame : (r.appendTrace [.log record]).transaction i =
      ⟨sink, entriesOf calls, eventsOf calls, false⟩ := hTransaction
  obtain ⟨os, r', hRollback, hLength, hUndone, hOver⟩ :=
    rolledBack hSame (h.log record) (fun _ => undo_mem_deedsOf) e
  exact ⟨_, r', ends_of_error ((leave_of_error hOpen e).trans hRollback), hOver, e, os, rfl,
    hLength, rfl, .log record hUndone⟩

/-- How a block is left can be told by how its body and the block itself have come out. -/
def Ending.ofOutcomes : Except Error Unit → Except Error Unit → Ending
  | .error _, _ => .abandoned
  | .ok _, .ok _ => .delivered
  | .ok _, .error _ => .undelivered

/-- Which ending has been taken can be read from how body and block have come out. So no two of them
describe the same block. -/
theorem Ending.Describes.eq_ofOutcomes {ending : Ending}
    (h : ending.Describes run i sink calls outcome r result r') :
    ending = .ofOutcomes outcome result := by
  -- how the body came out and how the block did tell the ending
  cases ending with
  | delivered =>
    obtain ⟨rfl, rfl, -⟩ := h
    rfl
  | undelivered =>
    obtain ⟨rfl, before, event, after, x, os, -, -, rfl, -⟩ := h
    rfl
  | abandoned =>
    obtain ⟨e, os, rfl, -⟩ := h
    rfl

/-- There are no two endings of one block. -/
theorem existsUnique_ending {ending : Ending}
    (h : Ending.Describes run i sink calls outcome r result r' ending) :
    ∃! ending, Ending.Describes run i sink calls outcome r result r' ending := by
  refine ⟨ending, h, fun other hOther => ?_⟩
  rw [hOther.eq_ofOutcomes, h.eq_ofOutcomes]

/-- **How a block comes out.** Its body has made calls on a transaction that had just begun, and has
come out somehow. Then the block is left in exactly one of the three ways, provided that the sink
and the compensations do not operate on the transaction; and the transaction is over. -/
theorem block_comes_out {body : Act κ Unit} (hBegun : r.transaction i = .begun sink)
    (hBody : ends body r = (outcome, r₁)) (hCalls : Calls i r calls r₁)
    (hAloof : Aloof run i sink (deedsOf calls) r₁) :
    ∃ result r', ends (within run i body) r = (result, r') ∧
      (∃! ending, Ending.Describes run i sink calls outcome r₁ result r' ending) ∧
      Over run i r' := by
  have hTransaction : r₁.transaction i = ⟨sink, entriesOf calls, eventsOf calls, false⟩ := by
    rw [hCalls.transaction_eq (by rw [hBegun]; rfl), hBegun]
    simp [begun]
  have hOpen : (r₁.transaction i).closed = false := by rw [hTransaction]
  have hWithin : within run i body r = leave run i outcome r₁ := by
    unfold within
    rw [bind_of_ok (attempt_eq body r), hBody]
  cases outcome with
  -- the transaction is committed, and the sink decides about the ending
  | ok _ =>
    obtain ⟨result, r', hCommit, hOver, ending, hEnding⟩ := committed hTransaction hAloof
    refine ⟨result, r', ?_, existsUnique_ending hEnding, over_of_closed hOver⟩
    rw [ends, hWithin, leave_of_ok hOpen]
    exact hCommit
  -- it is rolled back, and the sink is not told
  | error e =>
    obtain ⟨result, r', hLeave, hOver, hEnding⟩ := abandoned hTransaction hAloof e
    refine ⟨result, r', ?_, existsUnique_ending hEnding, over_of_closed hOver⟩
    rw [ends, hWithin]
    exact hLeave

/-- Where there is no code to run, nothing operates on the transaction. -/
theorem aloof_of_isEmpty [IsEmpty κ] (run : κ → Act κ Unit) (i : Nat) (sink : Value)
    (deeds : List (Deed κ)) (r : Realm κ) : Aloof run i sink deeds r := by
  intro os r₁ _ _ d _
  cases d with
  | tell event =>
    obtain ⟨sinks, hTold⟩ : ∃ sinks, (ends (Sink.tell run sink event) r₁).2 =
        { r₁ with sinks } := Sink.tell_of_silent (Sink.silent_of_isEmpty r₁) run event
    show (ends (Sink.tell run sink event) r₁).2.transaction i = _
    rw [hTold]
    rfl
  | undo entry =>
    obtain ⟨description, action⟩ := entry
    -- a compensation that runs code is out of the question
    cases action with
    | leaveLabel label => rfl
    | fail kind message => rfl
    | run code => exact isEmptyElim code

end Leaving

/-- A realm with a transaction whose sink does not take its second event. -/
def deafRealm : Realm Empty :=
  (Realm.empty.putSink 0 ⟨[], [none, some ⟨none, some (.badState, "deaf")⟩]⟩).putTransaction 1
    (.begun (.object .scriptSink 0))

/-- The calls of a block: two events, and two compensations, of which the newer one fails. -/
def busyCalls : List (Call Empty) :=
  [.stage (.str "first"), .onRollback (.described "" (.leaveLabel (.str "older"))),
    .stage (.str "second"), .onRollback (.described "" (.fail .badState "stuck"))]

/-- The sink fails at the second event, and then one of two compensations fails. -/
theorem block_comes_out_deaf :
    ∃ r₁ result r', ends (within Empty.elim 1 (busyCalls.forM (Call.perform 1))) deafRealm =
        (result, r') ∧
      Ending.Describes Empty.elim 1 (.object .scriptSink 0) busyCalls (.ok ()) r₁ result r'
        .undelivered ∧
      Over Empty.elim 1 r' := by
  obtain ⟨r₁, hRun, hCalls⟩ : ∃ r₁, busyCalls.forM (Call.perform 1) deafRealm = .ok () r₁ ∧
      Calls 1 deafRealm busyCalls r₁ := exists_calls rfl busyCalls
  have hBegun : deafRealm.transaction 1 = .begun (.object .scriptSink 0) := rfl
  obtain ⟨result, r', hEnds, ⟨ending, hEnding, -⟩, hOver⟩ :=
    block_comes_out hBegun (ends_of_ok hRun) hCalls (aloof_of_isEmpty Empty.elim _ _ _ _)
  have hFails : (ends (within Empty.elim 1 (busyCalls.forM (Call.perform 1))) deafRealm).1.isOk =
      false := by decide +kernel
  -- the block has failed although its body has not
  rw [hEnds] at hFails
  have hWhich := hEnding.eq_ofOutcomes
  cases result with
  | ok _ => cases hFails
  | error e =>
    rw [hWhich] at hEnding
    exact ⟨r₁, _, r', hEnds, hEnding, hOver⟩

end WorldForge.Transaction

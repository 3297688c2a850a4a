import WorldForge.Proofs.Realm.Changes
import WorldForge.Proofs.Transaction.Reentrance

/-!
# The lives of transactions

Whatever is done in a realm, what happens on transactions meanwhile can be computed: the calls that
they accept, the events that their sinks are told of, the compensations that are performed, and when
they close. It is written down by following the operations as they go (`History`): where they run
code, what happens in this code has its place, and it is given by `hist` how that is found out.

Such a history is not just some story that fits. From wherever an operation begins, its history is
that of a run (`Ran`) which leads to where the operation ends, and a run is a run of the operations
themselves (`Ran.isRunOf`). So what is true of runs is true of these histories.

Transactions have numbers, and those that are not there yet have theirs already. So it is told of
every number what happens under it (`Passes`), and a transaction begins with what happens from the
moment at which it is made.

Main results:

* `ran_commit`, `ran_rollback` — each ending of a transaction is a run, with the history of the
  ending;
* `passes_call`, `passes_commit`, `passes_rollback`, `passes_leave` — what happens on a transaction
  when it is operated on, or another one is, whatever code the operation runs;
* `passes_act` — what happens on a transaction during an operation of a factory.
-/

namespace WorldForge.Transaction

variable {κ : Type} {i j : Nat} {r r₁ r' : Realm κ} {run : κ → Act κ Unit}
  {hs hs' : List (Happening κ)}

/-! ## Histories -/

/-- What happens on transactions, in order: each happening with the number of its transaction. -/
abbrev History (κ : Type) := List (Nat × Happening κ)

namespace History

/-- What happens on transaction `i`. -/
def of (i : Nat) (h : History κ) : List (Happening κ) :=
  h.filterMap fun p => if p.1 = i then some p.2 else none

variable {x : Happening κ} {h h' : History κ}

@[simp] theorem of_nil : of i ([] : History κ) = [] := rfl

@[simp] theorem of_append : of i (h ++ h') = of i h ++ of i h' := List.filterMap_append

@[simp] theorem of_cons_self : of i ((i, x) :: h) = x :: of i h := by simp [of]

/-- What happens on another transaction does not count. -/
theorem of_cons_of_ne (hOther : i ≠ j) : of i ((j, x) :: h) = of i h := by
  simp [of, Ne.symm hOther]

@[simp] theorem of_map_self (l : List (Happening κ)) : of i (l.map (i, ·)) = l := by
  induction l with
  | nil => rfl
  | cons x rest ih => rw [List.map_cons, of_cons_self, ih]

theorem of_map_of_ne (hOther : i ≠ j) (l : List (Happening κ)) : of i (l.map (j, ·)) = [] := by
  induction l with
  | nil => rfl
  | cons x rest ih => rw [List.map_cons, of_cons_of_ne hOther, ih]

end History

section Following

variable (run : κ → Act κ Unit) (hist : κ → Realm κ → History κ)

/-- What happens while a compensation is performed: what its code does. -/
def undoHistory : Compensation κ → Realm κ → History κ
  | .run code, r => hist code r
  | .leaveLabel _, _ | .fail .., _ => []

/-- What happens while a sink is told of an event: what the code of its reaction does, when the
event has been noted. -/
def tellHistory (sink event : Value) (r : Realm κ) : History κ :=
  match sink with
  | .object .eventLog k | .object .scriptSink k =>
    match (r.sink k).nextReaction?.bind Reaction.code with
    | none => []
    | some code => hist code (r.putSink k { r.sink k with events := (r.sink k).events ++ [event] })
  | _ => []

/-- What happens while a sink is told of events, up to the first that it does not take. `noted` is
what it is in itself that an event is told. -/
def tellingHistory (noted : Value → History κ) (sink : Value) : List Value → Realm κ → History κ
  | [], _ => []
  | event :: rest, r =>
    noted event ++ (tellHistory hist sink event r ++
      match Sink.tell run sink event r with
      | .ok _ r₁ => tellingHistory noted sink rest r₁
      | .error _ _ => [])

/-- What happens while the journal of transaction `j` is undone, to its end. -/
def undoingHistory (j : Nat) : List (JournalEntry κ) → Realm κ → History κ
  | [], _ => []
  | entry :: older, r =>
    (j, .undone entry) :: (undoHistory hist entry.action r ++
      match entry.action.perform run r with
      | .ok _ r₁ => undoingHistory j older r₁
      | .error _ r₁ =>
        undoingHistory j older (r₁.appendTrace [.log (.compensationFailed entry.text)]))

/-- What happens when transaction `j` is called. -/
def callHistory (c : Call κ) (j : Nat) (r : Realm κ) : History κ :=
  if (r.transaction j).closed then [] else [(j, .accepted c)]

/-- What happens when transaction `j` is rolled back. -/
def rollbackHistory (j : Nat) (r : Realm κ) : History κ :=
  if (r.transaction j).closed then []
  else (j, .closed) :: undoingHistory run hist j (r.transaction j).journal (r.unwinding j)

/-- What happens when transaction `j` is committed. If its sink does not take an event, it is rolled
back, unless it has been ended by then. -/
def commitHistory (j : Nat) (r : Realm κ) : History κ :=
  let t := r.transaction j
  if t.closed then []
  else
    tellingHistory run hist (fun event => [(j, .told event)]) t.sink (heard t.sink t.staged)
        (r.delivering j) ++
      match Sink.deliver run t.sink t.staged (r.delivering j) with
      | .ok _ r₁ => (closing (r₁.transaction j)).map (j, ·)
      | .error x r₁ => rollbackHistory run hist j (r₁.undelivered j x)

/-- What happens when the block of transaction `j` is left that came out as given. -/
def leaveHistory (j : Nat) (outcome : Except Error Unit) (r : Realm κ) : History κ :=
  if (r.transaction j).closed then []
  else
    match outcome with
    | .ok () => commitHistory run hist j r
    | .error e =>
      rollbackHistory run hist j
        (r.appendTrace [.log (.rollingBack (r.transaction j).journal.length e)])

end Following

/-! ## Passing through a realm -/

/-- **What happens on transaction `i` from one realm to another** is `hs`. If the transaction is
there, this is what happens on a run. If it is not there, then it is made on the way, and a run
begins there; or nothing happens, since there is nothing in its place still. -/
structure Passes (i : Nat) (hs : List (Happening κ)) (r r' : Realm κ) : Prop where
  next_le : r.next ≤ r'.next
  ran : i < r.next → Ran i .code r hs r'
  born : r.next ≤ i → (r.transaction i).closed = true →
    r'.transaction i = r.transaction i ∧ hs = [] ∨
      i < r'.next ∧ ∃ r₀ sink, r₀.transaction i = .begun sink ∧ Ran i .code r₀ hs r'

namespace Passes

/-- Nothing happens from a realm to itself. -/
theorem refl (r : Realm κ) : Passes i [] r r :=
  ⟨Nat.le_refl _, fun _ => .rest r, fun _ _ => .inl ⟨rfl, rfl⟩⟩

/-- What happens on the way to a realm, and then on the way from there, happens on the whole way. -/
theorem trans (h : Passes i hs r r₁) (h' : Passes i hs' r₁ r') : Passes i (hs ++ hs') r r' where
  next_le := Nat.le_trans h.next_le h'.next_le
  ran hThere := (h.ran hThere).append (h'.ran (Nat.lt_of_lt_of_le hThere h.next_le))
  born hAbsent hClosed := by
    rcases h.born hAbsent hClosed with ⟨hSame, rfl⟩ | ⟨hThere, r₀, sink, hBegun, hRan⟩
    · rcases Nat.lt_or_ge i r₁.next with hThere | hAbsent'
      -- another object has been made under its number, so that nothing happens on it
      · obtain ⟨hStays, hNone⟩ := (h'.ran hThere).quiet (by rw [hSame, hClosed])
        exact .inl ⟨hStays.trans hSame, hNone⟩
      · have hBorn := h'.born hAbsent' (by rw [hSame, hClosed])
        rwa [hSame] at hBorn
    · exact .inr ⟨Nat.lt_of_lt_of_le hThere h'.next_le, r₀, sink, hBegun,
        hRan.append (h'.ran hThere)⟩

/-- To leave a transaction as it is, is nothing that happens on it. -/
theorem of_same (hNext : r.next ≤ r'.next) (hSame : r'.transaction i = r.transaction i) :
    Passes i [] r r' :=
  ⟨hNext, fun _ => .aside hSame (.rest r'), fun _ _ => .inl ⟨hSame, rfl⟩⟩

end Passes

instance : Realm.Onward (Passes (κ := κ) i []) where
  refl := .refl
  trans := .trans
  change hChange hSame := by
    refine .of_same hChange.next_le ?_
    rw [Realm.transaction, hSame]
    rfl

/-- A transaction is not changed by what is written to another one. -/
theorem transaction_putTransaction_of_ne (hOther : i ≠ j) (r : Realm κ) (t : Transaction κ) :
    (r.putTransaction j t).transaction i = r.transaction i := by
  show ((r.transactions.insert j t).find? i).getD _ = _
  rw [Table.find?_insert, if_neg hOther]
  rfl

theorem passes_putTransaction (hOther : i ≠ j) (r : Realm κ) (t : Transaction κ) :
    Passes i [] r (r.putTransaction j t) :=
  .of_same (Nat.le_refl _) (transaction_putTransaction_of_ne hOther r t)

/-- When a transaction is made, nothing has happened on it yet. -/
theorem passes_begin (sink : Value) (r : Realm κ) :
    Passes i [] r (Realm.putTransaction r.next (.begun sink) { r with next := r.next + 1 }) := by
  by_cases hNew : i = r.next
  · subst hNew
    refine ⟨Nat.le_succ _, fun hThere => absurd hThere (Nat.lt_irrefl _), fun _ _ => .inr ?_⟩
    exact ⟨Nat.lt_succ_self _, _, sink, transaction_putTransaction .., .rest _⟩
  · exact .of_same (Nat.le_succ _) (transaction_putTransaction_of_ne hNew _ _)

/-- A call makes no object. -/
theorem next_of_perform {c : Call κ} (hCall : c.perform i r = .ok () r') : r'.next = r.next := by
  have hOpen := closed_of_accepted hCall
  cases c with
  | stage event =>
    change stage i event r = _ at hCall
    rw [stage, bind_of_ok (whileOpen_of_open hOpen)] at hCall
    cases hCall
    rfl
  | onRollback entry =>
    change onRollback i entry r = _ at hCall
    rw [onRollback, bind_of_ok (whileOpen_of_open hOpen)] at hCall
    cases hCall
    rfl

/-! ## Following the operations -/

section Endings

-- the code that is run has the history that is told of it
variable {hist : κ → Realm κ → History κ}
  (hHist : ∀ code r, Passes i ((hist code r).of i) r (ends (run code) r).2)
include hHist

/-- To perform a compensation is to run its code, if it has any. -/
theorem passes_undo (x : Compensation κ) (r : Realm κ) :
    Passes i ((undoHistory hist x r).of i) r (ends (x.perform run) r).2 := by
  cases x with
  | leaveLabel label => exact .of_same (Nat.le_refl _) rfl
  | fail kind message => exact .refl r
  | run code => exact hHist code r

/-- A sink that is told of an event takes note of it, and then runs the code of its reaction. -/
theorem passes_emit (k : Nat) (event : Value) (r : Realm κ) :
    Passes i ((tellHistory hist (.object .scriptSink k) event r).of i) r
      (ends (Sink.emit run k event) r).2 := by
  let r₁ := r.putSink k { r.sink k with events := (r.sink k).events ++ [event] }
  have hNoted : Passes i [] r r₁ := .of_same (Nat.le_refl _) rfl
  have hEmit : ends (Sink.emit run k event) r =
      ends ((r.sink k).nextReaction?.forM (Reaction.perform run)) r₁ := rfl
  rw [hEmit, tellHistory]
  rcases (r.sink k).nextReaction? with _ | ⟨_ | code, error⟩
  · exact hNoted
  · cases error <;> exact hNoted
  -- the error of a reaction comes after its code, and changes nothing
  · have hEnd : (ends (Reaction.perform run ⟨some code, error⟩) r₁).2 =
        (ends (run code) r₁).2 := by
      show (ends (run code >>= fun _ => error.forM fun e => throw (.raised e.1 e.2)) r₁).2 = _
      rw [ends_bind]
      rcases ends (run code) r₁ with ⟨_ | _, r₂⟩
      · rfl
      · cases error <;> rfl
    show Passes i _ r (ends (Reaction.perform run ⟨some code, error⟩) r₁).2
    rw [hEnd]
    exact hNoted.trans (hHist code r₁)

/-- Only logs and scripted sinks do anything when they are told of an event. -/
theorem passes_tell (sink event : Value) (r : Realm κ) :
    Passes i ((tellHistory hist sink event r).of i) r (ends (Sink.tell run sink event) r).2 := by
  cases sink with
  | object kind k =>
    cases kind with
    | eventLog => exact passes_emit hHist k event r
    | scriptSink => exact passes_emit hHist k event r
    | _ => exact .refl r
  | _ => exact .refl r

omit hHist in
/-- To tell a sink of several events is to go on from where the first one has been taken. -/
theorem ends_telling_of_ok {sink event : Value} {rest : List Value}
    (hTell : Sink.tell run sink event r = .ok () r₁) :
    ends ((event :: rest).forM (Sink.tell run sink)) r =
      ends (rest.forM (Sink.tell run sink)) r₁ := by
  rw [forM_tell_cons, ends, bind_of_ok hTell]
  rfl

omit hHist in
/-- An event that is not taken is the end of the telling. -/
theorem ends_telling_of_error {sink event : Value} {rest : List Value} {x : Error}
    (hTell : Sink.tell run sink event r = .error x r₁) :
    ends ((event :: rest).forM (Sink.tell run sink)) r = (.error x, r₁) := by
  rw [forM_tell_cons]
  exact ends_of_error (bind_of_error hTell)

/-- **Telling the sink of this transaction** of events is a run on it, with this history. -/
theorem ran_telling (sink : Value) (events : List Value) (r : Realm κ) :
    let done := ends (events.forM (Sink.tell run sink)) r
    r.next ≤ done.2.next ∧ (i < r.next → Ran i (.telling run sink events done.1) r
      ((tellingHistory run hist (fun event => [(i, .told event)]) sink events r).of i) done.2) := by
  induction events generalizing r with
  | nil => exact ⟨Nat.le_refl _, fun _ => .toldAll r⟩
  | cons event rest ih =>
    intro done
    have hTold := passes_tell hHist sink event r
    rw [tellingHistory, History.of_append, History.of_cons_self, History.of_nil,
      List.singleton_append]
    cases hTell : Sink.tell run sink event r with
    -- the event is taken, and those after it are told where the reaction has led
    | ok _ r₁ =>
      rw [ends_of_ok hTell] at hTold
      rw [show done = _ from ends_telling_of_ok hTell]
      obtain ⟨hNext, hRest⟩ := ih r₁
      refine ⟨Nat.le_trans hTold.next_le hNext, fun hThere => ?_⟩
      rw [History.of_append]
      exact .told hTell (hTold.ran hThere) (hRest (Nat.lt_of_lt_of_le hThere hTold.next_le))
    | error x r₁ =>
      rw [ends_of_error hTell] at hTold
      rw [show done = _ from ends_telling_of_error hTell]
      refine ⟨hTold.next_le, fun hThere => ?_⟩
      rw [History.of_append, History.of_nil, List.append_nil]
      exact .untaken hTell (hTold.ran hThere)

/-- While any other sink is told of events, the code of its reactions is all that happens. -/
theorem passes_telling {noted : Value → History κ} (hNoted : ∀ event, (noted event).of i = [])
    (sink : Value) (events : List Value) (r : Realm κ) :
    Passes i ((tellingHistory run hist noted sink events r).of i) r
      (ends (events.forM (Sink.tell run sink)) r).2 := by
  induction events generalizing r with
  | nil => exact .refl r
  | cons event rest ih =>
    have hTold := passes_tell hHist sink event r
    rw [tellingHistory, History.of_append, hNoted, List.nil_append, History.of_append]
    -- that an event is told is noted of another transaction, if of any
    cases hTell : Sink.tell run sink event r with
    | ok _ r₁ =>
      rw [ends_of_ok hTell] at hTold
      rw [ends_telling_of_ok hTell]
      exact hTold.trans (ih r₁)
    | error x r₁ =>
      rw [ends_of_error hTell] at hTold
      rw [ends_telling_of_error hTell]
      exact hTold.trans (.refl r₁)

/-- **Undoing the journal of this transaction** is a run on it, with this history. -/
theorem ran_undoing {journal : List (JournalEntry κ)} {os : List (Except Error Unit)}
    (h : Unwound Act.report JournalEntry.text (fun e => e.action.perform run) r journal os r') :
    r.next ≤ r'.next ∧ (i < r.next → Ran i (.undoing run journal os) r
      ((undoingHistory run hist i journal r).of i) r') := by
  induction h with
  | nil r => exact ⟨Nat.le_refl _, fun _ => .undoneAll r⟩
  | @undone r r₁ r' entry older os hUndo _ ih =>
    have hDone := passes_undo hHist entry.action r
    rw [ends_of_ok hUndo] at hDone
    refine ⟨Nat.le_trans hDone.next_le ih.1, fun hThere => ?_⟩
    rw [undoingHistory, hUndo, History.of_cons_self, History.of_append]
    exact .undone hUndo (hDone.ran hThere) (ih.2 (Nat.lt_of_lt_of_le hThere hDone.next_le))
  | @failed r r₁ r₂ r' entry older os x hUndo hReport _ ih =>
    cases hReport
    have hDone := passes_undo hHist entry.action r
    rw [ends_of_error hUndo] at hDone
    refine ⟨Nat.le_trans hDone.next_le ih.1, fun hThere => ?_⟩
    rw [undoingHistory, hUndo, History.of_cons_self, History.of_append]
    exact .failed hUndo (hDone.ran hThere) (ih.2 (Nat.lt_of_lt_of_le hThere hDone.next_le))

/-- While the journal of another transaction is undone, the code of its compensations is all that
happens. -/
theorem passes_undoing (hOther : i ≠ j) {journal : List (JournalEntry κ)}
    {os : List (Except Error Unit)}
    (h : Unwound Act.report JournalEntry.text (fun e => e.action.perform run) r journal os r') :
    Passes i ((undoingHistory run hist j journal r).of i) r r' := by
  induction h with
  | nil r => exact .refl r
  | @undone r r₁ r' entry older os hUndo _ ih =>
    have hDone := passes_undo hHist entry.action r
    rw [ends_of_ok hUndo] at hDone
    rw [undoingHistory, hUndo, History.of_cons_of_ne hOther, History.of_append]
    exact hDone.trans ih
  | @failed r r₁ r₂ r' entry older os x hUndo hReport _ ih =>
    cases hReport
    have hDone := passes_undo hHist entry.action r
    rw [ends_of_error hUndo] at hDone
    rw [undoingHistory, hUndo, History.of_cons_of_ne hOther, History.of_append]
    -- a compensation that fails is reported before the next one is performed
    have hNoted : Passes i [] r₁ (r₁.appendTrace [.log (.compensationFailed entry.text)]) :=
      .of_same (Nat.le_refl _) rfl
    exact hDone.trans (hNoted.trans ih)

/-- **A rollback of this transaction** is a run on it, with this history. -/
theorem ran_rollback (hThere : i < r.next) :
    Ran i (.rollback run (ends (rollback run i) r).1) r ((rollbackHistory run hist i r).of i)
      (ends (rollback run i) r).2 := by
  rw [rollbackHistory]
  cases hOpen : (r.transaction i).closed with
  | true =>
    rw [ends_of_error (refuses_of_closed run hOpen).rollback]
    exact .rollbackRefused hOpen
  | false =>
    obtain ⟨os, r', hUndone⟩ :=
      exists_unwound_journal run (r.transaction i).journal (r.unwinding i)
    rw [ends_rollback hOpen hUndone, if_neg Bool.false_ne_true, History.of_cons_self]
    exact .unwound hOpen ((ran_undoing hHist hUndone).2 hThere)

/-- **What happens when a transaction is rolled back**, this one or another one. -/
theorem passes_rollback (j : Nat) (r : Realm κ) :
    Passes i ((rollbackHistory run hist j r).of i) r (ends (rollback run j) r).2 := by
  cases hOpen : (r.transaction j).closed with
  | true =>
    rw [rollbackHistory, if_pos hOpen, ends_of_error (refuses_of_closed run hOpen).rollback]
    exact .refl r
  | false =>
    obtain ⟨os, r', hUndone⟩ :=
      exists_unwound_journal run (r.transaction j).journal (r.unwinding j)
    have hEnd := ends_rollback hOpen hUndone
    -- on this transaction a rollback is a phase of a run; on another one it only runs code
    by_cases hSame : i = j
    · subst hSame
      refine ⟨?_, fun hThere => ?_, fun _ hClosed => ?_⟩
      · rw [hEnd]
        exact (ran_undoing hHist hUndone).1
      · simpa using Ran.rolledBack (ran_rollback hHist hThere) (.rest _)
      · rw [hOpen] at hClosed
        cases hClosed
    · rw [hEnd, rollbackHistory, hOpen, if_neg Bool.false_ne_true, History.of_cons_of_ne hSame]
      exact (passes_putTransaction hSame r _).trans (passes_undoing hHist hSame hUndone)

omit hHist in
/-- A rollback because of an error leaves what a rollback leaves. It only raises something else. -/
theorem state_rollbackAfter {α : Type} (e : Error) (r : Realm κ) :
    (ends (rollbackAfter run j e : Act κ α) r).2 = (ends (rollback run j) r).2 := by
  unfold rollbackAfter
  rw [ends, bind_of_ok (attempt_eq (rollback run j) r)]
  rcases ends (rollback run j) r with ⟨(_ | _) | _, r'⟩ <;> rfl

/-- **A commit of this transaction** is a run on it, with this history. -/
theorem ran_commit (hThere : i < r.next) :
    Ran i (.commit run (ends (commit run i) r).1) r ((commitHistory run hist i r).of i)
      (ends (commit run i) r).2 := by
  rw [commitHistory]
  cases hOpen : (r.transaction i).closed with
  | true =>
    rw [ends_of_error (refuses_of_closed run hOpen).commit, if_pos rfl]
    exact .commitRefused hOpen
  | false =>
    rw [if_neg Bool.false_ne_true, deliver_eq]
    have hTelling := (ran_telling hHist (r.transaction i).sink
      (heard (r.transaction i).sink (r.transaction i).staged) (r.delivering i)).2 hThere
    rcases hTold : ends ((heard (r.transaction i).sink (r.transaction i).staged).forM
      (Sink.tell run (r.transaction i).sink)) (r.delivering i) with ⟨x | _, r₁⟩
    all_goals rw [hTold] at hTelling
    · rw [eq_error_of_ends hTold, History.of_append]
      dsimp only
      -- an event was not taken, and by then the reactions may have ended the transaction
      cases hEnded : (r₁.transaction i).closed with
      | true =>
        rw [ends_commit_of_overtaken hOpen hTold rfl hEnded, rollbackHistory,
          transaction_undelivered, if_pos hEnded, History.of_nil, List.append_nil]
        exact .overtaken hOpen hTelling hEnded
      | false =>
        obtain ⟨os, r', hUndone⟩ := exists_unwound_journal run (r₁.transaction i).journal
          ((r₁.undelivered i x).unwinding i)
        have hNext := (ran_telling hHist (r.transaction i).sink
          (heard (r.transaction i).sink (r.transaction i).staged) (r.delivering i)).1
        rw [hTold] at hNext
        rw [ends_commit_of_untaken hOpen hTold rfl hEnded hUndone, rollbackHistory,
          transaction_undelivered, hEnded, if_neg Bool.false_ne_true, History.of_cons_self]
        exact .undelivered hOpen hTelling hEnded
          ((ran_undoing hHist hUndone).2 (Nat.lt_of_lt_of_le hThere hNext))
    -- all events were taken
    · rw [ends_commit_of_told hOpen hTold rfl, eq_ok_of_ends hTold, History.of_append,
        History.of_map_self]
      exact .delivered hOpen hTelling

omit hHist in
/-- A commit of which an event is not taken goes on as a rollback. -/
theorem state_commit_of_untaken {x : Error} (hOpen : (r.transaction j).closed = false)
    (hTold : ends (Sink.deliver run (r.transaction j).sink (r.transaction j).staged)
      (r.delivering j) = (.error x, r₁)) :
    (ends (commit run j) r).2 = (ends (rollback run j) (r₁.undelivered j x)).2 := by
  rw [ends, commit_of_undelivered hOpen (eq_error_of_ends hTold)]
  exact state_rollbackAfter x (r₁.undelivered j x)

/-- A commit makes no object disappear, whatever the reactions of the sink do, and the compensations
after them. -/
theorem next_commit (j : Nat) (r : Realm κ) : r.next ≤ (ends (commit run j) r).2.next := by
  cases hOpen : (r.transaction j).closed with
  | true =>
    rw [ends_of_error (refuses_of_closed run hOpen).commit]
  | false =>
    have hTelling := (ran_telling hHist (r.transaction j).sink
      (heard (r.transaction j).sink (r.transaction j).staged) (r.delivering j)).1
    rw [← deliver_eq] at hTelling
    rcases hTold : ends (Sink.deliver run (r.transaction j).sink (r.transaction j).staged)
      (r.delivering j) with ⟨x | _, r₁⟩
    all_goals rw [hTold] at hTelling
    -- after an event that is not taken comes a rollback
    · rw [state_commit_of_untaken hOpen hTold]
      exact Nat.le_trans hTelling (passes_rollback hHist j (r₁.undelivered j x)).next_le
    · rw [ends_of_ok (commit_of_delivered hOpen (eq_ok_of_ends hTold))]
      exact hTelling

/-- **What happens when a transaction is committed**, this one or another one. -/
theorem passes_commit (j : Nat) (r : Realm κ) :
    Passes i ((commitHistory run hist j r).of i) r (ends (commit run j) r).2 := by
  cases hOpen : (r.transaction j).closed with
  | true =>
    rw [commitHistory, if_pos hOpen, ends_of_error (refuses_of_closed run hOpen).commit]
    exact .refl r
  | false =>
    by_cases hSame : i = j
    · subst hSame
      refine ⟨next_commit hHist i r, fun hThere => ?_, fun _ hClosed => ?_⟩
      · simpa using Ran.committed (ran_commit hHist hThere) (.rest _)
      · rw [hOpen] at hClosed
        cases hClosed
    · have hElse : ∀ event, History.of i [(j, (.told event : Happening κ))] = [] :=
        fun _ => History.of_cons_of_ne hSame
      have hTelling := (passes_putTransaction hSame r _).trans (passes_telling hHist hElse
        (r.transaction j).sink (heard (r.transaction j).sink (r.transaction j).staged)
        (r.delivering j))
      rw [← deliver_eq] at hTelling
      rw [commitHistory, hOpen, if_neg Bool.false_ne_true, History.of_append]
      rcases hTold : ends (Sink.deliver run (r.transaction j).sink (r.transaction j).staged)
        (r.delivering j) with ⟨x | _, r₁⟩
      all_goals rw [hTold] at hTelling
      · have hNoted : Passes i [] r₁ (r₁.undelivered j x) := .of_same (Nat.le_refl _) rfl
        rw [state_commit_of_untaken hOpen hTold, eq_error_of_ends hTold]
        exact hTelling.trans (hNoted.trans (passes_rollback hHist j (r₁.undelivered j x)))
      -- to settle the other transaction is nothing that happens on this one
      · rw [ends_of_ok (commit_of_delivered hOpen (eq_ok_of_ends hTold)), eq_ok_of_ends hTold]
        dsimp only
        rw [History.of_map_of_ne hSame]
        exact hTelling.trans (passes_putTransaction hSame r₁ _)

/-- **What happens when the block of a transaction is left.** -/
theorem passes_leave (j : Nat) (outcome : Except Error Unit) (r : Realm κ) :
    Passes i ((leaveHistory run hist j outcome r).of i) r (ends (leave run j outcome) r).2 := by
  unfold leaveHistory
  cases hOpen : (r.transaction j).closed with
  | true =>
    rw [ends, (refuses_of_closed run hOpen).leave outcome]
    cases outcome <;> exact .refl r
  | false =>
    rw [if_neg Bool.false_ne_true]
    cases outcome with
    | ok _ =>
      rw [ends, leave_of_ok hOpen]
      exact passes_commit hHist j r
    -- a block that fails is reported first
    | error e =>
      let r₁ := r.appendTrace [.log (.rollingBack (r.transaction j).journal.length e)]
      have hNoted : Passes i [] r r₁ := .of_same (Nat.le_refl _) rfl
      have hEnd : (ends (leave run j (.error e)) r).2 = (ends (rollback run j) r₁).2 := by
        rw [ends, leave_of_error hOpen]
        exact state_rollbackAfter e r₁
      rw [hEnd]
      exact hNoted.trans (passes_rollback hHist j r₁)

end Endings

/-- **What happens when a transaction is called**, this one or another one. -/
theorem passes_call (c : Call κ) (j : Nat) (r : Realm κ) :
    Passes i ((callHistory c j r).of i) r (ends (c.perform j) r).2 := by
  rw [callHistory]
  cases hOpen : (r.transaction j).closed with
  | true =>
    rw [ends_of_error ((refuses_of_closed (fun _ => pure ()) hOpen).call c)]
    exact .refl r
  | false =>
    rw [if_neg Bool.false_ne_true]
    -- a call changes its own transaction and no other
    by_cases hSame : i = j
    · subst hSame
      obtain ⟨r', hCall, hAfter⟩ := perform_of_open c hOpen
      have hNext : r'.next = r.next := next_of_perform hCall
      rw [ends_of_ok hCall, History.of_cons_self, History.of_nil]
      refine ⟨hNext.ge, fun _ => .accepted hCall (.rest r'), fun _ hClosed => ?_⟩
      rw [hOpen] at hClosed
      cases hClosed
    · rw [History.of_cons_of_ne hSame, History.of_nil]
      cases c with
      | stage event =>
        have hStage : Leads (Passes i []) (fun _ _ => False) (stage j event : Act κ Unit) :=
          Realm.onward_stage (passes_putTransaction hSame) event
        exact (hStage r).1
      | onRollback entry =>
        have hJournaled :
            Leads (Passes i []) (fun _ _ => False) (onRollback j entry : Act κ Unit) :=
          Realm.onward_onRollback (passes_putTransaction hSame) entry
        exact (hJournaled r).1

/-! ## Operations of factories -/

section Operations

variable {hist : κ → Realm κ → History κ}

/-- What happens when a factory concludes an operation: its sink is told of what has come of a
success. The journal of an operation that has failed is undone without any code. -/
def concludeHistory {α : Type} (run : κ → Act κ Unit) (hist : κ → Realm κ → History κ) (f : Factory)
    (events : α → List Value) : Except Error α → Realm κ → History κ
  | .ok a, r => tellingHistory run hist (fun _ => []) f.sink (heard f.sink (events a)) r
  | .error _, _ => []

/-- What happens during operation `o` of factory `k`. Its work runs no code, so that nothing happens
before it is concluded. -/
def operationHistory (run : κ → Act κ Unit) (hist : κ → Realm κ → History κ) (k : Nat)
    (o : Operation) (r : Realm κ) : History κ :=
  let f := r.factory k
  match f.ledger, f.recipe, o.purse f r with
  | .object .ledger j, .ok recipe, .ok p _ =>
    let (outcome, b) := ends (o.work recipe (r.catalogFor j)) ⟨r.site j, p, []⟩
    concludeHistory run hist f o.events outcome ((r.closed j b.site).kept b.purse o.budget)
  | _, _, _ => []

/-- An operation that does not get to work tells nobody. -/
theorem operationHistory_of_barred {o : Operation} {k : Nat} (h : o.Barred k r) :
    operationHistory run hist k o r = [] := by
  unfold operationHistory
  dsimp only
  split
  · rename_i hLedger hRecipe hPurse
    -- each obstacle contradicts what an operation needs to begin
    cases h with
    | blank hBlank =>
      rw [Factory.recipe, hBlank] at hRecipe
      cases hRecipe
    | unpaid hNone =>
      rw [hNone] at hPurse
      cases hPurse
    | astray hAstray => exact absurd hLedger (hAstray _)
  · rfl

/-- An operation that does not get to work does nothing that any transaction sees. -/
theorem passes_barred {o : Operation} {k : Nat} (h : o.Barred k r) :
    Passes i [] r (ends (o.act run k) r).2 := by
  obtain ⟨e, r₁, hDone, hAct⟩ := Operation.act_of_barred h (F := Passes i [] r) (.refl r)
    (fun p hSame => Realm.onward_kept hSame)
    fun r₁ e hDone => hDone.trans (.of_same (Nat.le_refl _) rfl)
  rw [ends_of_error (hAct run)]
  exact hDone

variable (hHist : ∀ code r, Passes i ((hist code r).of i) r (ends (run code) r).2)
include hHist

/-- **What happens when a factory concludes an operation**: the reactions of the sink, if it has
events to be told of. The factory's own journal is no transaction of the session, so that nothing
happens when it is undone. -/
theorem passes_conclude {α : Type} (f : Factory) (journal : List Undo) (outcome : Except Error α)
    (events : α → List Value) (r : Realm κ) :
    Passes i ((concludeHistory run hist f events outcome r).of i) r
      (ends (Factory.conclude run f journal outcome events) r).2 := by
  have hUndone : ∀ (record : LogRecord) (hPlain : record.isSetting = false) (e : Error)
      (r : Realm κ), Passes i [] r (ends (do
        Act.report record
        f.abandon journal e : Act κ α) r).2 := fun record hPlain e r =>
    ((Realm.onward_report hPlain).bind fun _ =>
      Realm.onward_abandon (B := fun _ _ => False) f journal e) r |>.1
  cases outcome with
  | error e => exact hUndone _ rfl e r
  | ok a =>
    have hTelling := @passes_telling _ _ _ _ hHist (fun _ => []) (fun _ => rfl) f.sink
      (heard f.sink (events a)) r
    rw [← deliver_eq] at hTelling
    unfold Factory.conclude
    dsimp only
    rw [ends_bind, ends_of_ok (attempt_eq _ r)]
    rcases hTold : ends (Sink.deliver run f.sink (events a)) r with ⟨x | _, r₁⟩
    all_goals rw [hTold] at hTelling
    -- if an event is not taken, the factory undoes its work, which no transaction takes part in
    · simpa [concludeHistory] using hTelling.trans (hUndone _ rfl x r₁)
    · exact hTelling

/-- **What happens during an operation of a factory**: nothing until its work is done, as the ledger
runs no code, and then what happens when it is concluded. -/
theorem passes_act (o : Operation) (k : Nat) (r : Realm κ) :
    Passes i ((operationHistory run hist k o r).of i) r (ends (o.act run k) r).2 := by
  rcases o.barred_or_equipped k r with hBarred | ⟨j, recipe, p, hLedger, hRecipe, hPurse, -⟩
  · rw [operationHistory_of_barred hBarred]
    exact passes_barred hBarred
  rcases hWork : ends (o.work recipe (r.catalogFor j)) ⟨r.site j, p, []⟩ with ⟨res, b⟩
  obtain ⟨r₁, hBegun, hThere, hAct⟩ := Operation.act_begun hLedger hRecipe hPurse hWork
  have hDone : Passes i [] r r₁ := Realm.onward_begun hLedger hRecipe hPurse hWork hBegun
  have hHistory : operationHistory run hist k o r =
      concludeHistory run hist (r.factory k) o.events res r₁ := by
    unfold operationHistory
    dsimp only
    rw [hLedger, Factory.recipe, hRecipe, hPurse]
    dsimp only [Configuration.snapshot, Configuration.holding]
    rw [hWork]
    cases res with
    | error e => rfl
    | ok a => rw [hThere a rfl]
  have hEnd := hDone.trans (passes_conclude hHist (r.factory k) b.journal res o.events r₁)
  rw [hHistory, ends, hAct run]
  change Passes i _ r (ends (_ >>= o.farewell b.purse) r₁).2
  rw [ends_bind]
  rcases hConcluded : ends (Factory.conclude run (r.factory k) b.journal res o.events) r₁ with
    ⟨e | a, r₂⟩
  all_goals rw [hConcluded] at hEnd
  · exact hEnd
  -- what is reported in the end is nothing that happens
  · have hOver : Passes i [] r₂ (ends (o.farewell b.purse a) r₂).2 :=
      (Realm.onward_farewell (B := fun _ _ => False) b.purse o a r₂).1
    simpa using hEnd.trans hOver

end Operations

end WorldForge.Transaction

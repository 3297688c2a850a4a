import Mathlib.Algebra.Order.Group.Multiset
import Mathlib.Tactic.Abel
import WorldForge.Proofs.Transaction.Delivery

/-!
# What happens on a transaction that is re-entered

Sinks and compensations are foreign code, and they may call the transaction that calls them, while
it is in the middle of being committed or rolled back. A run (`Ran`) follows a transaction through
all of this. Its phases are nested as the calls are: a commit tells the sink of events, one after
the other, and whatever the sink does when it is told is a run again; a rollback has compensations
performed, and what these do is a run too. On the way a run notes what happens on the transaction,
in this order: each call that it accepts, each event that its sink is told of, each compensation
that is performed, and that it closes (`Happening`). Nothing is noted of code that leaves the
transaction alone, nor of a call that it refuses.

A transaction passes once from open to closed, so there are two things to know about a phase. If it
begins when the transaction is closed, then nothing happens but what was in hand already
(`Ran.quiet`). If it begins when the transaction is open, then the transaction goes on, or it ends
in this phase (`Course`), and two courses that follow each other make up one (`Course.append`).

Main results:

* `performs` — what each operation of a transaction does, in every realm and whatever code does;
* `Ran.isRunOf` — the phases of a run are the operations of the transaction: each commit, each
  rollback, all that a sink is told and each compensation that is performed comes out as the
  operation does;
* `Ran.course` — what happens in a phase that begins when the transaction is open;
* `Ran.orderly` — all compensations are performed or none, in the reverse of their order; no event
  is told twice; and the transaction closes once, for good. -/

namespace WorldForge

variable {κ : Type}

/-- The realm in which a rollback begins to undo: transaction `i` is cleared, and closed. -/
def Realm.unwinding (r : Realm κ) (i : Nat) : Realm κ :=
  r.putTransaction i { r.transaction i with journal := [], staged := [], closed := true }

/-- The realm in which transaction `i` is closed by a commit. Nothing is to be undone any more. -/
def Realm.settled (r : Realm κ) (i : Nat) : Realm κ :=
  r.putTransaction i { r.transaction i with journal := [], closed := true }

/-- The realm in which it has been reported that an event could not be delivered. -/
def Realm.undelivered (r : Realm κ) (i : Nat) (e : Error) : Realm κ :=
  r.appendTrace [.log (.deliveryFailed (r.transaction i).journal.length e)]

namespace Transaction

@[simp] theorem transaction_delivering (r : Realm κ) (i : Nat) :
    (r.delivering i).transaction i = { r.transaction i with staged := [] } :=
  transaction_putTransaction ..

@[simp] theorem transaction_unwinding (r : Realm κ) (i : Nat) :
    (r.unwinding i).transaction i =
      { r.transaction i with journal := [], staged := [], closed := true } :=
  transaction_putTransaction ..

@[simp] theorem transaction_settled (r : Realm κ) (i : Nat) :
    (r.settled i).transaction i = { r.transaction i with journal := [], closed := true } :=
  transaction_putTransaction ..

@[simp] theorem transaction_undelivered (r : Realm κ) (i : Nat) (e : Error) :
    (r.undelivered i e).transaction i = r.transaction i := rfl

/-! ## Happenings -/

/-- What happens on a transaction. -/
inductive Happening (κ : Type) where
  /-- It accepts a call. -/
  | accepted (c : Call κ)
  /-- Its sink is told of an event, whether it takes the event or not. -/
  | told (event : Value)
  /-- A compensation is performed, whether it comes out well or not. -/
  | undone (entry : JournalEntry κ)
  | closed

namespace Happening

def call? : Happening κ → Option (Call κ)
  | accepted c => some c
  | _ => none

def event? : Happening κ → Option Value
  | told event => some event
  | _ => none

def entry? : Happening κ → Option (JournalEntry κ)
  | undone entry => some entry
  | _ => none

end Happening

/-- The calls that are accepted, in order. -/
def callsIn (hs : List (Happening κ)) : List (Call κ) := hs.filterMap Happening.call?

/-- The events that the sink is told of, in order. -/
def toldIn (hs : List (Happening κ)) : List Value := hs.filterMap Happening.event?

/-- The compensations that are performed, in order. -/
def undoneIn (hs : List (Happening κ)) : List (JournalEntry κ) := hs.filterMap Happening.entry?

section Parts

variable (hs hs' : List (Happening κ)) (c : Call κ) (event : Value) (entry : JournalEntry κ)

@[simp] theorem callsIn_nil : callsIn ([] : List (Happening κ)) = [] := rfl
@[simp] theorem toldIn_nil : toldIn ([] : List (Happening κ)) = [] := rfl
@[simp] theorem undoneIn_nil : undoneIn ([] : List (Happening κ)) = [] := rfl

@[simp] theorem callsIn_append : callsIn (hs ++ hs') = callsIn hs ++ callsIn hs' :=
  List.filterMap_append

@[simp] theorem toldIn_append : toldIn (hs ++ hs') = toldIn hs ++ toldIn hs' :=
  List.filterMap_append

@[simp] theorem undoneIn_append : undoneIn (hs ++ hs') = undoneIn hs ++ undoneIn hs' :=
  List.filterMap_append

@[simp] theorem callsIn_accepted : callsIn (.accepted c :: hs) = c :: callsIn hs := rfl
@[simp] theorem callsIn_told : callsIn (.told event :: hs) = callsIn hs := rfl
@[simp] theorem callsIn_undone : callsIn (.undone entry :: hs) = callsIn hs := rfl
@[simp] theorem callsIn_closed : callsIn (.closed :: hs) = callsIn hs := rfl

@[simp] theorem toldIn_accepted : toldIn (.accepted c :: hs) = toldIn hs := rfl
@[simp] theorem toldIn_told : toldIn (.told event :: hs) = event :: toldIn hs := rfl
@[simp] theorem toldIn_undone : toldIn (.undone entry :: hs) = toldIn hs := rfl
@[simp] theorem toldIn_closed : toldIn (.closed :: hs) = toldIn hs := rfl

@[simp] theorem undoneIn_accepted : undoneIn (.accepted c :: hs) = undoneIn hs := rfl
@[simp] theorem undoneIn_told : undoneIn (.told event :: hs) = undoneIn hs := rfl
@[simp] theorem undoneIn_undone : undoneIn (.undone entry :: hs) = entry :: undoneIn hs := rfl
@[simp] theorem undoneIn_closed : undoneIn (.closed :: hs) = undoneIn hs := rfl

end Parts

/-! ## Runs -/

/-- What a transaction is in the middle of: nothing, so that other code runs; being committed or
rolled back, which comes out in some way; or, in one of these, telling its sink of events, or
undoing a journal. -/
inductive Phase (κ : Type) where
  | code
  | commit (run : κ → Act κ Unit) (outcome : Except Error Unit)
  | rollback (run : κ → Act κ Unit) (outcome : Except Error Unit)
  | telling (run : κ → Act κ Unit) (sink : Value) (events : List Value)
      (outcome : Except Error Unit)
  | undoing (run : κ → Act κ Unit) (journal : List (JournalEntry κ))
      (outcomes : List (Except Error Unit))

/-- What is raised by a rollback, given the outcomes of its compensations. -/
def rollbackOutcome (os : List (Except Error Unit)) : Except Error Unit :=
  if raised os = [] then .ok () else .error (.rollbackFailed (raised os) none)

/-- That a commit closes its transaction is something that happens unless it is closed already. -/
def closing (t : Transaction κ) : List (Happening κ) := if t.closed then [] else [.closed]

/-- **What happens on transaction `i`** in a phase that leads from one realm to another. Code may do
anything that leaves the transaction as it is, and it may call it, over and over. -/
inductive Ran (i : Nat) : Phase κ → Realm κ → List (Happening κ) → Realm κ → Prop
  | rest (r : Realm κ) : Ran i .code r [] r
  | aside {r r₁ r' : Realm κ} {hs : List (Happening κ)}
      (hAlone : r₁.transaction i = r.transaction i) (hRest : Ran i .code r₁ hs r') :
      Ran i .code r hs r'
  | accepted {r r₁ r' : Realm κ} {c : Call κ} {hs : List (Happening κ)}
      (hCall : c.perform i r = .ok () r₁) (hRest : Ran i .code r₁ hs r') :
      Ran i .code r (.accepted c :: hs) r'
  | committed {run : κ → Act κ Unit} {o : Except Error Unit} {r r₁ r' : Realm κ}
      {hs hs' : List (Happening κ)} (hCommit : Ran i (.commit run o) r hs r₁)
      (hRest : Ran i .code r₁ hs' r') : Ran i .code r (hs ++ hs') r'
  | rolledBack {run : κ → Act κ Unit} {o : Except Error Unit} {r r₁ r' : Realm κ}
      {hs hs' : List (Happening κ)} (hRollback : Ran i (.rollback run o) r hs r₁)
      (hRest : Ran i .code r₁ hs' r') : Ran i .code r (hs ++ hs') r'
  -- a commit, and what may have become of the transaction while its sink was being told
  | commitRefused {run : κ → Act κ Unit} {r : Realm κ}
      (hClosed : (r.transaction i).closed = true) :
      Ran i (.commit run (.error .transactionClosed)) r [] r
  | delivered {run : κ → Act κ Unit} {r r₁ : Realm κ} {hs : List (Happening κ)}
      (hOpen : (r.transaction i).closed = false)
      (hTelling : Ran i (.telling run (r.transaction i).sink
        (heard (r.transaction i).sink (r.transaction i).staged) (.ok ())) (r.delivering i) hs r₁) :
      Ran i (.commit run (.ok ())) r (hs ++ closing (r₁.transaction i)) (r₁.settled i)
  | undelivered {run : κ → Act κ Unit} {r r₁ r' : Realm κ} {hs hs' : List (Happening κ)} {x : Error}
      {os : List (Except Error Unit)} (hOpen : (r.transaction i).closed = false)
      (hTelling : Ran i (.telling run (r.transaction i).sink
        (heard (r.transaction i).sink (r.transaction i).staged) (.error x)) (r.delivering i) hs r₁)
      (hStill : (r₁.transaction i).closed = false)
      (hUndoing : Ran i (.undoing run (r₁.transaction i).journal os)
        ((r₁.undelivered i x).unwinding i) hs' r') :
      Ran i (.commit run (.error (afterRollback (raised os) x))) r (hs ++ .closed :: hs') r'
  | overtaken {run : κ → Act κ Unit} {r r₁ : Realm κ} {hs : List (Happening κ)} {x : Error}
      (hOpen : (r.transaction i).closed = false)
      (hTelling : Ran i (.telling run (r.transaction i).sink
        (heard (r.transaction i).sink (r.transaction i).staged) (.error x)) (r.delivering i) hs r₁)
      (hEnded : (r₁.transaction i).closed = true) :
      Ran i (.commit run (.error .transactionClosed)) r hs (r₁.undelivered i x)
  -- a rollback
  | rollbackRefused {run : κ → Act κ Unit} {r : Realm κ}
      (hClosed : (r.transaction i).closed = true) :
      Ran i (.rollback run (.error .transactionClosed)) r [] r
  | unwound {run : κ → Act κ Unit} {r r' : Realm κ} {hs : List (Happening κ)}
      {os : List (Except Error Unit)} (hOpen : (r.transaction i).closed = false)
      (hUndoing : Ran i (.undoing run (r.transaction i).journal os) (r.unwinding i) hs r') :
      Ran i (.rollback run (rollbackOutcome os)) r (.closed :: hs) r'
  -- telling the sink of events, up to the first at which it raises an error
  | toldAll {run : κ → Act κ Unit} {sink : Value} (r : Realm κ) :
      Ran i (.telling run sink [] (.ok ())) r [] r
  | told {run : κ → Act κ Unit} {sink event : Value} {events : List Value} {o : Except Error Unit}
      {r r₁ r' : Realm κ} {hs hs' : List (Happening κ)}
      (hTell : Sink.tell run sink event r = .ok () r₁) (hCode : Ran i .code r hs r₁)
      (hRest : Ran i (.telling run sink events o) r₁ hs' r') :
      Ran i (.telling run sink (event :: events) o) r (.told event :: (hs ++ hs')) r'
  | untaken {run : κ → Act κ Unit} {sink event : Value} {events : List Value} {x : Error}
      {r r₁ : Realm κ} {hs : List (Happening κ)}
      (hTell : Sink.tell run sink event r = .error x r₁) (hCode : Ran i .code r hs r₁) :
      Ran i (.telling run sink (event :: events) (.error x)) r (.told event :: hs) r₁
  -- undoing a journal to its end, whatever its entries raise
  | undoneAll {run : κ → Act κ Unit} (r : Realm κ) : Ran i (.undoing run [] []) r [] r
  | undone {run : κ → Act κ Unit} {entry : JournalEntry κ} {older : List (JournalEntry κ)}
      {os : List (Except Error Unit)} {r r₁ r' : Realm κ} {hs hs' : List (Happening κ)}
      (hUndo : entry.action.perform run r = .ok () r₁) (hCode : Ran i .code r hs r₁)
      (hRest : Ran i (.undoing run older os) r₁ hs' r') :
      Ran i (.undoing run (entry :: older) (.ok () :: os)) r (.undone entry :: (hs ++ hs')) r'
  | failed {run : κ → Act κ Unit} {entry : JournalEntry κ} {older : List (JournalEntry κ)}
      {x : Error}
      {os : List (Except Error Unit)} {r r₁ r' : Realm κ} {hs hs' : List (Happening κ)}
      (hUndo : entry.action.perform run r = .error x r₁) (hCode : Ran i .code r hs r₁)
      (hRest : Ran i (.undoing run older os)
        (r₁.appendTrace [.log (.compensationFailed entry.text)]) hs' r') :
      Ran i (.undoing run (entry :: older) (.error x :: os)) r (.undone entry :: (hs ++ hs')) r'

variable {i : Nat} {phase : Phase κ} {run : κ → Act κ Unit} {sink : Value} {events : List Value}
  {journal : List (JournalEntry κ)} {os : List (Except Error Unit)} {o : Except Error Unit}
  {r r₁ r' : Realm κ} {hs hs' : List (Happening κ)} {x : Error}

/-- Code that runs after other code makes up one run with it. -/
theorem Ran.append (h : Ran i .code r hs r₁) (hRest : Ran i .code r₁ hs' r') :
    Ran i .code r (hs ++ hs') r' := by
  -- the induction is on the first run, along its happenings outside of any ending
  generalize hPhase : (.code : Phase κ) = phase at h
  induction h <;> cases hPhase
  case rest => exact hRest
  case aside hAlone _ ih => exact .aside hAlone (ih hRest rfl)
  case accepted hCall _ ih => exact .accepted hCall (ih hRest rfl)
  case committed hCommit _ _ ih =>
    rw [List.append_assoc]
    exact .committed hCommit (ih hRest rfl)
  case rolledBack hRollback _ _ ih =>
    rw [List.append_assoc]
    exact .rolledBack hRollback (ih hRest rfl)

/-! ## Phases are operations -/

/-- The computation of which a phase is a run. Of code nothing is said. -/
def Phase.IsRunOf (i : Nat) (r r' : Realm κ) : Phase κ → Prop
  | .code => True
  | .commit run o => ends (Transaction.commit run i) r = (o, r')
  | .rollback run o => ends (Transaction.rollback run i) r = (o, r')
  | .telling run sink events o => ends (events.forM (Sink.tell run sink)) r = (o, r')
  | .undoing run journal os =>
      Unwound Act.report JournalEntry.text (fun e => e.action.perform run) r journal os r'

/-- If the transaction was closed in the meantime, then it refuses to be rolled back, and this
refusal takes the place of the reason. -/
theorem rollbackAfter_of_closed (hClosed : (r.transaction i).closed = true) :
    rollbackAfter (α := Unit) run i x r = .error .transactionClosed r := by
  unfold rollbackAfter
  rw [bind_of_ok (attempt_eq (rollback run i) r),
    ends_of_error (refuses_of_closed run hClosed).rollback]
  rfl

/-- **A rollback of an open transaction** undoes the journal, and tells of what that has raised. -/
theorem ends_rollback (hOpen : (r.transaction i).closed = false)
    (hUndone : (Phase.undoing run (r.transaction i).journal os).IsRunOf i (r.unwinding i) r') :
    ends (rollback run i) r = (rollbackOutcome os, r') := by
  have hRollback := rollback_eq hOpen hUndone
  unfold rollbackOutcome
  split at hRollback
  · rw [if_pos ‹_›]
    exact ends_of_ok hRollback
  · rw [if_neg ‹_›]
    exact ends_of_error hRollback

section Commits

variable (hOpen : (r.transaction i).closed = false)
  (hTold : (Phase.telling run (r.transaction i).sink
    (heard (r.transaction i).sink (r.transaction i).staged) o).IsRunOf i (r.delivering i) r₁)
include hOpen hTold

omit hOpen in
/-- Telling a sink of what it hears is the delivery of a transaction's events. -/
theorem ends_deliver : ends (Sink.deliver run (r.transaction i).sink (r.transaction i).staged)
    (r.delivering i) = (o, r₁) := by
  rw [deliver_eq]
  exact hTold

/-- **A commit whose events are all taken** settles the transaction. -/
theorem ends_commit_of_told (ho : o = .ok ()) :
    ends (commit run i) r = (.ok (), r₁.settled i) := by
  have hDeliver := ends_deliver hTold
  rw [ho] at hDeliver
  exact ends_of_ok (commit_of_delivered hOpen (eq_ok_of_ends hDeliver))

/-- **A commit of which an event is not taken** undoes what is in the journal then. -/
theorem ends_commit_of_untaken (ho : o = .error x) (hStill : (r₁.transaction i).closed = false)
    (hUndone : (Phase.undoing run (r₁.transaction i).journal os).IsRunOf i
      ((r₁.undelivered i x).unwinding i) r') :
    ends (commit run i) r = (.error (afterRollback (raised os) x), r') := by
  have hDeliver := ends_deliver hTold
  rw [ho] at hDeliver
  exact ends_of_error ((commit_of_undelivered hOpen (eq_error_of_ends hDeliver)).trans
    (rollbackAfter_eq hStill hUndone))

/-- What the sink did may have closed the transaction before that. -/
theorem ends_commit_of_overtaken (ho : o = .error x) (hEnded : (r₁.transaction i).closed = true) :
    ends (commit run i) r = (.error .transactionClosed, r₁.undelivered i x) := by
  have hDeliver := ends_deliver hTold
  rw [ho] at hDeliver
  exact ends_of_error ((commit_of_undelivered hOpen (eq_error_of_ends hDeliver)).trans
    (rollbackAfter_of_closed hEnded))

end Commits

/-- To tell a sink of several events is to tell it of the first one, and of the others if it takes
that. -/
theorem forM_tell_cons (run : κ → Act κ Unit) (sink event : Value) (events : List Value) :
    (event :: events).forM (Sink.tell run sink) =
      Sink.tell run sink event >>= fun _ => events.forM (Sink.tell run sink) :=
  rfl

/-- **A run is a run of the operations themselves**: each phase comes out as its operation does. -/
theorem Ran.isRunOf (h : Ran i phase r hs r') : phase.IsRunOf i r r' := by
  induction h with
  | rest | aside | accepted | committed | rolledBack => trivial
  | commitRefused hClosed => exact ends_of_error (refuses_of_closed _ hClosed).commit
  | delivered hOpen _ ih => exact ends_commit_of_told hOpen ih rfl
  | undelivered hOpen _ hStill _ ih ihUndoing =>
    exact ends_commit_of_untaken hOpen ih rfl hStill ihUndoing
  | overtaken hOpen _ hEnded ih => exact ends_commit_of_overtaken hOpen ih rfl hEnded
  | rollbackRefused hClosed => exact ends_of_error (refuses_of_closed _ hClosed).rollback
  | unwound hOpen _ ih => exact ends_rollback hOpen ih
  | toldAll r => exact ends_of_ok rfl
  | told hTell _ _ _ ihRest =>
    rw [Phase.IsRunOf, forM_tell_cons, ends, bind_of_ok hTell]
    exact ihRest
  | untaken hTell _ _ =>
    rw [Phase.IsRunOf, forM_tell_cons]
    exact ends_of_error (bind_of_error hTell)
  | undoneAll r => exact .nil r
  | undone hUndo _ _ _ ihRest => exact .undone hUndo ihRest
  | failed hUndo _ _ _ ihRest => exact .failed hUndo rfl ihRest

/-- A run that is described as a commit is what the commit of the transaction does. -/
theorem Ran.commit_eq (h : Ran i (.commit run o) r hs r') : ends (commit run i) r = (o, r') :=
  h.isRunOf

/-- A run that is described as a rollback is what the rollback of the transaction does. -/
theorem Ran.rollback_eq (h : Ran i (.rollback run o) r hs r') : ends (rollback run i) r = (o, r') :=
  h.isRunOf

/-! ## What the operations perform -/

/-- **What the operations of transaction `i` do**, by a given way to run code, in every realm.
Nothing is assumed here of the code that sinks and compensations run. -/
structure Performs (run : κ → Act κ Unit) (i : Nat) : Prop where
  /-- An open transaction accepts a call. A compensation becomes the newest of its journal, and an
  event the last of those that are staged. -/
  accepts : ∀ (c : Call κ) (r : Realm κ), (r.transaction i).closed = false →
    ∃ r', c.perform i r = .ok () r' ∧ r'.transaction i =
      { r.transaction i with
        journal := entriesOf [c] ++ (r.transaction i).journal
        staged := (r.transaction i).staged ++ eventsOf [c] }
  /-- To roll back is to perform each compensation of the journal once, from the newest to the
  oldest, when the transaction is closed and its journal gone. -/
  rollsBack : ∀ r : Realm κ, (r.transaction i).closed = false → ∃ os r',
    Unwound Act.report JournalEntry.text (fun e => e.action.perform run) (r.unwinding i)
      (r.transaction i).journal os r' ∧
    ends (rollback run i) r = (rollbackOutcome os, r')
  /-- To commit is to tell the sink of each staged event once, in their order, when none is staged
  any more. If the sink takes them all, then the transaction is closed, and nothing is undone. -/
  delivers : ∀ r r₁ : Realm κ, (r.transaction i).closed = false →
    ends ((heard (r.transaction i).sink (r.transaction i).staged).forM
      (Sink.tell run (r.transaction i).sink)) (r.delivering i) = (.ok (), r₁) →
    ends (commit run i) r = (.ok (), r₁.settled i)
  /-- At the first event that the sink does not take, what is in the journal then is undone as in a
  rollback, and the error of the sink is raised. -/
  recoils : ∀ (r r₁ : Realm κ) (x : Error), (r.transaction i).closed = false →
    ends ((heard (r.transaction i).sink (r.transaction i).staged).forM
      (Sink.tell run (r.transaction i).sink)) (r.delivering i) = (.error x, r₁) →
    (r₁.transaction i).closed = false → ∃ os r',
      Unwound Act.report JournalEntry.text (fun e => e.action.perform run)
        ((r₁.undelivered i x).unwinding i) (r₁.transaction i).journal os r' ∧
      ends (commit run i) r = (.error (afterRollback (raised os) x), r')
  /-- If what the sink did has closed the transaction before that, then there is nothing to undo. -/
  overtaken : ∀ (r r₁ : Realm κ) (x : Error), (r.transaction i).closed = false →
    ends ((heard (r.transaction i).sink (r.transaction i).staged).forM
      (Sink.tell run (r.transaction i).sink)) (r.delivering i) = (.error x, r₁) →
    (r₁.transaction i).closed = true →
    ends (commit run i) r = (.error .transactionClosed, r₁.undelivered i x)
  /-- To leave a block that has come out well is to commit. -/
  leaves : ∀ r : Realm κ, (r.transaction i).closed = false → leave run i (.ok ()) r = commit run i r
  /-- To leave a block that has failed is to roll back, and to raise the error, or the failure of
  the rollback with the error as its cause. -/
  leavesAfter : ∀ (r : Realm κ) (x : Error), (r.transaction i).closed = false → ∃ os r',
    Unwound Act.report JournalEntry.text (fun e => e.action.perform run)
      ((r.appendTrace [.log (.rollingBack (r.transaction i).journal.length x)]).unwinding i)
      (r.transaction i).journal os r' ∧
    ends (leave run i (.error x)) r = (.error (afterRollback (raised os) x), r')
  /-- A closed transaction refuses everything. -/
  refuses : ∀ r : Realm κ, (r.transaction i).closed = true → Refuses run i r

/-- A journal can be undone from every realm, and its entries come out in some way. -/
theorem exists_unwound_journal (run : κ → Act κ Unit) (journal : List (JournalEntry κ))
    (r : Realm κ) :
    ∃ os r', Unwound Act.report JournalEntry.text (fun e => e.action.perform run) r journal os r' :=
  exists_unwound (fun _ _ => ⟨_, rfl⟩) journal r

/-- **The operations of a transaction perform what they are to perform**, whatever code does. -/
theorem performs (run : κ → Act κ Unit) (i : Nat) : Performs run i where
  accepts c _ hOpen := perform_of_open c hOpen
  rollsBack r hOpen := by
    obtain ⟨os, r', hUndone⟩ := exists_unwound_journal run (r.transaction i).journal (r.unwinding i)
    exact ⟨os, r', hUndone, ends_rollback hOpen hUndone⟩
  delivers _ _ hOpen hTold := ends_commit_of_told hOpen hTold rfl
  recoils r r₁ x hOpen hTold hStill := by
    obtain ⟨os, r', hUndone⟩ :=
      exists_unwound_journal run (r₁.transaction i).journal ((r₁.undelivered i x).unwinding i)
    exact ⟨os, r', hUndone, ends_commit_of_untaken hOpen hTold rfl hStill hUndone⟩
  overtaken _ _ _ hOpen hTold hEnded := ends_commit_of_overtaken hOpen hTold rfl hEnded
  leaves _ hOpen := leave_of_ok hOpen
  leavesAfter r x hOpen := by
    let r₁ := r.appendTrace [.log (.rollingBack (r.transaction i).journal.length x)]
    obtain ⟨os, r', hUndone⟩ :=
      exists_unwound_journal run (r.transaction i).journal (r₁.unwinding i)
    -- a record does not touch the transaction
    have hOpen₁ : (r₁.transaction i).closed = false := hOpen
    exact ⟨os, r', hUndone,
      ends_of_error ((leave_of_error hOpen x).trans (rollbackAfter_eq hOpen₁ hUndone))⟩
  refuses _ hClosed := refuses_of_closed run hClosed

/-! ## What happens on a closed transaction -/

/-- What can happen in a phase that begins when the transaction is closed. Calls are refused, so it
is only what was in hand already: events of which the sink has still to be told, up to the first
that it does not take, and compensations that have still to be performed. -/
def Phase.Quiet (hs : List (Happening κ)) : Phase κ → Prop
  | .code => hs = []
  | .commit _ o | .rollback _ o => hs = [] ∧ o = .error .transactionClosed
  | .telling _ _ events _ => ∃ before, before <+: events ∧ hs = before.map .told
  | .undoing _ journal _ => hs = journal.map .undone

/-- A call that a transaction accepts finds it open. -/
theorem closed_of_accepted {c : Call κ} (hCall : c.perform i r = .ok () r₁) :
    (r.transaction i).closed = false := by
  cases hClosed : (r.transaction i).closed with
  | false => rfl
  | true =>
    have hRefused := (refuses_of_closed (fun _ => pure ()) hClosed).call c
    rw [hCall] at hRefused
    cases hRefused

/-- **A closed transaction stays as it is**, and nothing new happens on it. -/
theorem Ran.quiet (h : Ran i phase r hs r') (hClosed : (r.transaction i).closed = true) :
    r'.transaction i = r.transaction i ∧ phase.Quiet hs := by
  induction h with
  | rest r => exact ⟨rfl, rfl⟩
  | aside hAlone _ ih =>
    obtain ⟨hSame, hQuiet⟩ := ih (by rw [hAlone, hClosed])
    exact ⟨hSame.trans hAlone, hQuiet⟩
  -- a closed transaction accepts no call, and is neither committed nor rolled back again
  | accepted hCall _ _ =>
    rw [closed_of_accepted hCall] at hClosed
    cases hClosed
  | committed _ _ ih ihRest =>
    obtain ⟨hSame, rfl, -⟩ := ih hClosed
    obtain ⟨hSame', rfl⟩ := ihRest (by rw [hSame, hClosed])
    exact ⟨hSame'.trans hSame, rfl⟩
  | rolledBack _ _ ih ihRest =>
    obtain ⟨hSame, rfl, -⟩ := ih hClosed
    obtain ⟨hSame', rfl⟩ := ihRest (by rw [hSame, hClosed])
    exact ⟨hSame'.trans hSame, rfl⟩
  | commitRefused _ => exact ⟨rfl, rfl, rfl⟩
  | rollbackRefused _ => exact ⟨rfl, rfl, rfl⟩
  | delivered hOpen | undelivered hOpen | overtaken hOpen | unwound hOpen =>
    rw [hOpen] at hClosed
    cases hClosed
  | toldAll r => exact ⟨rfl, [], List.nil_prefix, rfl⟩
  | @told run sink event events o r r₁ r' hs hs' hTell _ _ ihCode ihRest =>
    obtain ⟨hSame, rfl⟩ := ihCode hClosed
    obtain ⟨hSame', before, hBefore, rfl⟩ := ihRest (by rw [hSame, hClosed])
    -- the events that the sink has taken are the first of those in hand
    exact ⟨hSame'.trans hSame, event :: before, List.cons_prefix_cons.2 ⟨rfl, hBefore⟩, rfl⟩
  | @untaken run sink event events x r r₁ hs hTell _ ihCode =>
    obtain ⟨hSame, rfl⟩ := ihCode hClosed
    exact ⟨hSame, [event], List.cons_prefix_cons.2 ⟨rfl, List.nil_prefix⟩, rfl⟩
  | undoneAll r => exact ⟨rfl, rfl⟩
  | undone _ _ _ ihCode ihRest =>
    obtain ⟨hSame, rfl⟩ := ihCode hClosed
    obtain ⟨hSame', rfl⟩ := ihRest (by rw [hSame, hClosed])
    exact ⟨hSame'.trans hSame, rfl⟩
  | failed _ _ _ ihCode ihRest =>
    obtain ⟨hSame, rfl⟩ := ihCode hClosed
    obtain ⟨hSame', rfl⟩ := ihRest (by rw [transaction_appendTrace, hSame, hClosed])
    exact ⟨hSame'.trans hSame, rfl⟩

/-! ## What happens on an open transaction -/

/-- **The course of an open transaction** `t` through a phase that has events in hand. -/
inductive Course (t : Transaction κ) (inHand : List Value) (hs : List (Happening κ))
    (t' : Transaction κ) : Prop where
  /-- It goes on. The calls that it has accepted are held back, and nothing is undone. -/
  | goesOn
      (hState : t' = { t with
        journal := entriesOf (callsIn hs) ++ t.journal
        staged := t.staged ++ eventsOf (callsIn hs) })
      (hOpen : .closed ∉ hs) (hUndone : undoneIn hs = []) (hTold : (toldIn hs).Subperm inHand)
  /-- It ends. From then on no call is accepted, and all that has been in its journal is undone, or
  nothing. -/
  | ends {before after : List (Happening κ)} (hParts : hs = before ++ .closed :: after)
      (hOpen : .closed ∉ before) (hOnce : .closed ∉ after) (hCalls : callsIn after = [])
      (hKept : undoneIn before = [])
      (hUndone : undoneIn after = [] ∨ undoneIn after = entriesOf (callsIn before) ++ t.journal)
      (hTold : (toldIn hs).Subperm (inHand ++ t.staged ++ eventsOf (callsIn before)))
      (hState : t'.closed = true ∧ t'.journal = [])

/-- The compensations of later calls stand before those of earlier ones, as the newest comes
first. -/
theorem entriesOf_append (calls calls' : List (Call κ)) :
    entriesOf (calls ++ calls') = entriesOf calls' ++ entriesOf calls := by
  rw [entriesOf, List.filterMap_append, List.reverse_append]
  rfl

section Courses

variable {t t₁ t' : Transaction κ} {inHand inHand' : List Value}

@[simp] theorem callsIn_map_told (events : List Value) :
    callsIn (events.map (Happening.told (κ := κ))) = [] := by
  simp [callsIn, Happening.call?]

@[simp] theorem toldIn_map_told (events : List Value) :
    toldIn (events.map (Happening.told (κ := κ))) = events := by
  simp [toldIn, Happening.event?, Function.comp_def]

@[simp] theorem undoneIn_map_told (events : List Value) :
    undoneIn (events.map (Happening.told (κ := κ))) = [] := by
  simp [undoneIn, Happening.entry?]

@[simp] theorem callsIn_map_undone (journal : List (JournalEntry κ)) :
    callsIn (journal.map Happening.undone) = [] := by
  simp [callsIn, Happening.call?]

@[simp] theorem toldIn_map_undone (journal : List (JournalEntry κ)) :
    toldIn (journal.map Happening.undone) = [] := by
  simp [toldIn, Happening.event?]

@[simp] theorem undoneIn_map_undone (journal : List (JournalEntry κ)) :
    undoneIn (journal.map Happening.undone) = journal := by
  simp [undoneIn, Happening.entry?, Function.comp_def]

/-- Nothing happens to an open transaction. -/
theorem Course.nil (t : Transaction κ) : Course t [] [] t :=
  .goesOn (by simp [entriesOf, eventsOf]) List.not_mem_nil rfl (.refl _)

/-- A transaction that goes on stays open, and one that ends is closed. -/
theorem Course.closed_iff (h : Course t inHand hs t') (hOpen : t.closed = false) :
    t'.closed = true ↔ .closed ∈ hs := by
  cases h with
  | goesOn hState hStill _ _ =>
    rw [hState]
    simp [hOpen, hStill]
  | ends hParts _ _ _ _ _ _ hState => simp [hParts, hState.1]

/-- What is undone in a course is nothing, or all that has ever been entered. -/
theorem Course.undone (h : Course t inHand hs t') :
    undoneIn hs = [] ∨ undoneIn hs = entriesOf (callsIn hs) ++ t.journal := by
  cases h with
  | goesOn _ _ hUndone _ => exact .inl hUndone
  | ends hParts _ _ hCalls hKept hUndone _ _ =>
    rw [hParts]
    simpa [hCalls, hKept] using hUndone

/-- Where a transaction is still open, nothing has been undone, and all entries are in its journal.
-/
theorem Course.journal_eq (h : Course t inHand hs t') (hStill : t'.closed = false) :
    undoneIn hs = [] ∧ t'.journal = entriesOf (callsIn hs) ++ t.journal := by
  cases h with
  | goesOn hState _ hUndone _ => exact ⟨hUndone, by rw [hState]⟩
  | ends _ _ _ _ _ _ _ hState =>
    rw [hState.1] at hStill
    cases hStill

/-- **A course that goes on is followed by another one**: the calls of both are held back, and what
the two phases have in hand is put together. -/
theorem Course.goesOn_append (hOpen : .closed ∉ hs) (hUndone : undoneIn hs = [])
    (hTold : (toldIn hs).Subperm inHand)
    (hRest : Course { t with
      journal := entriesOf (callsIn hs) ++ t.journal
      staged := t.staged ++ eventsOf (callsIn hs) } inHand' hs' t') :
    Course t (inHand ++ inHand') (hs ++ hs') t' := by
  cases hRest with
  | goesOn hState hOpen' hUndone' hTold' =>
    refine .goesOn ?_ (by simp [hOpen, hOpen']) (by simp [hUndone, hUndone']) ?_
    · rw [hState]
      simp [entriesOf_append, eventsOf_append]
    · rw [toldIn_append]
      exact hTold.append hTold'
  | @ends before after hParts hOpen' hOnce hCalls hKept hUndone' hTold' hState =>
    subst hParts
    have hParts : hs ++ (before ++ .closed :: after) = hs ++ before ++ .closed :: after := by simp
    refine .ends hParts (by simp [hOpen, hOpen']) hOnce hCalls (by simp [hUndone, hKept])
      ?_ ?_ hState
    · rw [callsIn_append, entriesOf_append, List.append_assoc]
      exact hUndone'
    -- what has been told so far was in hand, and what is told later is in hand then or staged
    · rw [← Multiset.coe_le] at hTold hTold' ⊢
      simp only [toldIn_append, callsIn_append, eventsOf_append, ← Multiset.coe_add] at hTold' ⊢
      calc _ ≤ _ := add_le_add hTold hTold'
        _ = _ := by abel

/-- **A course is made up of two** that follow each other. If the transaction ends in the first of
them, then it stays as it is, and only what was in hand is still told. -/
theorem Course.append (h : Course t inHand hs t₁) (hOpen : t.closed = false)
    (hGo : t₁.closed = false → Course t₁ inHand' hs' t')
    (hStop : t₁.closed = true →
      t' = t₁ ∧ ∃ late : List Value, late.Subperm inHand' ∧ hs' = late.map Happening.told) :
    Course t (inHand ++ inHand') (hs ++ hs') t' := by
  cases h with
  -- the second course begins where the first leaves the transaction as it is, or else it finds it
  -- closed
  | goesOn hState hStill hUndone hTold =>
    subst hState
    exact .goesOn_append hStill hUndone hTold (hGo hOpen)
  | @ends before after hParts hStill hOnce hCalls hKept hUndone hTold hState =>
    subst hParts
    obtain ⟨rfl, late, hLate, rfl⟩ := hStop hState.1
    have hParts : before ++ .closed :: after ++ late.map .told =
        before ++ .closed :: (after ++ late.map .told) := by simp
    refine .ends hParts hStill (by simp [hOnce]) (by simp [hCalls]) hKept
      (by simpa using hUndone) ?_
      hState
    rw [toldIn_append, toldIn_map_told, ← Multiset.coe_le]
    rw [← Multiset.coe_le] at hTold hLate
    simp only [← Multiset.coe_add] at hTold ⊢
    calc _ ≤ _ := add_le_add hTold hLate
      _ = _ := by abel

/-- A course with some events in hand is one with more of them. -/
theorem Course.weaken (h : Course t inHand hs t') (hSub : inHand.Subperm inHand') :
    Course t inHand' hs t' := by
  cases h with
  | goesOn hState hOpen hUndone hTold =>
    exact .goesOn hState hOpen hUndone (hTold.trans hSub)
  | ends hParts hOpen hOnce hCalls hKept hUndone hTold hState =>
    refine .ends hParts hOpen hOnce hCalls hKept hUndone (hTold.trans ?_) hState
    exact (hSub.append (.refl _)).append (.refl _)

/-- The sink is told of an event that is in hand. -/
theorem Course.told (h : Course t inHand hs t') (event : Value) :
    Course t (event :: inHand) (.told event :: hs) t' := by
  have hTold : (toldIn [Happening.told (κ := κ) event]).Subperm [event] := .refl _
  exact .goesOn_append (by simp) rfl hTold (by simpa [entriesOf, eventsOf] using h)

/-- A sink hears of no more than what is staged. -/
theorem heard_subperm (sink : Value) (events : List Value) :
    (heard sink events).Subperm events := by
  cases sink with
  | null => exact List.nil_subperm
  | _ => exact .refl _

/-- What a commit has taken out of the transaction before it tells the sink counts as staged, if the
transaction ends meanwhile. -/
theorem Course.overtaken (h : Course { t with staged := [] } inHand hs t₁)
    (hEnded : t₁.closed = true) (hOpen : t.closed = false) (hSub : inHand.Subperm t.staged) :
    Course t [] hs t₁ := by
  cases h with
  | goesOn hState _ _ _ =>
    rw [hState, hOpen] at hEnded
    cases hEnded
  | ends hParts hStill hOnce hCalls hKept hUndone hTold hState =>
    refine .ends hParts hStill hOnce hCalls hKept hUndone (hTold.trans ?_) hState
    rw [List.append_nil]
    exact hSub.append (.refl _)

/-- To settle a transaction that has ended already changes nothing. -/
theorem Course.settled_eq (h : Course t inHand hs t₁) (hEnded : t₁.closed = true)
    (hOpen : t.closed = false) : { t₁ with journal := [], closed := true } = t₁ := by
  cases h with
  | goesOn hState _ _ _ =>
    rw [hState, hOpen] at hEnded
    cases hEnded
  | ends _ _ _ _ _ _ _ hState => rw [← hState.1, ← hState.2]

/-- **A transaction that is closed** by a commit or a rollback. What is undone then is nothing, or
all that is in its journal. -/
theorem Course.close (h : Course { t with staged := [] } inHand hs t₁) (hOpen : t₁.closed = false)
    (hSub : inHand.Subperm t.staged) {entries : List (JournalEntry κ)}
    (hEntries : entries = [] ∨ entries = t₁.journal)
    (hState : t'.closed = true ∧ t'.journal = []) :
    Course t [] (hs ++ .closed :: entries.map .undone) t' := by
  -- the course has not ended before, as the transaction is still open
  cases h with
  | goesOn hGone hStill hUndone hTold =>
    refine .ends rfl hStill (by simp) (by simp) hUndone ?_ ?_ hState
    · rw [undoneIn_map_undone]
      rw [hGone] at hEntries
      exact hEntries
    · rw [toldIn_append, toldIn_closed, toldIn_map_undone, List.append_nil]
      exact (hTold.trans hSub).trans (List.sublist_append_left _ _).subperm
  | ends _ _ _ _ _ _ _ hEnded =>
    rw [hEnded.1] at hOpen
    cases hOpen

end Courses

/-- The events that a phase has in hand when it begins. -/
def Phase.inHand : Phase κ → List Value
  | .telling _ _ events _ => events
  | _ => []

def Phase.isUndoing : Phase κ → Bool
  | .undoing .. => true
  | _ => false

/-- A phase that follows another one, and that may begin when the transaction is closed already. -/
theorem Ran.late {events : List Value} (h : Ran i phase r hs r')
    (hPhase : phase = .code ∧ events = [] ∨ ∃ run sink o, phase = .telling run sink events o)
    (hClosed : (r.transaction i).closed = true) :
    r'.transaction i = r.transaction i ∧
      ∃ late : List Value, late.Subperm events ∧ hs = late.map Happening.told := by
  obtain ⟨hSame, hQuiet⟩ := h.quiet hClosed
  refine ⟨hSame, ?_⟩
  obtain ⟨rfl, rfl⟩ | ⟨run, sink, o, rfl⟩ := hPhase
  · exact ⟨[], .refl _, hQuiet⟩
  · obtain ⟨before, hBefore, hHappened⟩ := hQuiet
    exact ⟨before, hBefore.sublist.subperm, hHappened⟩

/-- **The course of an open transaction** through a phase. (A journal is undone when its transaction
is closed already.) -/
theorem Ran.course (h : Ran i phase r hs r') (hOpen : (r.transaction i).closed = false)
    (hPhase : phase.isUndoing = false) :
    Course (r.transaction i) phase.inHand hs (r'.transaction i) := by
  induction h with
  | rest r => exact .nil _
  | aside hAlone _ ih =>
    rw [← hAlone]
    exact ih (by rw [hAlone, hOpen]) rfl
  -- the call leaves the transaction open, and its course goes on from there
  | @accepted r r₁ r' c hs hCall hRest ih =>
    obtain ⟨r₂, hDone, hAfter⟩ := perform_of_open c hOpen
    rw [hCall] at hDone
    cases hDone
    have hCourse := ih (by rw [hAfter, hOpen]) rfl
    rw [hAfter] at hCourse
    have hTold : (toldIn [Happening.accepted c]).Subperm [] := .refl _
    exact .goesOn_append (by simp) rfl hTold hCourse
  -- code that goes on after an end finds the transaction closed, or still open if the end failed
  | committed hCommit hRest ih ihRest =>
    exact (ih hOpen rfl).append hOpen (fun h => ihRest h rfl) (hRest.late (.inl ⟨rfl, rfl⟩))
  | rolledBack hRollback hRest ih ihRest =>
    exact (ih hOpen rfl).append hOpen (fun h => ihRest h rfl) (hRest.late (.inl ⟨rfl, rfl⟩))
  | commitRefused hClosed | rollbackRefused hClosed =>
    rw [hOpen] at hClosed
    cases hClosed
  | @delivered run r r₁ hs _ hTelling ih =>
    rw [transaction_delivering] at ih
    rw [transaction_settled]
    -- while its sink was told, the transaction may have been ended by what the sink did
    cases hEnd : (r₁.transaction i).closed with
    | false =>
      rw [closing, hEnd]
      exact (ih hOpen rfl).close hEnd (heard_subperm _ _) (.inl rfl) ⟨rfl, rfl⟩
    | true =>
      rw [(ih hOpen rfl).settled_eq hEnd hOpen, closing, if_pos hEnd, List.append_nil]
      exact (ih hOpen rfl).overtaken hEnd hOpen (heard_subperm _ _)
  | @undelivered run r r₁ r' hs hs' x os _ hTelling hStill hUndoing ih _ =>
    rw [transaction_delivering] at ih
    -- the journal is undone when the transaction is closed, so that nothing else happens on it
    obtain ⟨hSame, rfl⟩ := hUndoing.quiet (by rw [transaction_unwinding])
    rw [hSame, transaction_unwinding]
    exact (ih hOpen rfl).close hStill (heard_subperm _ _) (.inr rfl) ⟨rfl, rfl⟩
  | overtaken _ _ hEnded ih =>
    rw [transaction_delivering] at ih
    exact (ih hOpen rfl).overtaken hEnded hOpen (heard_subperm _ _)
  | @unwound run r r' hs os _ hUndoing _ =>
    obtain ⟨hSame, rfl⟩ := hUndoing.quiet (by rw [transaction_unwinding])
    rw [hSame, transaction_unwinding]
    exact (Course.nil _).close hOpen List.nil_subperm (.inr rfl) ⟨rfl, rfl⟩
  | toldAll r => exact .nil _
  | @told run sink event events o r r₁ r' hs hs' _ hCode hRest ihCode ihRest =>
    -- what the sink does about this event comes before the events that are left
    refine .told ?_ event
    exact (ihCode hOpen rfl).append hOpen (fun h => ihRest h rfl) (hRest.late (.inr ⟨_, _, _, rfl⟩))
  | @untaken run sink event events x r r₁ hs _ hCode ihCode =>
    exact ((ihCode hOpen rfl).told event).weaken
      (List.cons_sublist_cons.2 (List.nil_sublist events)).subperm
  | undoneAll | undone | failed => cases hPhase

/-! ## Whole runs -/

/-- **What may happen on a transaction** from its beginning on. -/
structure Orderly (hs : List (Happening κ)) : Prop where
  /-- Compensations are performed in the reverse of the order in which they were entered, each of
  them once; and if any is performed, then all are. -/
  undone : undoneIn hs = [] ∨ undoneIn hs = entriesOf (callsIn hs)
  /-- The sink is told of no event more often than it was staged. -/
  told : (toldIn hs).Subperm (eventsOf (callsIn hs))
  /-- Nothing is undone unless the transaction closes. -/
  kept : .closed ∉ hs → undoneIn hs = []
  /-- The transaction closes once. Nothing is undone before, and no call is accepted afterwards. -/
  ended : ∀ before after, hs = before ++ .closed :: after →
    .closed ∉ before ∧ .closed ∉ after ∧ undoneIn before = [] ∧ callsIn after = []

/-- **Whatever happens on a transaction is orderly**, whoever calls it and from wherever. Where it
ends closed, nothing is pending. -/
theorem Ran.orderly (h : Ran i .code r hs r') (hBegun : r.transaction i = .begun sink) :
    Orderly hs ∧ ((r'.transaction i).closed = true ↔ .closed ∈ hs) ∧
      ((r'.transaction i).closed = true → (r'.transaction i).journal = []) := by
  have hOpen : (r.transaction i).closed = false := by rw [hBegun]; rfl
  have hCourse := h.course hOpen rfl
  have hJournal : (r.transaction i).journal = [] := by rw [hBegun]; rfl
  have hStaged : (r.transaction i).staged = [] := by rw [hBegun]; rfl
  refine ⟨?_, hCourse.closed_iff hOpen, ?_⟩
  · cases hCourse with
    | goesOn _ hStill hUndone hTold =>
      refine ⟨.inl hUndone, hTold.trans List.nil_subperm, fun _ => hUndone, ?_⟩
      rintro before after rfl
      simp at hStill
    | @ends before after hParts hStill hOnce hCalls hKept hUndone hTold _ =>
      subst hParts
      rw [hStaged, show Phase.inHand (.code : Phase κ) = [] from rfl] at hTold
      rw [hJournal, List.append_nil] at hUndone
      refine ⟨by simpa [hKept, hCalls] using hUndone, by simpa [hCalls] using hTold, by simp, ?_⟩
      -- there is but one place at which the transaction can have closed
      intro before' after' hEq
      obtain ⟨rfl, -, rfl⟩ := (List.append_cons_inj_of_notMem hStill hOnce).1 hEq
      exact ⟨hStill, hOnce, hKept, hCalls⟩
  · intro hClosed
    cases hCourse with
    | goesOn hState _ _ _ =>
      rw [hState, hOpen] at hClosed
      cases hClosed
    | ends _ _ _ _ _ _ _ hState => exact hState.2

end Transaction

end WorldForge

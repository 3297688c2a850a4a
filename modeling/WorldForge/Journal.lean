import WorldForge.Log

/-!
# Journals and attempts

A computation here runs on a state that it changes even when it fails: what was done before the
error stays done. That is why undoing is a task of its own. A journal lists, newest first, what
has to be done to undo something; unwinding it attempts every entry, whatever the others do, and
collects what they raise.

* `unwind_cons_ok`, `unwind_cons_error` — one entry, and then the rest in either case.
-/

namespace WorldForge

variable {σ α β : Type}

/-- Runs a computation to its end, and gives what it gave or what it raised. -/
def attempt (x : EStateM Error σ α) : EStateM Error σ (Except Error α) := fun s =>
  match x s with
  | .ok a s' => .ok (.ok a) s'
  | .error e s' => .ok (.error e) s'

/-- Gives a result back, or raises the error it is. -/
def release : Except Error α → EStateM Error σ α
  | .ok a => pure a
  | .error e => throw e

/-- Goes on with what a part of the library gives, or raises its error. -/
def orRaise {ε : Type} (wrap : ε → Error) : Except ε α → EStateM Error σ α
  | .ok a => pure a
  | .error e => throw (wrap e)

/-- Runs a computation, and wraps an error of a family in another one. -/
def wrapping (family : ErrorKind) (wrap : Error → Error) (x : EStateM Error σ α) :
    EStateM Error σ α := fun s =>
  match x s with
  | .ok a s' => .ok a s'
  | .error e s' => .error (if e.within family then wrap e else e) s'

/-- Attempts every entry of a journal, from the newest to the oldest. Gives the errors in the order
in which they were raised; each is reported when it is raised. -/
def unwind (report : LogRecord → EStateM Error σ Unit) (text : β → CallText)
    (undo : β → EStateM Error σ Unit) : List β → EStateM Error σ (List Error)
  | [] => pure []
  | entry :: older => do
    match ← attempt (undo entry) with
    | .ok () => unwind report text undo older
    | .error e => do
      report (.compensationFailed (text entry))
      let rest ← unwind report text undo older
      return e :: rest

/-- What is raised after a rollback: the error that called for it, unless compensations failed;
then it is the cause of an error that has all their errors. -/
def afterRollback (failures : List Error) (e : Error) : Error :=
  if failures.isEmpty then e else .rollbackFailed failures (some e)

section Lemmas

variable {report : LogRecord → EStateM Error σ Unit} {text : β → CallText}
  {undo : β → EStateM Error σ Unit} {entry : β} {older : List β} {s s' : σ} {e : Error}

/-- An entry that succeeds leaves no mark. -/
theorem unwind_cons_ok (h : undo entry s = .ok () s') :
    unwind report text undo (entry :: older) s = unwind report text undo older s' := by
  simp [unwind, attempt, bind, EStateM.bind, h]

/-- An entry that fails is reported, and the older ones still run. -/
theorem unwind_cons_error {s₁ s₂ : σ} {rest : List Error} (h : undo entry s = .error e s')
    (hReport : report (.compensationFailed (text entry)) s' = .ok () s₁)
    (hRest : unwind report text undo older s₁ = .ok rest s₂) :
    unwind report text undo (entry :: older) s = .ok (e :: rest) s₂ := by
  simp [unwind, attempt, bind, EStateM.bind, h, hReport, hRest, pure, EStateM.pure]

end Lemmas

end WorldForge

import WorldForge.Journal

/-!
# How computations come out, and how journals are unwound

A computation that fails leaves a state too. `ends` is what it gave or raised together with that
state, and the lemmas on `>>=` say how a chain of computations comes out.

`Unwound` says of a journal what `unwind` does with it: entry by entry, each run once and from the
state which the one before it left, whatever that one did. It keeps the outcome of every entry, so
it tells which of them raised an error (`raised`) and which have not been undone (`leftover`).

Main results:

* `Unwound.unwind_eq` — an unwinding gives the errors of its entries in running order;
* `exists_unwound` — every journal is unwound to its end, from every state.
-/

namespace WorldForge

variable {σ α β : Type}

/-! ## Computations -/

/-- What a computation gives or raises, and the state that it leaves. -/
def ends (x : EStateM Error σ α) (s : σ) : Except Error α × σ :=
  match x s with
  | .ok a s' => (.ok a, s')
  | .error e s' => (.error e, s')

section Ends

variable {x : EStateM Error σ α} {f : α → EStateM Error σ β} {s s' : σ} {a : α} {b : β} {e : Error}

/-- What a computation that has given a result ends with. -/
theorem ends_of_ok (h : x s = .ok a s') : ends x s = (.ok a, s') := by
  rw [ends, h]

/-- What a computation that has raised an error ends with: the error, and the state in which it was
raised. -/
theorem ends_of_error (h : x s = .error e s') : ends x s = (.error e, s') := by
  rw [ends, h]

/-- The way back from `ends`, for a computation that has given a result. -/
theorem eq_ok_of_ends (h : ends x s = (.ok a, s')) : x s = .ok a s' := by
  cases hx : x s with
  | ok a₁ s₁ =>
    rw [ends_of_ok hx] at h
    cases h
    rfl
  | error e s₁ =>
    rw [ends_of_error hx] at h
    cases h

/-- The way back from `ends`, for a computation that has raised an error. -/
theorem eq_error_of_ends (h : ends x s = (.error e, s')) : x s = .error e s' := by
  cases hx : x s with
  | ok a s₁ =>
    rw [ends_of_ok hx] at h
    cases h
  | error e₁ s₁ =>
    rw [ends_of_error hx] at h
    cases h
    rfl

/-- How a computation comes out is all there is to it. -/
theorem ends_inj {y : EStateM Error σ α} (h : ends x s = ends y s) : x s = y s := by
  cases hy : y s with
  | ok a s' => exact eq_ok_of_ends (h.trans (ends_of_ok hy))
  | error e s' => exact eq_error_of_ends (h.trans (ends_of_error hy))

/-- A computation that is known not to end well has raised some error. -/
theorem exists_error_of_ends (h : (ends x s).1.isOk = false) : ∃ e s', x s = .error e s' := by
  cases hx : x s with
  | ok a s₁ =>
    rw [ends_of_ok hx] at h
    cases h
  | error e s₁ => exact ⟨e, s₁, rfl⟩

/-- A computation that is known to end well has given some result. -/
theorem exists_ok_of_ends (h : (ends x s).1.isOk = true) : ∃ a s', x s = .ok a s' := by
  cases hx : x s with
  | ok a s₁ => exact ⟨a, s₁, rfl⟩
  | error e s₁ =>
    rw [ends_of_error hx] at h
    cases h

/-- **To attempt a computation never fails**: it gives what the computation gave or raised, and
leaves the state that this left. -/
theorem attempt_eq (x : EStateM Error σ α) (s : σ) :
    attempt x s = .ok (ends x s).1 (ends x s).2 := by
  cases hx : x s with
  | ok a s' => rw [attempt, ends_of_ok hx, hx]
  | error e s' => rw [attempt, ends_of_error hx, hx]

/-- To look at the state gives it, and leaves it as it is. -/
theorem get_eq (s : σ) : (get : EStateM Error σ σ) s = .ok s s := rfl

theorem modify_eq (f : σ → σ) (s : σ) : (modify f : EStateM Error σ Unit) s = .ok () (f s) := rfl

/-- A chain goes on from the state which its first link has left, with the result that it gave. -/
theorem bind_of_ok (h : x s = .ok a s') : (x >>= f) s = f a s' := by
  show EStateM.bind x f s = _
  rw [EStateM.bind, h]

/-- A chain is over with the first error, and leaves the state in which it was raised. -/
theorem bind_of_error (h : x s = .error e s') : (x >>= f) s = .error e s' := by
  show EStateM.bind x f s = _
  rw [EStateM.bind, h]

/-- A chain succeeds exactly if both of its links do. -/
theorem bind_eq_ok_iff :
    (x >>= f) s = .ok b s' ↔ ∃ a s₁, x s = .ok a s₁ ∧ f a s₁ = .ok b s' := by
  constructor
  · intro h
    cases hx : x s with
    | ok a s₁ => exact ⟨a, s₁, rfl, by rwa [bind_of_ok hx] at h⟩
    | error e s₁ =>
      rw [bind_of_error hx] at h
      cases h
  · rintro ⟨a, s₁, hx, h⟩
    rw [bind_of_ok hx, h]

/-- A chain fails with its first link, or with its second after the first has succeeded. -/
theorem bind_eq_error_iff :
    (x >>= f) s = .error e s' ↔
      x s = .error e s' ∨ ∃ a s₁, x s = .ok a s₁ ∧ f a s₁ = .error e s' := by
  constructor
  · intro h
    cases hx : x s with
    | ok a s₁ => exact .inr ⟨a, s₁, rfl, by rwa [bind_of_ok hx] at h⟩
    | error e' s₁ =>
      rw [bind_of_error hx] at h
      cases h
      exact .inl rfl
  · rintro (hx | ⟨a, s₁, hx, h⟩)
    · exact bind_of_error hx
    · rw [bind_of_ok hx, h]

/-- A chain ends as its first link does, or as the second ends after it. -/
theorem ends_bind (x : EStateM Error σ α) (f : α → EStateM Error σ β) (s : σ) :
    ends (x >>= f) s =
      match ends x s with
      | (.ok a, s₁) => ends (f a) s₁
      | (.error e, s₁) => (.error e, s₁) := by
  cases hx : x s with
  | ok a s₁ =>
    rw [ends_of_ok hx, ends, bind_of_ok hx]
    rfl
  | error e s₁ => rw [ends_of_error hx, ends_of_error (bind_of_error hx)]

/-- Wrapping concerns errors alone: a computation gives the same result under it, and leaves the
same state. -/
theorem wrapping_eq_ok_iff {family : ErrorKind} {wrap : Error → Error} :
    wrapping family wrap x s = .ok a s' ↔ x s = .ok a s' := by
  rw [wrapping]
  split
  · rename_i hx
    rw [hx]
  · rename_i hx
    simp [hx]

/-- An error of the family is wrapped, and any other one passes as it is. -/
theorem wrapping_eq_error_iff {family : ErrorKind} {wrap : Error → Error} :
    wrapping family wrap x s = .error e s' ↔
      ∃ e₀, x s = .error e₀ s' ∧ e = if e₀.within family then wrap e₀ else e₀ := by
  rw [wrapping]
  split
  · rename_i hx
    simp [hx]
  · rename_i e₁ s₁ hx
    rw [hx]
    constructor
    · intro h
      cases h
      exact ⟨e₁, rfl, rfl⟩
    · rintro ⟨e₀, hEq, rfl⟩
      cases hEq
      rfl

/-- Wrapping changes an error, and nothing of what has happened. -/
theorem ends_wrapping (family : ErrorKind) (wrap : Error → Error) (x : EStateM Error σ α) (s : σ) :
    ends (wrapping family wrap x) s =
      ((ends x s).1.mapError fun e => if e.within family then wrap e else e, (ends x s).2) := by
  cases hx : x s with
  | ok a s' =>
    rw [ends_of_ok hx, ends_of_ok (wrapping_eq_ok_iff.2 hx)]
    rfl
  | error e s' =>
    rw [ends_of_error hx, ends_of_error (wrapping_eq_error_iff.2 ⟨e, hx, rfl⟩)]
    rfl

end Ends

/-! ## Outcomes of compensations -/

/-- The errors among the outcomes of compensations, in running order. -/
def raised : List (Except Error Unit) → List Error
  | [] => []
  | .ok () :: rest => raised rest
  | .error e :: rest => e :: raised rest

/-- The entries of a journal whose compensation raised an error, in the journal's order. -/
def leftover : List β → List (Except Error Unit) → List β
  | _ :: entries, .ok () :: rest => leftover entries rest
  | u :: entries, .error _ :: rest => u :: leftover entries rest
  | _, _ => []

/-- No error has been collected exactly if every outcome was a success. -/
theorem raised_eq_nil_iff {outcomes : List (Except Error Unit)} :
    raised outcomes = [] ↔ ∀ o ∈ outcomes, o = .ok () := by
  induction outcomes with
  | nil => simp [raised]
  | cons o rest ih =>
    cases o with
    | ok u => simp [raised, ih]
    | error e => simp [raised]

/-- Where every entry was undone without an error, nothing of the journal is left over. -/
theorem leftover_eq_nil {entries : List β} {outcomes : List (Except Error Unit)}
    (h : ∀ o ∈ outcomes, o = .ok ()) : leftover entries outcomes = [] := by
  induction outcomes generalizing entries with
  | nil => cases entries <;> rfl
  | cons o rest ih =>
    obtain rfl := h o (.head _)
    cases entries with
    | nil => rfl
    | cons u older => exact ih fun o' ho => h o' (.tail _ ho)

/-- If all compensations have gone through, the error that called for the rollback is raised as it
is. -/
theorem afterRollback_nil (e : Error) : afterRollback [] e = e := rfl

/-- If compensations have failed, their errors are raised together, with the error that called for
the rollback as the cause. -/
theorem afterRollback_of_ne_nil {failures : List Error} (e : Error) (h : failures ≠ []) :
    afterRollback failures e = .rollbackFailed failures (some e) := by
  cases failures with
  | nil => exact absurd rfl h
  | cons f rest => rfl

/-! ## Unwinding -/

/-- A journal is unwound from one state to another: its entries are run in their order, each of them
once and from the state that the one before it left, and an entry that raises an error is reported.
Each entry has its outcome. -/
inductive Unwound (report : LogRecord → EStateM Error σ Unit) (text : β → CallText)
    (undo : β → EStateM Error σ Unit) : σ → List β → List (Except Error Unit) → σ → Prop
  | nil (s : σ) : Unwound report text undo s [] [] s
  | undone {s s₁ s' : σ} {u : β} {older : List β} {outcomes : List (Except Error Unit)}
      (hUndo : undo u s = .ok () s₁)
      (hOlder : Unwound report text undo s₁ older outcomes s') :
      Unwound report text undo s (u :: older) (.ok () :: outcomes) s'
  | failed {s s₁ s₂ s' : σ} {u : β} {older : List β} {outcomes : List (Except Error Unit)}
      {e : Error}
      (hUndo : undo u s = .error e s₁)
      (hReport : report (.compensationFailed (text u)) s₁ = .ok () s₂)
      (hOlder : Unwound report text undo s₂ older outcomes s') :
      Unwound report text undo s (u :: older) (.error e :: outcomes) s'

section Unwinding

variable {report : LogRecord → EStateM Error σ Unit} {text : β → CallText}
  {undo : β → EStateM Error σ Unit} {s s₁ s' : σ} {journal : List β}
  {outcomes : List (Except Error Unit)}

/-- Every entry has exactly one outcome. -/
theorem Unwound.length_eq (h : Unwound report text undo s journal outcomes s') :
    outcomes.length = journal.length := by
  induction h with
  | nil => rfl
  | undone _ _ ih => simp [ih]
  | failed _ _ _ ih => simp [ih]

/-- As many entries are left over as errors have been raised. -/
theorem Unwound.length_leftover (h : Unwound report text undo s journal outcomes s') :
    (leftover journal outcomes).length = (raised outcomes).length := by
  induction h with
  | nil => rfl
  | undone _ _ ih => exact ih
  | failed _ _ _ ih => exact congrArg Nat.succ ih

/-- **Unwinding never fails.** It gives what the entries raised, in running order. -/
theorem Unwound.unwind_eq (h : Unwound report text undo s journal outcomes s') :
    unwind report text undo journal s = .ok (raised outcomes) s' := by
  induction h with
  | nil => rfl
  | undone hUndo _ ih => rw [unwind_cons_ok hUndo, ih, raised]
  | failed hUndo hReport _ ih => rw [unwind_cons_error hUndo hReport ih, raised]

/-- **Every journal can be unwound**, whatever its entries raise, where reporting never fails. -/
theorem exists_unwound (hReport : ∀ r s, ∃ s', report r s = .ok () s') (journal : List β) (s : σ) :
    ∃ outcomes s', Unwound report text undo s journal outcomes s' := by
  induction journal generalizing s with
  | nil => exact ⟨[], s, .nil s⟩
  | cons u older ih =>
    cases hUndo : undo u s with
    | ok _ s₁ =>
      obtain ⟨outcomes, s', hOlder⟩ := ih s₁
      exact ⟨_, s', .undone hUndo hOlder⟩
    -- what is raised is reported, and the older entries run all the same
    | error e s₁ =>
      obtain ⟨s₂, hTold⟩ := hReport (.compensationFailed (text u)) s₁
      obtain ⟨outcomes, s', hOlder⟩ := ih s₂
      exact ⟨_, s', .failed hUndo hTold hOlder⟩

end Unwinding

end WorldForge

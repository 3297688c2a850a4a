import WorldForge.Proofs.Journal
import WorldForge.Proofs.Ledger.Renumbering

/-!
# Computations in parallel

Two computations run in parallel, up to a renumbering of handles, if they come out the same but for
the numbers of the handles whenever they start in states that go together, and leave such states.
How the states go together is a parameter: it says what the computations may see of a state, and
what is hidden from them.

* `Parallel.bind`, `Parallel.attempt`, `Parallel.wrapping`, `Parallel.unwind` — what is put together
  of parts that run in parallel runs in parallel.
-/

namespace WorldForge

variable {σ α β : Type} {g : Int → Int} {S : σ → σ → Prop}

/-- **Two computations run in parallel**: from states that go together, they give or raise the same
up to the numbers of handles, and leave states that go together. -/
def Parallel [Renumbers α] (g : Int → Int) (S : σ → σ → Prop) (x y : EStateM Error σ α) : Prop :=
  ∀ s t, S s t → (ends x s).1 = renumber g (ends y t).1 ∧ S (ends x s).2 (ends y t).2

section Parts

variable [Renumbers α] [Renumbers β]

/-- Two results run in parallel if they are the same up to the numbers of handles. -/
theorem parallel_pure {a b : α} (h : a = renumber g b) :
    Parallel g S (pure a : EStateM Error σ α) (pure b) :=
  fun _ _ hS => ⟨congrArg Except.ok h, hS⟩

/-- Two errors run in parallel if they are the same up to the numbers of handles. -/
theorem parallel_throw {e d : Error} (h : e = renumber g d) :
    Parallel g S (throw e : EStateM Error σ α) (throw d) :=
  fun _ _ hS => ⟨congrArg Except.error h, hS⟩

/-- Two changes of the state run in parallel if the changed states go together whenever the states
before do. -/
theorem parallel_modify {f h : σ → σ} (hS : ∀ s t, S s t → S (f s) (h t)) :
    Parallel g S (modify f : EStateM Error σ Unit) (modify h) :=
  fun s t hs => ⟨rfl, hS s t hs⟩

/-- To give results back or to raise errors runs in parallel, if these are the same up to the
numbers of handles. -/
theorem parallel_release {a b : Except Error α} (h : a = renumber g b) :
    Parallel g S (release a : EStateM Error σ α) (release b) := by
  subst h
  cases b with
  | ok b => exact parallel_pure rfl
  | error e => exact parallel_throw rfl

/-- **A chain runs in parallel with another one** if its links do. -/
theorem Parallel.bind {x y : EStateM Error σ α} {f h : α → EStateM Error σ β}
    (hxy : Parallel g S x y) (hNext : ∀ a, Parallel g S (f (renumber g a)) (h a)) :
    Parallel g S (x >>= f) (y >>= h) := by
  intro s t hS
  obtain ⟨hSame, hS₁⟩ := hxy s t hS
  rw [ends_bind, ends_bind]
  rcases hx : ends x s with ⟨a, s₁⟩
  rcases hy : ends y t with ⟨b, t₁⟩
  rw [hx, hy] at hSame hS₁
  obtain rfl : a = renumber g b := hSame
  -- so either both go on, or both are done
  cases b with
  | ok b => exact hNext b s₁ t₁ hS₁
  | error e => exact ⟨rfl, hS₁⟩

/-- What goes on with the states that it finds is looked at for each two that go together. -/
theorem Parallel.get {f h : σ → EStateM Error σ β}
    (hNext : ∀ s t, S s t → Parallel g S (f s) (h t)) :
    Parallel g S (get >>= f) (get >>= h) :=
  fun s t hS => hNext s t hS s t hS

/-- What runs in parallel does so, too, when it is attempted: the errors at the end agree as the
results do. -/
theorem Parallel.attempt {x y : EStateM Error σ α} (h : Parallel g S x y) :
    Parallel g S (attempt x) (attempt y) := by
  intro s t hS
  rw [ends_of_ok (attempt_eq x s), ends_of_ok (attempt_eq y t)]
  obtain ⟨hSame, hS₁⟩ := h s t hS
  exact ⟨congrArg Except.ok hSame, hS₁⟩

/-- The same errors are wrapped in both, since renumbering keeps the kind. -/
theorem Parallel.wrapping {x y : EStateM Error σ α} (h : Parallel g S x y) (family : ErrorKind)
    {wrap wrap' : Error → Error} (hWrap : ∀ e, wrap (renumber g e) = renumber g (wrap' e)) :
    Parallel g S (wrapping family wrap x) (wrapping family wrap' y) := by
  intro s t hS
  obtain ⟨hSame, hS₁⟩ := h s t hS
  rw [ends_wrapping, ends_wrapping]
  refine ⟨?_, hS₁⟩
  rw [hSame]
  -- renumbering does not change of which family an error is
  cases (ends y t).1 with
  | ok b => rfl
  | error e =>
    refine congrArg Except.error ?_
    dsimp only
    rw [within_renumber]
    split
    · exact hWrap e
    · rfl

end Parts

/-- Two loops over the same list run in parallel if their bodies do. -/
theorem Parallel.forM {f h : α → EStateM Error σ Unit} (hEach : ∀ a, Parallel g S (f a) (h a))
    (l : List α) : Parallel g S (l.forM f) (l.forM h) := by
  induction l with
  | nil => exact parallel_pure rfl
  | cons a rest ih => exact (hEach a).bind fun _ => ih

/-- **Unwindings run in parallel** if their entries do, whatever is reported. -/
theorem Parallel.unwind [Renumbers β] {report : LogRecord → EStateM Error σ Unit}
    {text : β → CallText} {undo : β → EStateM Error σ Unit}
    (hReport : ∀ r r', Parallel g S (report r) (report r'))
    (hUndo : ∀ u, Parallel g S (undo (renumber g u)) (undo u)) (journal : List β) :
    Parallel g S (unwind report text undo (renumber g journal))
      (unwind report text undo journal) := by
  induction journal with
  | nil => exact parallel_pure rfl
  -- an entry fails in both or in none, and the older ones are undone either way
  | cons u older ih =>
    refine (hUndo u).attempt.bind fun outcome => ?_
    cases outcome with
    | ok _ => exact ih
    | error e => exact (hReport _ _).bind fun _ => ih.bind fun rest => parallel_pure rfl

/-- What is raised after a rollback is the same as well. -/
theorem renumber_afterRollback (failures : List Error) (e : Error) :
    afterRollback (renumber g failures) (renumber g e) = renumber g (afterRollback failures e) := by
  cases failures with
  | nil => rfl
  | cons f rest =>
    show Error.rollbackFailed _ (some (renumber g e)) = Error.rollbackFailed _ (some _)
    rw [Error.renumberedAll_eq]
    rfl

end WorldForge

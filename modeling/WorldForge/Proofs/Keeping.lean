import WorldForge.Proofs.Journal

/-!
# Where computations lead

A computation leads onward, by a preorder on states, if no part of it ever steps back. So it keeps
each condition that is never lost onward. For a computation that runs foreign code on its way this
says too little: it says nothing about the states in which that code begins and ends.

So two computations are compared. They are *alike*, but for passages of some kind, if they come out
the same unless the first of them goes through such a passage. What is alike to itself leads onward.
And if a computation stays alike when the code that it runs is replaced with other code, then it can
only come out differently if it goes through a passage at which the code differs. So the state in
which code begins lies behind the start of the computation, and the computation ends behind the
state in which the code ends.

Main results:

* `Alike.bind`, `Alike.attempt`, `Alike.unwind` — what is put together of parts that are alike is
  alike;
* `between_of_starts` — foreign code has its place between the start and the end.
-/

namespace WorldForge

variable {σ α β ε κ : Type} {R B : σ → σ → Prop} {s t s' : σ}

/-! ## Passages -/

/-- One state leads to another one through a passage. -/
def Through (R B : σ → σ → Prop) (s s' : σ) : Prop := ∃ t t', R s t ∧ B t t' ∧ R t' s'

section Passages

variable [Trans R R R]

/-- A passage is still gone through if one comes onward to the start of the way. -/
theorem Through.before (h : Through R B t s') (hLeads : R s t) : Through R B s s' := by
  obtain ⟨u, u', hTo, hPassage, hFrom⟩ := h
  exact ⟨u, u', Trans.trans hLeads hTo, hPassage, hFrom⟩

/-- A passage is still gone through if one goes onward from the end of the way. -/
theorem Through.after (h : Through R B s t) (hLeads : R t s') : Through R B s s' := by
  obtain ⟨u, u', hTo, hPassage, hFrom⟩ := h
  exact ⟨u, u', hTo, hPassage, Trans.trans hFrom hLeads⟩

end Passages

/-- **Two computations are alike but for passages**: the first one leads onward, and they come out
the same, unless it goes through a passage. -/
def Alike (R B : σ → σ → Prop) (x y : EStateM Error σ α) : Prop :=
  ∀ s, R s (ends x s).2 ∧ (y s = x s ∨ Through R B s (ends x s).2)

/-- A computation leads onward. -/
abbrev Leads (R B : σ → σ → Prop) (x : EStateM Error σ α) : Prop := Alike R B x x

/-- A condition is carried from one state to another. -/
def Carries (V : σ → Prop) (s s' : σ) : Prop := V s → V s'

instance (V : σ → Prop) : Std.Refl (Carries V) := ⟨fun _ hs => hs⟩

instance (V : σ → Prop) : Trans (Carries V) (Carries V) (Carries V) := ⟨fun h h' hs => h' (h hs)⟩

/-- A computation keeps a condition. -/
abbrev Keeps (V : σ → Prop) (x : EStateM Error σ α) : Prop :=
  Leads (Carries V) (fun _ _ => False) x

/-- A condition that a computation keeps holds in the state which it leaves, whether it ends with a
result or with an error. -/
theorem Keeps.holds {V : σ → Prop} {x : EStateM Error σ α} (h : Keeps V x) (hs : V s) :
    V (ends x s).2 :=
  (h s).1 hs

/-! ## Rules -/

section Parts

variable {x y : EStateM Error σ α} {f g : α → EStateM Error σ β}

/-- A computation that runs no foreign code leads onward, if each state that it leaves lies onward
from the one in which it began. -/
theorem leads_of_forall (h : ∀ s, R s (ends x s).2) : Leads R B x :=
  fun s => ⟨h s, .inl rfl⟩

/-- What goes on with the state that it finds need only lead onward from this state. -/
theorem leads_get_bind {f : σ → EStateM Error σ β} (h : ∀ s, R s (ends (f s) s).2) :
    Leads R B (get >>= f) :=
  leads_of_forall h

/-- A change of the state leads onward if the changed state always lies onward. -/
theorem leads_modify {h : σ → σ} (hLeads : ∀ s, R s (h s)) :
    Leads R B (modify h : EStateM Error σ Unit) :=
  leads_of_forall hLeads

section Idle

variable [Std.Refl R]

theorem leads_pure (a : α) : Leads R B (pure a : EStateM Error σ α) :=
  leads_of_forall fun s => Std.Refl.refl s

theorem leads_throw (e : Error) : Leads R B (throw e : EStateM Error σ α) :=
  leads_of_forall fun s => Std.Refl.refl s

/-- To look at the state leads onward, for it stays where it is. -/
theorem leads_get : Leads R B (get : EStateM Error σ σ) :=
  leads_of_forall fun s => Std.Refl.refl s

/-- To give a result back or to raise an error leads onward, whichever it is. -/
theorem leads_release (res : Except Error α) : Leads R B (release res : EStateM Error σ α) := by
  cases res with
  | ok a => exact leads_pure a
  | error e => exact leads_throw e

/-- To go on with what a part of the library gives, or to raise its error, leads onward. -/
theorem leads_orRaise (wrap : ε → Error) (res : Except ε α) :
    Leads R B (orRaise wrap res : EStateM Error σ α) := by
  cases res with
  | ok a => exact leads_pure a
  | error e => exact leads_throw (wrap e)

theorem alike_throw_bind (e : Error) : Alike R B (throw e >>= f) (throw e >>= g) :=
  fun s => ⟨Std.Refl.refl s, .inl rfl⟩

end Idle

/-- **A chain is alike to another one** if its links are. -/
theorem Alike.bind [Trans R R R] (h : Alike R B x y) (hNext : ∀ a, Alike R B (f a) (g a)) :
    Alike R B (x >>= f) (y >>= g) := by
  intro s
  obtain ⟨hLeads, hSame⟩ := h s
  rw [ends_bind]
  cases hx : x s with
  | ok a s₁ =>
    rw [ends_of_ok hx] at hLeads hSame ⊢
    obtain ⟨hLeads₁, hSame₁⟩ := hNext a s₁
    refine ⟨Trans.trans hLeads hLeads₁, ?_⟩
    -- if the first links have come apart, the way there leads through what sets them apart
    rcases hSame with hSame | hThrough
    · rw [hx] at hSame
      rw [bind_of_ok hx, bind_of_ok hSame]
      exact hSame₁.imp_right fun hThrough => hThrough.before hLeads
    · exact .inr (hThrough.after hLeads₁)
  | error e s₁ =>
    rw [ends_of_error hx] at hLeads hSame ⊢
    refine ⟨hLeads, hSame.imp_left fun hSame => ?_⟩
    rw [hx] at hSame
    rw [bind_of_error hx, bind_of_error hSame]

/-- What two computations come to that go on as others do, from a state onward. -/
theorem Alike.before [Trans R R R] {x' y' : EStateM Error σ α} {s s₁ : σ} (h : Alike R B x y)
    (hLeads : R s s₁) (hx : x' s = x s₁) (hy : y' s = y s₁) :
    R s (ends x' s).2 ∧ (y' s = x' s ∨ Through R B s (ends x' s).2) := by
  have hEnds : ends x' s = ends x s₁ := by rw [ends, ends, hx]
  obtain ⟨hOn, hSame⟩ := h s₁
  rw [hEnds, hx, hy]
  exact ⟨Trans.trans hLeads hOn, hSame.imp_right fun hThrough => hThrough.before hLeads⟩

/-- What goes on with the state that it finds is looked at state by state. -/
theorem Alike.get [Std.Refl R] [Trans R R R] {f g : σ → EStateM Error σ β}
    (h : ∀ s, Alike R B (f s) (g s)) : Alike R B (get >>= f) (get >>= g) :=
  leads_get.bind h

/-- Computations that are alike stay so when both are attempted. -/
theorem Alike.attempt (h : Alike R B x y) : Alike R B (attempt x) (attempt y) := by
  intro s
  rw [ends_of_ok (attempt_eq x s)]
  refine (h s).imp_right fun hEither => hEither.imp_left fun hSame => ?_
  rw [WorldForge.attempt, WorldForge.attempt, hSame]

/-- Computations that are alike stay so when errors of the same family are wrapped in the same
way. -/
theorem Alike.wrapping (h : Alike R B x y) (family : ErrorKind) (wrap : Error → Error) :
    Alike R B (wrapping family wrap x) (wrapping family wrap y) := by
  intro s
  rw [ends_wrapping]
  refine (h s).imp_right fun hEither => hEither.imp_left fun hSame => ?_
  rw [WorldForge.wrapping, WorldForge.wrapping, hSame]

end Parts

section Many

variable [Std.Refl R] {f g : α → EStateM Error σ Unit}

/-- What is done with something that may be missing is alike, if it is so for everything that may be
there. -/
theorem Alike.optionForM (h : ∀ a, Alike R B (f a) (g a)) (o : Option α) :
    Alike R B (o.forM f) (o.forM g) := by
  cases o with
  | none => exact leads_pure ()
  | some a => exact h a

variable [Trans R R R]

/-- Two loops over a list are alike if their bodies are, whichever of the list they are at. -/
theorem Alike.forM (h : ∀ a, Alike R B (f a) (g a)) (l : List α) :
    Alike R B (l.forM f) (l.forM g) := by
  induction l with
  | nil => exact leads_pure ()
  | cons a rest ih => exact (h a).bind fun _ => ih

/-- Unwindings whose entries are alike are alike. What an entry raises is reported in both, and
after that the older entries are performed. -/
theorem Alike.unwind {report : LogRecord → EStateM Error σ Unit} {text : α → CallText}
    (hReport : ∀ call, Leads R B (report (.compensationFailed call)))
    (h : ∀ u, Alike R B (f u) (g u))
    (journal : List α) :
    Alike R B (unwind report text f journal) (unwind report text g journal) := by
  induction journal with
  | nil => exact leads_pure []
  | cons u older ih =>
    refine (h u).attempt.bind fun outcome => ?_
    cases outcome with
    | ok _ => exact ih
    | error e => exact (hReport _).bind fun _ => ih.bind fun rest => leads_pure _

end Many

/-! ## Foreign code -/

/-- **A computation starts code in a state.** How the computation comes out depends on what the code
does there: there is another way to run code that differs at this point only, and the computation
comes out differently by it. -/
def Starts (x : (κ → EStateM Error σ Unit) → EStateM Error σ α)
    (run : κ → EStateM Error σ Unit) (s : σ) (code : κ) (s' : σ) : Prop :=
  ∃ run' : κ → EStateM Error σ Unit,
    (∀ c t, (c, t) ≠ (code, s') → run' c t = run c t) ∧ x run' s ≠ x run s

/-- **Code that is started has its place in between**: it begins onward from the start, and where it
ends, the computation goes on. This holds if the computation cannot tell apart ways to run code that
are alike. -/
theorem between_of_starts [Std.Refl R] {x : (κ → EStateM Error σ Unit) → EStateM Error σ α}
    {run : κ → EStateM Error σ Unit} {code : κ}
    (hAlike : ∀ B run', (∀ c, Alike R B (run c) (run' c)) → Alike R B (x run) (x run'))
    (hRun : ∀ c s, R s (ends (run c) s).2) (h : Starts x run s code s') :
    R s s' ∧ R (ends (run code) s').2 (ends (x run) s).2 := by
  obtain ⟨run', hElse, hDiffers⟩ := h
  -- the one passage at which the two ways to run code may differ
  let B : σ → σ → Prop := fun t t' => t = s' ∧ t' = (ends (run code) s').2
  have hCode : ∀ c, Alike R B (run c) (run' c) := by
    intro c t
    refine ⟨hRun c t, ?_⟩
    by_cases hPoint : (c, t) = (code, s')
    · obtain ⟨rfl, rfl⟩ := Prod.mk.inj hPoint
      exact .inr ⟨t, _, Std.Refl.refl t, ⟨rfl, rfl⟩, Std.Refl.refl _⟩
    · exact .inl (hElse c t hPoint)
  rcases (hAlike B run' hCode s).2 with hSame | ⟨t, t', hTo, ⟨rfl, rfl⟩, hFrom⟩
  · exact absurd hSame hDiffers
  · exact ⟨hTo, hFrom⟩

end WorldForge

import Mathlib.Tactic.Choose
import WorldForge.Proofs.Keeping

/-!
# Computations in dialogue with the code that they run

Whatever way there is to run foreign code, a computation goes on by itself up to where it runs some,
and then goes on by itself with what has come of it. So it can be laid out as a tree: a *dialogue*,
which does not depend on the way to run code. Any such way leads through the dialogue on one path,
and there it runs code in a certain order, each time in a certain state: these are the passages.

A computation *converses* by a preorder on states if it has a dialogue in which every part that the
computation does by itself leads onward. Nothing is said of the parts that foreign code does, and
nothing is left out or added: a dialogue has to give the right outcome for every way to run code.

Main results:

* `Converses.bind`, `Converses.attempt`, `Converses.unwind` — what is put together of computations
  that converse converses;
* `Converses.alike` — by ways to run code that are alike, the same dialogue comes out alike;
* `Dialogue.mem_passages_of_starts`, `Dialogue.starts_of_mem_passages` — the code on the path is the
  code that the computation starts;
* `Dialogue.exists_passages_of_before`, `Dialogue.Leads.pairwise` — the order in which the code is
  run;
* `Dialogue.Leads.first`, `Dialogue.Leads.next`, `Dialogue.Leads.last` — before the first passage,
  between two of them and behind the last one, a computation leads onward by itself.
-/

namespace WorldForge

variable {κ σ α β γ : Type} {run run' : κ → EStateM Error σ Unit} {R B : σ → σ → Prop}
  {F G : σ → Prop} {s : σ}

/-- **How a computation goes on**: it is over, or it runs code, and then it goes on with what has
come of it. -/
inductive Dialogue (κ σ α : Type)
  | done (res : Except Error α) (s : σ)
  | asks (code : κ) (s : σ) (next : Except Error Unit × σ → Dialogue κ σ α)

namespace Dialogue

/-- How a dialogue comes out, given a way to run code. -/
def hold (run : κ → EStateM Error σ Unit) : Dialogue κ σ α → Except Error α × σ
  | done res s => (res, s)
  | asks code s next => (next (ends (run code) s)).hold run

/-- The code that is run in a dialogue, in order, with the states in which it begins. -/
def passages (run : κ → EStateM Error σ Unit) : Dialogue κ σ α → List (κ × σ)
  | done .. => []
  | asks code s next => (code, s) :: (next (ends (run code) s)).passages run

/-- From a start, a dialogue gets to where `F` holds, and from then on it leads onward, whatever
comes of the code that it runs. -/
def Leads (R : σ → σ → Prop) : (σ → Prop) → Dialogue κ σ α → Prop
  | F, done _ s => F s
  | F, asks _ s next => F s ∧ ∀ out, (next out).Leads R (R out.2)

/-- A dialogue that goes on as another one when it is over. -/
def andThen (d : Dialogue κ σ α) (f : Except Error α → σ → Dialogue κ σ β) : Dialogue κ σ β :=
  match d with
  | done res s => f res s
  | asks code s next => asks code s fun out => (next out).andThen f

/-- What comes after a success; an error is the end. -/
def orEnd (next : α → σ → Dialogue κ σ β) : Except Error α → σ → Dialogue κ σ β
  | .ok a, s => next a s
  | .error e, s => done (.error e) s

variable {d : Dialogue κ σ α} {f : Except Error α → σ → Dialogue κ σ β}

/-- **A dialogue that goes on as another one** comes out as the second one does from where the first
one has ended, by the same way to run code. -/
theorem hold_andThen (run : κ → EStateM Error σ Unit) (d : Dialogue κ σ α)
    (f : Except Error α → σ → Dialogue κ σ β) :
    (d.andThen f).hold run = (f (d.hold run).1 (d.hold run).2).hold run := by
  induction d with
  | done res s => rfl
  | asks code s next ih => exact ih _

theorem Leads.mono (h : d.Leads R F) (hMono : ∀ s, F s → G s) : d.Leads R G := by
  cases d with
  | done res s => exact hMono s h
  | asks code s next => exact ⟨hMono s h.1, h.2⟩

/-- What leads onward in one way leads onward in a wider one. -/
theorem Leads.weaken {S : σ → σ → Prop} (h : d.Leads R F) (hWeak : ∀ s t, R s t → S s t) :
    d.Leads S F := by
  induction d generalizing F with
  | done res s => exact h
  | asks code s next ih => exact ⟨h.1, fun out => ih out ((h.2 out).mono fun t => hWeak out.2 t)⟩

/-- A dialogue that leads onward, and goes on as one which leads onward from wherever the first has
ended, leads onward as a whole. -/
theorem Leads.andThen [Trans R R R] (h : d.Leads R F) (hF : ∀ s t, F s → R s t → F t)
    (hNext : ∀ res s, (f res s).Leads R (R s)) : (d.andThen f).Leads R F := by
  induction d generalizing F with
  | done res s => exact (hNext res s).mono fun t hOn => hF s t h hOn
  | asks code s next ih =>
    exact ⟨h.1, fun out => ih out (h.2 out) fun _ _ hTo hOn => Trans.trans hTo hOn⟩

/-! ## Passages -/

/-- **Whether a dialogue comes to a passage is decided by those before it**: it does so by every way
to run code that agrees on these. -/
theorem exists_passages_of_before {p : κ × σ} {before after : List (κ × σ)}
    (hParts : d.passages run = before ++ p :: after)
    (hSame : ∀ q ∈ before, run' q.1 q.2 = run q.1 q.2) :
    ∃ after', d.passages run' = before ++ p :: after' := by
  induction d generalizing before with
  | done res s => simp [passages] at hParts
  | asks code s next ih =>
    cases before with
    | nil =>
      obtain ⟨rfl, -⟩ := List.cons.inj hParts
      exact ⟨_, rfl⟩
    -- the first passage has the same outcome by both ways, so both go on in the same dialogue
    | cons first before =>
      obtain ⟨rfl, hRest⟩ := List.cons.inj hParts
      have hFirst : run' code s = run code s := hSame (code, s) (.head _)
      have hEnds : ends (run' code) s = ends (run code) s := by rw [ends, ends, hFirst]
      obtain ⟨after', hLater⟩ := ih _ hRest fun q hq => hSame q (.tail _ hq)
      refine ⟨after', ?_⟩
      show (code, s) :: (next (ends (run' code) s)).passages run' = _
      rw [hEnds, hLater]
      rfl

/-- How a dialogue comes out depends on its passages alone. -/
theorem hold_congr (h : ∀ p ∈ d.passages run, run' p.1 p.2 = run p.1 p.2) :
    d.hold run' = d.hold run := by
  induction d with
  | done res s => rfl
  | asks code s next ih =>
    have hFirst : run' code s = run code s := h (code, s) (.head _)
    have hSame : ends (run' code) s = ends (run code) s := by rw [ends, ends, hFirst]
    show (next (ends (run' code) s)).hold run' = _
    rw [hSame]
    exact ih _ fun p hp => h p (.tail _ hp)

/-- **All code that a computation starts** is in its dialogue. -/
theorem mem_passages_of_starts {x : (κ → EStateM Error σ Unit) → EStateM Error σ α}
    {code : κ} {t : σ}
    (hHold : ∀ run, ends (x run) s = d.hold run) (h : Starts x run s code t) :
    (code, t) ∈ d.passages run := by
  obtain ⟨run', hElse, hDiffers⟩ := h
  refine Classical.byContradiction fun hAbsent => hDiffers (ends_inj ?_)
  rw [hHold, hHold]
  refine hold_congr fun p hp => hElse p.1 p.2 fun hSame => hAbsent ?_
  rwa [← show p = (code, t) from hSame]

/-- If code leads onward, too, a dialogue is over where `F` holds. -/
theorem Leads.holds [Trans R R R] (h : d.Leads R F) (hRun : ∀ c s, R s (ends (run c) s).2)
    (hF : ∀ s t, F s → R s t → F t) : F (d.hold run).2 := by
  induction d generalizing F with
  | done res s => exact h
  | asks code s next ih =>
    exact hF _ _ (hF _ _ h.1 (hRun code s)) (ih _ (h.2 _) fun _ _ hTo hOn => Trans.trans hTo hOn)

/-- If code leads onward, too, every passage begins where `F` holds. -/
theorem Leads.holds_at [Trans R R R] {p : κ × σ} (h : d.Leads R F)
    (hRun : ∀ c s, R s (ends (run c) s).2) (hF : ∀ s t, F s → R s t → F t)
    (hMem : p ∈ d.passages run) : F p.2 := by
  induction d generalizing F with
  | done res s => cases hMem
  | asks code s next ih =>
    rcases List.mem_cons.1 hMem with rfl | hLater
    · exact h.1
    · have hOver : R s p.2 :=
        ih _ (h.2 _) (fun _ _ hTo hOn => Trans.trans hTo hOn) hLater |> Trans.trans (hRun code s)
      exact hF _ _ h.1 hOver

/-- **The passages of a dialogue follow each other**: each begins onward from where those before it
have ended. -/
theorem Leads.pairwise [Trans R R R] (h : d.Leads R F) (hRun : ∀ c s, R s (ends (run c) s).2) :
    (d.passages run).Pairwise fun p q => R (ends (run p.1) p.2).2 q.2 := by
  induction d generalizing F with
  | done res s => exact .nil
  | asks code s next ih =>
    refine .cons (fun q hLater => ?_) (ih _ (h.2 _))
    exact (h.2 _).holds_at hRun (fun _ _ hTo hOn => Trans.trans hTo hOn) hLater

/-! ## Between the passages -/

variable {p q : κ × σ} {before after : List (κ × σ)}

/-- What a computation does by itself before its first passage. -/
theorem Leads.first (h : d.Leads R F) (hFirst : d.passages run = p :: after) : F p.2 := by
  cases d with
  | done res s => cases hFirst
  | asks code s next =>
    obtain ⟨rfl, -⟩ := List.cons.inj hFirst
    exact h.1

/-- What a computation does that comes to no code. -/
theorem Leads.alone (h : d.Leads R F) (hAlone : d.passages run = []) : F (d.hold run).2 := by
  cases d with
  | done res s => exact h
  | asks code s next => cases hAlone

/-- Behind a passage goes on what is left of the dialogue. -/
theorem Leads.behind (h : d.Leads R F) (hParts : d.passages run = before ++ p :: after) :
    ∃ d' : Dialogue κ σ α, d'.Leads R (R (ends (run p.1) p.2).2) ∧ d'.passages run = after ∧
      d'.hold run = d.hold run := by
  -- the dialogue is taken apart along the passages that come before
  induction d generalizing F before with
  | done res s => simp [passages] at hParts
  | asks code s next ih =>
    cases before with
    | nil =>
      obtain ⟨rfl, hRest⟩ := List.cons.inj hParts
      exact ⟨_, h.2 _, hRest, rfl⟩
    | cons first before =>
      obtain ⟨rfl, hRest⟩ := List.cons.inj hParts
      exact ih _ (h.2 _) hRest

/-- From one passage to the next, a computation leads onward by itself. -/
theorem Leads.next (h : d.Leads R F) (hParts : d.passages run = before ++ p :: q :: after) :
    R (ends (run p.1) p.2).2 q.2 := by
  obtain ⟨d', hLeads, hRest, -⟩ := h.behind hParts
  exact hLeads.first hRest

/-- From the last passage to the end, too. -/
theorem Leads.last (h : d.Leads R F) (hParts : d.passages run = before ++ [p]) :
    R (ends (run p.1) p.2).2 (d.hold run).2 := by
  obtain ⟨d', hLeads, hRest, hSame⟩ := h.behind hParts
  rw [← hSame]
  exact hLeads.alone hRest

section Started

variable [Trans R R R] {code : κ} {t : σ}

/-- A dialogue goes on from where the code leads that it comes to, also if another way to run code
leads elsewhere from there. -/
theorem Leads.elsewhere (hRun : ∀ c s, R s (ends (run' c) s).2)
    (hElse : ∀ c v, (c, v) ≠ (code, t) → run' c v = run c v) (h : d.Leads R F)
    (hMem : (code, t) ∈ d.passages run) : R (ends (run' code) t).2 (d.hold run').2 := by
  induction d generalizing F with
  | done res s => cases hMem
  | asks c v next ih =>
    -- up to the passage at which the two differ, both dialogues are the same
    by_cases hHere : (c, v) = (code, t)
    · obtain ⟨rfl, rfl⟩ := Prod.mk.inj hHere
      exact (h.2 _).holds hRun fun _ _ hTo hOn => Trans.trans hTo hOn
    · have hSame : ends (run' c) v = ends (run c) v := by rw [ends, ends, hElse c v hHere]
      have hLater : (code, t) ∈ (next (ends (run c) v)).passages run :=
        (List.mem_cons.1 hMem).resolve_left fun hEq => hHere hEq.symm
      show R _ ((next (ends (run' c) v)).hold run').2
      rw [hSame]
      exact ih _ (h.2 _) hLater

/-- **All code that is in a dialogue is started**, if everything leads onward, and onward from the
end there is a state from which nothing leads there. -/
theorem starts_of_mem_passages {x : (κ → EStateM Error σ Unit) → EStateM Error σ α} {u : σ}
    (hHold : ∀ run, ends (x run) s = d.hold run) (h : d.Leads R F)
    (hRun : ∀ c s, R s (ends (run c) s).2) (hMem : (code, t) ∈ d.passages run)
    (hOn : R (d.hold run).2 u) (hAway : ¬R u (d.hold run).2) : Starts x run s code t := by
  classical
  -- another way to run code leads to that state, if it comes to the passage
  let other : κ → EStateM Error σ Unit := fun c v =>
    if (c, v) = (code, t) then .error .transactionClosed u else run c v
  have hElse : ∀ c v, (c, v) ≠ (code, t) → other c v = run c v := fun c v hElse => if_neg hElse
  have hThere : other code t = .error .transactionClosed u := if_pos rfl
  refine ⟨other, hElse, fun hSame => hAway ?_⟩
  have hEnd : d.hold other = d.hold run := by rw [← hHold, ← hHold, ends, ends, hSame]
  have hToEnd : R t (d.hold run).2 := by
    obtain ⟨before, after, hParts⟩ := List.append_of_mem hMem
    obtain ⟨d', hRest, -, hSameEnd⟩ := h.behind hParts
    rw [← hSameEnd]
    exact Trans.trans (hRun code t) (hRest.holds hRun fun _ _ hTo hOn => Trans.trans hTo hOn)
  have hOther : ∀ c v, R v (ends (other c) v).2 := by
    intro c v
    by_cases hHere : (c, v) = (code, t)
    · obtain ⟨rfl, rfl⟩ := Prod.mk.inj hHere
      rw [ends_of_error hThere]
      exact Trans.trans hToEnd hOn
    · rw [ends, hElse c v hHere]
      exact hRun c v
  have hFrom := h.elsewhere hOther hElse hMem
  rwa [ends_of_error hThere, hEnd] at hFrom

end Started

end Dialogue

/-! ## Computations that converse -/

/-- **From a state, a computation has a dialogue**: one that comes out as the computation does, by
every way to run code. By itself the computation gets to where `F` holds, and from then on it leads
onward. -/
def ConversesFrom (R : σ → σ → Prop) (F : σ → Prop)
    (x : (κ → EStateM Error σ Unit) → EStateM Error σ α) (s : σ) : Prop :=
  ∃ d : Dialogue κ σ α, (∀ run, ends (x run) s = d.hold run) ∧ d.Leads R F

/-- **A computation converses** if it has dialogues from all states, and by itself leads onward from
there. -/
def Converses (R : σ → σ → Prop) (x : (κ → EStateM Error σ Unit) → EStateM Error σ α) : Prop :=
  ∀ s, ConversesFrom R (R s) x s

section Rules

variable {x : (κ → EStateM Error σ Unit) → EStateM Error σ α}
  {f : α → (κ → EStateM Error σ Unit) → EStateM Error σ β}

/-- What runs no code has nothing to converse with. -/
theorem converses_of_leads {y : EStateM Error σ α} (h : WorldForge.Leads R (fun _ _ => False) y) :
    Converses R fun _ : κ → EStateM Error σ Unit => y :=
  fun s => ⟨.done (ends y s).1 (ends y s).2, fun _ => rfl, (h s).1⟩

/-- A computation that makes nothing of the way to run code. -/
theorem converses_of_indifferent (hSame : ∀ run run', x run = x run')
    (h : ∀ run, WorldForge.Leads R (fun _ _ => False) (x run)) : Converses R x := by
  intro s
  let run₀ : κ → EStateM Error σ Unit := fun _ => pure ()
  refine ⟨.done (ends (x run₀) s).1 (ends (x run₀) s).2, fun run => ?_, (h run₀ s).1⟩
  rw [hSame run run₀]
  rfl

/-- Code that is run converses: there is nothing in front of it, and nothing behind it. -/
theorem converses_code [Std.Refl R] (code : κ) :
    Converses R fun run : κ → EStateM Error σ Unit => run code :=
  fun s => ⟨.asks code s fun out => .done out.1 out.2, fun _ => rfl, Std.Refl.refl s,
    fun out => Std.Refl.refl out.2⟩

/-- Where a computation gets by itself at first may be described less closely. -/
theorem ConversesFrom.mono (h : ConversesFrom R F x s) (hMono : ∀ s, F s → G s) :
    ConversesFrom R G x s := by
  obtain ⟨d, hHold, hLeads⟩ := h
  exact ⟨d, hHold, hLeads.mono hMono⟩

/-- What comes out as another computation does has its dialogue. -/
theorem ConversesFrom.of_ends {y : (κ → EStateM Error σ Unit) → EStateM Error σ α} {t : σ}
    (h : ConversesFrom R F x s) (hSame : ∀ run, ends (y run) t = ends (x run) s) :
    ConversesFrom R F y t := by
  obtain ⟨d, hHold, hLeads⟩ := h
  exact ⟨d, fun run => (hSame run).trans (hHold run), hLeads⟩

section Onward

-- wherever the computation gets first, it may go onward from there
variable [Std.Refl R] [Trans R R R] (hF : ∀ s t, F s → R s t → F t)
include hF

/-- **A chain converses from a state**, if its first link does so from there and all that may come
next converse. It gets at first to where its first link gets. -/
theorem ConversesFrom.bind (h : ConversesFrom R F x s) (hNext : ∀ a, Converses R (f a)) :
    ConversesFrom R F (fun run => x run >>= fun a => f a run) s := by
  obtain ⟨d, hHold, hLeads⟩ := h
  -- for each answer there is a dialogue that goes on
  choose e hE hELeads using hNext
  refine ⟨d.andThen (.orEnd e), fun run => ?_, hLeads.andThen hF fun res t => ?_⟩
  · rw [ends_bind, Dialogue.hold_andThen, hHold]
    rcases d.hold run with ⟨_ | a, t⟩
    · rfl
    · exact hE a t run
  · cases res with
    | ok a => exact hELeads a t
    | error err => exact Std.Refl.refl t

/-- To attempt a computation is the same dialogue. The error at its end is only turned into a
result. -/
theorem ConversesFrom.attempt (h : ConversesFrom R F x s) :
    ConversesFrom R F (fun run => attempt (x run)) s := by
  obtain ⟨d, hHold, hLeads⟩ := h
  refine ⟨d.andThen fun res t => .done (.ok res) t, fun run => ?_,
    hLeads.andThen hF fun _ t => Std.Refl.refl t⟩
  rw [ends_of_ok (attempt_eq ..), Dialogue.hold_andThen, hHold]
  rfl

end Onward

variable [Std.Refl R] [Trans R R R]

/-- **A chain converses** if its links do. -/
theorem Converses.bind (hx : Converses R x) (hNext : ∀ a, Converses R (f a)) :
    Converses R fun run => x run >>= fun a => f a run :=
  fun s => (hx s).bind (fun _ _ hTo hOn => Trans.trans hTo hOn) hNext

/-- What goes on with the state that it finds is looked at state by state. -/
theorem Converses.get {f : σ → (κ → EStateM Error σ Unit) → EStateM Error σ β}
    (h : ∀ s, Converses R (f s)) : Converses R fun run => get >>= fun s => f s run :=
  .bind (converses_of_leads leads_get) h

theorem Converses.attempt (hx : Converses R x) : Converses R fun run => attempt (x run) :=
  fun s => (hx s).attempt fun _ _ hTo hOn => Trans.trans hTo hOn

omit [Trans R R R] in
/-- What is done with something that may be missing converses, if it does so for everything that may
be there. -/
theorem Converses.optionForM {g : (κ → EStateM Error σ Unit) → β → EStateM Error σ Unit}
    (h : ∀ b, Converses R fun run => g run b) (o : Option β) :
    Converses R fun run => o.forM (g run) := by
  cases o with
  | none => exact converses_of_leads (leads_pure ())
  | some b => exact h b

/-- A loop over a list converses if its body does, whichever of the list it is at. -/
theorem Converses.forM {g : (κ → EStateM Error σ Unit) → β → EStateM Error σ Unit}
    (h : ∀ b, Converses R fun run => g run b) (l : List β) :
    Converses R fun run => l.forM (g run) := by
  induction l with
  | nil => exact converses_of_leads (leads_pure ())
  | cons b rest ih => exact (h b).bind fun _ => ih

/-- Unwindings whose entries converse do so. A compensation that fails is only reported, so there is
code of later entries to be run whatever comes of the earlier ones. -/
theorem Converses.unwind {g : (κ → EStateM Error σ Unit) → β → EStateM Error σ Unit}
    {report : LogRecord → EStateM Error σ Unit} {text : β → CallText}
    (hReport : ∀ call, WorldForge.Leads R (fun _ _ => False) (report (.compensationFailed call)))
    (h : ∀ b, Converses R fun run => g run b) (journal : List β) :
    Converses R fun run => unwind report text (g run) journal := by
  induction journal with
  | nil => exact converses_of_leads (leads_pure [])
  | cons b older ih =>
    refine (h b).attempt.bind fun outcome => ?_
    -- a compensation that fails is reported, and the rest is performed all the same
    cases outcome with
    | ok _ => exact ih
    | error e =>
      refine (converses_of_leads (hReport _)).bind fun _ => ih.bind fun rest => ?_
      exact converses_of_leads (leads_pure _)

end Rules

/-! ## Ways to run code that are alike -/

section Ways

variable {x : (κ → EStateM Error σ Unit) → EStateM Error σ α}

/-- By two ways to run code that are alike, a dialogue that leads onward comes out the same, unless
it goes through a passage at which they differ. -/
theorem Dialogue.Leads.alike [Trans R R R] {d : Dialogue κ σ α} (h : d.Leads R (R s))
    (hRun : ∀ code, Alike R B (run code) (run' code)) :
    R s (d.hold run).2 ∧ (d.hold run' = d.hold run ∨ Through R B s (d.hold run).2) := by
  induction d generalizing s with
  | done res t => exact ⟨h, .inl rfl⟩
  | asks code t next ih =>
    obtain ⟨hCode, hSame⟩ := hRun code t
    obtain ⟨hRest, hSameRest⟩ := ih (ends (run code) t) (h.2 _)
    have hTo : R s (ends (run code) t).2 := Trans.trans h.1 hCode
    refine ⟨Trans.trans hTo hRest, ?_⟩
    -- as soon as the two differ, both have come through the bound
    rcases hSame with hSame | hThrough
    · have hEnds : ends (run' code) t = ends (run code) t := by rw [ends, ends, hSame]
      show (next (ends (run' code) t)).hold run' = _ ∨ _
      rw [hEnds]
      exact hSameRest.imp_right fun hThrough => hThrough.before hTo
    · exact .inr ((hThrough.before h.1).after hRest)

/-- **What converses is alike** for ways to run code that are alike. -/
theorem Converses.alike [Trans R R R] (h : Converses R x)
    (hRun : ∀ code, Alike R B (run code) (run' code)) : Alike R B (x run) (x run') := by
  intro s
  obtain ⟨d, hHold, hLeads⟩ := h s
  rw [hHold run]
  refine (hLeads.alike hRun).imp_right fun hSame => hSame.imp_left fun hSame => ends_inj ?_
  rw [hHold, hHold, hSame]

end Ways

end WorldForge

import WorldForge.Proofs.Scenario.Dialogues

/-!
# Walks through a session

A walk starts in some realm and comes through everything that happens from then on, in the order in
which it happens: through steps, into the code that they run, and out of it again. On the way it
lists the deeds as they begin. The deeds of a step come before those in the code that runs inside
it, and these come in the order in which the code is run.

Main results:

* `Step.mem_passages_iff`, `Step.passages_pairwise`, `Step.starts_of_before` — the path of a step:
  it holds the code that the step starts, one after the other, and what is in front decides what is
  next;
* `Walk.explained` — where a walk has come, its deeds explain all budgets and configurations;
* `exists_walk_of_after` — every realm that comes after another one is reached by a walk;
* `Walk.exists_past` — a walk can go on with any step.
-/

namespace WorldForge.Scenario

open Realm (Explained Still)

/-! ## The path of a step -/

/-- The dialogue of a step that is taken in a realm. -/
noncomputable def Step.dialogue (s : Step) (r : Realm Code) : Dialogue Code (Realm Code) Unit :=
  (conversesFrom_step s r).choose

/-- **A step comes out as its dialogue is held**, by every way to run code. -/
theorem Step.ends_eq_hold (s : Step) (r : Realm Code) (run : Code → Act Code Unit) :
    ends (s.run run) r = (s.dialogue r).hold run :=
  (conversesFrom_step s r).choose_spec.1 run

/-- By itself, a step does its own deeds and no others. From then on, whatever it does between the
code that it starts is still. -/
theorem Step.leads_dialogue (s : Step) (r : Realm Code) :
    (s.dialogue r).Leads Still (Explained (s.deeds r) r) :=
  (conversesFrom_step s r).choose_spec.2

/-- **The code that a step runs**, in order, with the realms in which it begins. It does not matter
which dialogue of the step has been chosen: the passages are the code that the step starts
(`Step.mem_passages_iff`), and they come in the order in which it is started
(`Step.passages_pairwise`). -/
noncomputable def Step.passages (s : Step) (depth : Nat) (r : Realm Code) :
    List (Code × Realm Code) :=
  (s.dialogue r).passages (runCode depth)

/-! ## Walks -/

/-- **A walk** from a realm to another one: a way through a session, along the steps that are taken
and into the code that they run, with the deeds that begin on the way. The passages of a step are
the occasions on which it runs code, in their order: the code in the reaction of a sink, in a
compensation or in the body of a block, with the realm in which it begins. That they are exactly the
code that the step starts is `Step.mem_passages_iff`, that each begins after the one in front of it
is over is `Step.passages_pairwise`, and that what comes next depends on nothing but what is in
front is `Step.starts_of_before`. -/
inductive Walk (r₀ : Realm Code) : List (Deed × Realm Code) → Realm Code → Prop
  | here : Walk r₀ [] r₀
  /-- A step that runs no code. -/
  | past {r : Realm Code} {hs : List (Deed × Realm Code)} {depth : Nat} {s : Step}
      (h : Walk r₀ hs r) (hAlone : s.passages depth r = []) :
      Walk r₀ (hs ++ s.deeds r) (ends (s.run (runCode depth)) r).2
  /-- A step comes to the first code that it runs. -/
  | into {r : Realm Code} {hs : List (Deed × Realm Code)} {depth : Nat} {s : Step}
      {p : Code × Realm Code} {after : List (Code × Realm Code)}
      (h : Walk r₀ hs r) (hFirst : s.passages depth r = p :: after) :
      Walk r₀ (hs ++ s.deeds r) p.2
  /-- When code is over, the step comes to the next code that it runs. -/
  | on {r : Realm Code} {hs : List (Deed × Realm Code)} {depth : Nat} {s : Step}
      {p q : Code × Realm Code} {before after : List (Code × Realm Code)}
      (h : Walk r₀ hs (ends (runCode depth p.1) p.2).2)
      (hNext : s.passages depth r = before ++ p :: q :: after) : Walk r₀ hs q.2
  /-- When the last code is over, the step goes on to its end. -/
  | back {r : Realm Code} {hs : List (Deed × Realm Code)} {depth : Nat} {s : Step}
      {p : Code × Realm Code} {before : List (Code × Realm Code)}
      (h : Walk r₀ hs (ends (runCode depth p.1) p.2).2)
      (hLast : s.passages depth r = before ++ [p]) :
      Walk r₀ hs (ends (s.run (runCode depth)) r).2

variable {r₀ r r₁ r' : Realm Code} {hs hs' : List (Deed × Realm Code)} {depth : Nat} {s : Step}
  {code : Code} {p q : Code × Realm Code} {before after : List (Code × Realm Code)}

/-- Walks in a row are a walk, with the deeds of the first and then those of the second. -/
theorem Walk.trans (h : Walk r₀ hs r) (h' : Walk r hs' r') : Walk r₀ (hs ++ hs') r' := by
  induction h' with
  | here => rwa [List.append_nil]
  | past _ hAlone ih =>
    rw [← List.append_assoc]
    exact .past ih hAlone
  | into _ hFirst ih =>
    rw [← List.append_assoc]
    exact .into ih hFirst
  | on _ hNext ih => exact .on ih hNext
  | back _ hLast ih => exact .back ih hLast

/-- **What holds all the way** of a walk: it is kept where there are no deeds, and by the deeds of
each step. -/
theorem Walk.holds {V : List (Deed × Realm Code) → Realm Code → Prop} (h : Walk r₀ hs r)
    (hStill : ∀ hs r t, Still r t → V hs r → V hs t)
    (hDeeds : ∀ hs (s : Step) r t, Explained (s.deeds r) r t → V hs r → V (hs ++ s.deeds r) t)
    (hStart : V [] r₀) : V hs r := by
  induction h with
  | here => exact hStart
  | past _ hAlone ih =>
    rw [Step.ends_eq_hold]
    exact hDeeds _ _ _ _ ((Step.leads_dialogue _ _).alone hAlone) ih
  | into _ hFirst ih => exact hDeeds _ _ _ _ ((Step.leads_dialogue _ _).first hFirst) ih
  | on _ hNext ih => exact hStill _ _ _ ((Step.leads_dialogue _ _).next hNext) ih
  | back _ hLast ih =>
    rw [Step.ends_eq_hold]
    exact hStill _ _ _ ((Step.leads_dialogue _ _).last hLast) ih

/-- **Where a walk has come, its deeds explain all budgets and configurations.** -/
theorem Walk.explained (h : Walk r₀ hs r) : Explained hs r₀ r :=
  h.holds (V := fun hs r => Explained hs r₀ r) (fun _ _ _ hStill hHere => hHere.still hStill)
    (fun _ _ _ _ hDone hHere => hHere.trans hDone) (Realm.still_refl r₀)

/-- A deed begins where the walk has come by the deeds before it. -/
theorem Walk.to_deed {d : Deed × Realm Code} {earlier later : List (Deed × Realm Code)}
    (h : Walk r₀ hs r) (hParts : hs = earlier ++ d :: later) : Walk r₀ earlier d.2 := by
  have hStep : ∀ {hs r} {s : Step} {later : List (Deed × Realm Code)}, Walk r₀ hs r →
      (∀ later, hs = earlier ++ d :: later → Walk r₀ earlier d.2) →
      hs ++ s.deeds r = earlier ++ d :: later → Walk r₀ earlier d.2 := by
    intro hs r s later h hOld hParts
    rcases s.deeds_cases r with hNone | ⟨d', hOne⟩
    · rw [hNone, List.append_nil] at hParts
      exact hOld later hParts
    rw [hOne] at hParts
    rcases later.eq_nil_or_concat with rfl | ⟨rest, last, rfl⟩
    -- the deed is that of the step itself
    · obtain ⟨rfl, hSame⟩ := List.append_inj' hParts rfl
      rwa [← (List.cons.inj hSame).1]
    · rw [List.concat_eq_append, ← List.cons_append, ← List.append_assoc] at hParts
      exact hOld rest (List.append_inj' hParts rfl).1
  induction h generalizing later with
  | here => simp at hParts
  | past h _ ih => exact hStep h (fun _ => ih) hParts
  | into h _ ih => exact hStep h (fun _ => ih) hParts
  | on _ _ ih => exact ih hParts
  | back _ _ ih => exact ih hParts

/-! ## Everything is walked through -/

section Through

-- the code at this depth is walked through
variable (hCode : ∀ {hs r} (code : Code), Walk r₀ hs r →
  ∃ hs', Walk r₀ hs' (ends (runCode depth code) r).2)
include hCode

/-- When some code of a step is over, a walk comes to all that the step runs then, and to its end.
-/
theorem Walk.behind (h : Walk r₀ hs (ends (runCode depth p.1) p.2).2)
    (hParts : s.passages depth r = before ++ p :: after) :
    (∀ q ∈ after, ∃ hs', Walk r₀ hs' q.2) ∧
      ∃ hs', Walk r₀ hs' (ends (s.run (runCode depth)) r).2 := by
  -- the induction is along the code that is still to be run in this step
  induction after generalizing before p hs with
  | nil => exact ⟨fun q hMem => (List.not_mem_nil hMem).elim, hs, h.back hParts⟩
  | cons q after ih =>
    have hThere : Walk r₀ hs q.2 := h.on hParts
    obtain ⟨hs', hOver⟩ := hCode q.1 hThere
    have hRest : s.passages depth r = (before ++ [p]) ++ q :: after := by
      rw [hParts, List.append_assoc]
      rfl
    obtain ⟨hLater, hEnd⟩ := ih hOver hRest
    refine ⟨fun q' hMem => ?_, hEnd⟩
    rcases List.mem_cons.1 hMem with rfl | hMem
    · exact ⟨hs, hThere⟩
    · exact hLater q' hMem

/-- **A step is walked through**: a walk comes to all the code that it runs, and to its end. -/
theorem Walk.step (h : Walk r₀ hs r) (s : Step) :
    (∀ p ∈ s.passages depth r, ∃ hs', Walk r₀ hs' p.2) ∧
      ∃ hs', Walk r₀ hs' (ends (s.run (runCode depth)) r).2 := by
  -- a step that runs no code is passed at once, and any other is entered with the first code
  cases hParts : s.passages depth r with
  | nil => exact ⟨fun p hMem => (List.not_mem_nil hMem).elim, _, h.past hParts⟩
  | cons p after =>
    have hThere := h.into hParts
    obtain ⟨hs', hOver⟩ := hCode p.1 hThere
    have hFirst : s.passages depth r = [] ++ p :: after := hParts
    obtain ⟨hLater, hEnd⟩ := Walk.behind hCode hOver hFirst
    refine ⟨fun q hMem => ?_, hEnd⟩
    rcases List.mem_cons.1 hMem with rfl | hMem
    · exact ⟨_, hThere⟩
    · exact hLater q hMem

end Through

/-- **All code is walked through**: from where code begins there is a walk to where it ends, which
enters the code of each step and comes back from it. -/
theorem Walk.through (depth : Nat) (code : Code) (h : Walk r₀ hs r) :
    ∃ hs', Walk r₀ hs' (ends (runCode depth code) r).2 := by
  induction depth generalizing hs r code with
  | zero => exact ⟨hs, h⟩
  | succ depth ihDepth =>
    induction code generalizing hs r with
    | nil => exact ⟨hs, h⟩
    | cons s rest ih =>
      obtain ⟨-, hs', hStep⟩ := h.step ihDepth s
      have hRun : runCode (depth + 1) (s :: rest) =
          s.run (runCode depth) >>= fun _ => runCode (depth + 1) rest := rfl
      rw [hRun, ends_bind]
      rcases hEnds : ends (s.run (runCode depth)) r with ⟨_ | _, r₂⟩
      -- an error ends the code there
      · rw [hEnds] at hStep
        exact ⟨hs', hStep⟩
      · rw [hEnds] at hStep
        exact ih hStep

/-- From one realm to another the trace grows. -/
def Grows (r t : Realm Code) : Prop := r.trace <+: t.trace

instance : Trans Grows Grows Grows := ⟨fun h h' => List.IsPrefix.trans h h'⟩

/-- All code makes the trace grow. -/
theorem trace_runCode (depth : Nat) (code : Code) (r : Realm Code) :
    Grows r (ends (runCode depth code) r).2 := by
  obtain ⟨hs, hWalk⟩ := Walk.here.through depth code
  exact hWalk.explained.trace

/-! ## What is on the path of a step -/

/-- By itself, a step makes the trace grow. -/
theorem Step.grows_dialogue (s : Step) (r : Realm Code) :
    (s.dialogue r).Leads Grows (Explained (s.deeds r) r) :=
  (s.leads_dialogue r).weaken fun _ _ hStill => hStill.trace

/-- A step starts what its dialogue comes to, by every way to run code that makes the trace grow. -/
theorem Step.starts_of_mem {run : Code → Act Code Unit}
    (hRun : ∀ code t, Grows t (ends (run code) t).2)
    (hMem : (code, r₁) ∈ (s.dialogue r).passages run) :
    Starts (fun run => s.run run) run r code r₁ := by
  -- if the code left one entry more behind, this would be seen at the end
  let last := ((s.dialogue r).hold run).2
  refine Dialogue.starts_of_mem_passages (u := last.appendTrace [.step "" (.skipped "")])
    (s.ends_eq_hold r) (s.grows_dialogue r) hRun hMem (List.prefix_append _ _) fun hBack => ?_
  have hLength : (last.trace ++ [Entry.step "" (.skipped "")]).length ≤ last.trace.length :=
    List.IsPrefix.length_le hBack
  rw [List.length_append] at hLength
  exact Nat.not_succ_le_self _ hLength

/-- **The code on the path of a step is the code that the step starts.** -/
theorem Step.mem_passages_iff :
    (code, r₁) ∈ s.passages depth r ↔ Starts (fun run => s.run run) (runCode depth) r code r₁ :=
  ⟨Step.starts_of_mem (trace_runCode depth), Dialogue.mem_passages_of_starts (s.ends_eq_hold r)⟩

/-- **The path of a step is in order**: when code begins, the code in front of it is over, with all
that it has left in the trace. -/
theorem Step.passages_pairwise (s : Step) (depth : Nat) (r : Realm Code) :
    (s.passages depth r).Pairwise fun p q => Grows (ends (runCode depth p.1) p.2).2 q.2 :=
  (s.grows_dialogue r).pairwise (trace_runCode depth)

/-- **What comes next on the path is decided by what is in front of it**: a step starts the same
code there by every way to run code that does the same up to there. -/
theorem Step.starts_of_before {run : Code → Act Code Unit}
    (hParts : s.passages depth r = before ++ p :: after)
    (hRun : ∀ code t, Grows t (ends (run code) t).2)
    (hSame : ∀ q ∈ before, run q.1 q.2 = runCode depth q.1 q.2) :
    Starts (fun run => s.run run) run r p.1 p.2 := by
  obtain ⟨after', hThere⟩ := Dialogue.exists_passages_of_before hParts hSame
  refine Step.starts_of_mem hRun ?_
  rw [hThere]
  exact List.mem_append_right _ List.mem_cons_self

/-- **Every realm that comes after another one is reached by a walk.** -/
theorem exists_walk_of_after (h : After r₀ r) : ∃ hs, Walk r₀ hs r := by
  -- every way on is a part of some step, and each step has a walk through it
  induction h with
  | here => exact ⟨[], .here⟩
  | step _ depth s ih =>
    obtain ⟨hs, hWalk⟩ := ih
    exact (hWalk.step (Walk.through depth) s).2
  | inside _ hStarts ih =>
    obtain ⟨hs, hWalk⟩ := ih
    exact (hWalk.step (Walk.through _) _).1 _ (Step.mem_passages_iff.2 hStarts)
  | back hStarts _ ih =>
    obtain ⟨hs, hWalk⟩ := ih
    obtain ⟨before, after, hParts⟩ := List.append_of_mem (Step.mem_passages_iff.2 hStarts)
    exact (hWalk.behind (p := (_, _)) (Walk.through _) hParts).2

/-- **A walk can go on with any step**, and comes to its end: first with the deed of the step, and
then with whatever is done by the code that the step runs. -/
theorem Walk.exists_past (h : Walk r₀ hs r) (depth : Nat) (s : Step) :
    ∃ hs', Walk r₀ (hs ++ s.deeds r ++ hs') (ends (s.run (runCode depth)) r).2 := by
  cases hParts : s.passages depth r with
  | nil =>
    refine ⟨[], ?_⟩
    rw [List.append_nil]
    exact h.past hParts
  | cons p after =>
    have hMem : p ∈ s.passages depth r := by
      rw [hParts]
      exact List.mem_cons_self
    -- where code is run, the end of the step is after the end of the first code
    have hEnd := After.back (Step.mem_passages_iff.1 hMem) (After.here.code depth p.1)
    obtain ⟨hs', hRest⟩ := exists_walk_of_after hEnd
    exact ⟨hs', (h.into hParts).trans hRest⟩

end WorldForge.Scenario

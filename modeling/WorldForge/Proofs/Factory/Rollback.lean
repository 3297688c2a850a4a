import WorldForge.Proofs.Factory.Operation

/-!
# What a failed operation leaves

An operation of a factory that fails has run every entry of its journal. If no fault waits for the
calls that undo, all of them succeed, and then the operation has left no trace but for the number
of a handle and what it paid (`Restored`). Otherwise each entry that failed leaves its own effect
behind and nothing else (`Residue`), and what it raised is among the failures that are reported.

Main results:

* `failed_operation_restores` — an operation that fails leaves everything as it was;
* `failed_compensations_leave_residue` — where undoing fails, this is reported in full, and what was
  to be undone is all that stays.
-/

namespace WorldForge

variable {κ : Type}

/-! ## What is left -/

/-- What factories work with is as it was before: catalogs, configurations and ledgers, and of the
ledger that was worked on the handles alive, the templates and the worlds. At most one handle was
given out there. It is dead, and nothing is registered in its world. -/
structure Realm.Restored (r : Realm κ) (j : Nat) (r' : Realm κ) : Prop where
  others : r.SameBut j r'
  alive : (r'.ledger j).ledger.allocator.alive = (r.ledger j).ledger.allocator.alive
  templates : (r'.ledger j).ledger.templates = (r.ledger j).ledger.templates
  worlds : (r'.ledger j).ledger.worlds = (r.ledger j).ledger.worlds
  dead : (r'.ledger j).ledger.isAlive (.handle (r.ledger j).ledger.allocator.fresh) = false
  rest : (r'.ledger j).ledger = (r.ledger j).ledger ∨
    ∃ t name executor, (r'.ledger j).ledger =
      (r.ledger j).ledger.discarding
        (.bare (r.ledger j).ledger.allocator.fresh t name executor)

/-- A ledger `l'` differs from `l` in what the undoings `left`, newest first, had to undo among
those of a journal: a world is there if its destruction is among them, and the parts whose
deregistration is among them are registered, after those that had been there. -/
structure Ledger.Residue (c : Catalog) (l : Ledger) (journal left : List Undo) (l' : Ledger) :
    Prop where
  alive : l'.isAlive (.handle l.allocator.fresh) = true ↔ .destroy l.allocator.fresh ∈ left
  /-- The world that was made has no other parts, whether it has been destroyed or not. -/
  made : ∀ h, .destroy h ∈ journal → h = l.allocator.fresh ∧
    ∃ t name executor w', l'.world? h = some w' ∧
      (World.bare h t name executor).Extends c (Undo.partsIn h left.reverse) w'
  live : ∀ (x : InstanceHandle) w, l.worlds.find? x.key = some w →
    ∃ w', l'.worlds.find? x.key = some w' ∧ w.Extends c (Undo.partsIn x left.reverse) w'
  rest : ∃ new?, Undo.Standing c l new? left.reverse l'

variable {run : κ → Act κ Unit} {i j : Nat} {o : Operation} {recipe : Recipe} {r r' r₂ : Realm κ}
  {handed : List InstanceHandle} {e : Error} {c : Catalog} {l l' : Ledger} {new? : Option World}
  {b b' : Workbench} {trigger : Error} {journal left : List Undo}

/-- Nothing stands where nothing was left to undo. -/
theorem restored_of_standing (hs : Ledger.Sound c (r.ledger j).ledger handed)
    (h : Undo.Standing c (r.ledger j).ledger new? [] (r'.ledger j).ledger)
    (hOthers : r.SameBut j r') : r.Restored j r' := by
  -- with nothing left to undo, either nothing was made, or a world that is dead again
  have hDead := h.isAlive_fresh_iff hs
  rw [← Bool.not_eq_false, ← not_iff_not, not_not] at hDead
  have hRest : (r'.ledger j).ledger = (r.ledger j).ledger ∨
      ∃ t name executor, (r'.ledger j).ledger =
        (r.ledger j).ledger.discarding
          (.bare (r.ledger j).ledger.allocator.fresh t name executor) := by
    cases new? with
    | none => exact .inl h.eq_of_none
    | some w =>
      obtain ⟨⟨t, name, executor, rfl⟩, -⟩ := h.new hs
      exact .inr ⟨t, name, executor, h.eq_of_some.2⟩
  obtain ⟨hAlive, hTemplates, hWorlds⟩ :
      (r'.ledger j).ledger.allocator.alive = (r.ledger j).ledger.allocator.alive ∧
        (r'.ledger j).ledger.templates = (r.ledger j).ledger.templates ∧
        (r'.ledger j).ledger.worlds = (r.ledger j).ledger.worlds := by
    rcases hRest with hSame | ⟨t, name, executor, hSame⟩
    · rw [hSame]
      exact ⟨rfl, rfl, rfl⟩
    · rw [hSame, Ledger.discarding]
      exact ⟨rfl, rfl, rfl⟩
  exact ⟨hOthers, hAlive, hTemplates, hWorlds, hDead.2 (by simp), hRest⟩

/-- What stands after an unwinding is the residue of the entries that failed. -/
theorem residue_of_standing {l₁ : Ledger} (hs : Ledger.Sound c l handed)
    (hBefore : Undo.Standing c l new? journal.reverse l₁)
    (h : Undo.Standing c l new? left.reverse l') : l.Residue c journal left l' where
  alive := by
    rw [h.isAlive_fresh_iff hs, List.mem_reverse]
  made := by
    intro x hMem
    -- only a new world has an entry by which it is destroyed
    obtain ⟨rfl, v, rfl⟩ := hBefore.new_of_mem (List.mem_reverse.2 hMem)
    obtain ⟨⟨t, name, executor, rfl⟩, w', hWorld, hExtends⟩ := h.new hs
    exact ⟨rfl, t, name, executor, w', hWorld, hExtends⟩
  live x w hFind := h.live hs hFind
  rest := ⟨new?, h⟩

/-! ## Errors -/

namespace Operation

/-- The errors of an operation's work on the ledger. -/
def WorkFails (recipe : Recipe) (c : Catalog) : Operation → Error → Prop
  | spawn name _ _ _, e => Work.MakeFails c recipe name e
  | request (.request name _ _) _, e => Work.MakeFails c recipe name e
  | request given _, e => e = .lacking given "name" ∨
    ∃ name, given.name? = some name ∧
      (Work.MakeFails c recipe name e ∨ e = .lacking given "component_ids")
  | deploy name, e => Work.MakeFails c recipe name e
  | registerAll world _ _ _, e => Work.RegisterFails c world e

/-- How the work for something that is no request fails: for the name, in the deployment, or because
it does not tell its parts. -/
theorem workFails_of_misrequest {given : Value} (h : misrequest recipe c given b = .error e b') :
    e = .lacking given "name" ∨ ∃ name, given.name? = some name ∧
      (Work.MakeFails c recipe name e ∨ e = .lacking given "component_ids") := by
  rw [misrequest] at h
  cases hName : given.name? with
  | none =>
    rw [hName] at h
    cases h
    exact .inl rfl
  | some name =>
    rw [hName] at h
    change (Work.deployWorld c recipe name >>= fun _ => throw _) b = _ at h
    rcases bind_eq_error_iff.1 h with hDeploy | ⟨_, b₁, -, hEnd⟩
    · exact .inr ⟨name, rfl, .inl (Work.makeFails_deployWorld hDeploy)⟩
    · cases hEnd
      exact .inr ⟨name, rfl, .inr rfl⟩

/-- **Work that fails does so in one of its ways**, which the operation determines: in the
deployment, in the look-up of the world, or in a registration. -/
theorem workFails_of_work (h : o.work recipe c b = .error e b') : o.WorkFails recipe c e := by
  cases o with
  | spawn name components systems budget => exact Work.makeFails_makeWorld h
  | deploy name => exact Work.makeFails_deployWorld h
  | registerAll world components systems budget => exact Work.registerFails_registerParts h
  | request given budget =>
    cases given with
    | request name components systems => exact Work.makeFails_makeWorld h
    | _ => exact workFails_of_misrequest h

/-- What triggers a failure is an error of the work, or what the sink has raised. -/
theorem Failing.trigger_cases (h : Failing run i j recipe o r b trigger r₂) :
    o.WorkFails recipe (r.catalogFor j) trigger ∨
      ∃ a rTold rThen, Sink.deliver run (r.factory i).sink (o.events a) rTold =
        .error trigger rThen := by
  obtain ⟨-, hWork, -, -, -, hTriggered⟩ := h
  cases hTriggered with
  | work => exact .inl (workFails_of_work (eq_error_of_ends hWork))
  | delivery hTold => exact .inr ⟨_, _, _, hTold⟩

/-! ## Undoing that succeeds, and undoing that does not -/

/-- **A failed operation leaves everything as it was**, if no fault waits for the calls that undo.
The error that it raises is the one that made it fail: no failure of a rollback hides it. Steps that
were paid stay paid, and the trace has grown. -/
theorem failed_operation_restores (hLedger : (r.factory i).ledger = .object .ledger j)
    (hRecipe : (r.factory i).configuration = .holding recipe)
    (hReached : Ledger.Reached (r.catalogFor j) (r.ledger j).ledger handed)
    (hBudget : o.budget = .null ∨ ∃ k, o.budget = .object .budget k)
    (hSink : Sink.Discreet run (r.factory i).sink r)
    (hDestroy : Fault.Spare (r.ledger j).faults .destroy)
    (hDeregister : ∀ k, Fault.Spare (r.ledger j).faults (.deregister k))
    (h : o.act run i r = .error e r') :
    r.Restored j r' ∧
      ((∃ e₀, o.purse (r.factory i) r = .error (.budget e₀) r ∧ e = .budget e₀ ∧ r' = r) ∨
        ∃ b r₂ s, Failing run i j recipe o r b e r₂ ∧ r' = r₂.closed j s ∧
          (o.WorkFails recipe (r.catalogFor j) e ∨
            ∃ a rTold rThen, Sink.deliver run (r.factory i).sink (o.events a) rTold =
              .error e rThen)) := by
  have hs := hReached.sound
  rcases undone_of_fails hLedger hRecipe hs hBudget hSink h with
    ⟨e₀, hUnpaid, rfl, rfl⟩ | ⟨b, trigger, r₂, new?, os, s, hFailing, hSpare, -, rfl, -, hLeft,
      hError, hEnd, hOthers⟩
  · have hStill : Undo.Standing (r'.catalogFor j) (r'.ledger j).ledger none []
        (r'.ledger j).ledger := .idle
    exact ⟨restored_of_standing hs hStill ⟨rfl, rfl, rfl, fun m _ => rfl⟩,
      .inl ⟨e₀, hUnpaid, rfl, rfl⟩⟩
  -- no entry of the journal is struck, so none is left and none has raised anything
  · have hSpared : ∀ call ∈ b.journal.map Undo.call, Fault.Spare b.site.faults call := by
      intro call hCall
      obtain ⟨u, -, rfl⟩ := List.mem_map.1 hCall
      cases u with
      | destroy x => exact hSpare hDestroy
      | deregister x k t => exact hSpare (hDeregister k)
    have hDone := Fault.meetAll_of_spared hSpared
    rw [leftover_eq_nil hDone, List.reverse_nil] at hLeft
    rw [raised_eq_nil_iff.2 hDone, afterRollback_nil] at hError
    obtain rfl := hError
    have hNothing : Undo.Standing (r.catalogFor j) (r.ledger j).ledger new? []
        (r'.ledger j).ledger := by
      rw [hEnd, Realm.ledger_closed]
      exact hLeft
    exact ⟨restored_of_standing hs hNothing hOthers,
      .inr ⟨b, r₂, s, hFailing, hEnd, hFailing.trigger_cases⟩⟩

/-- A spawn of which the sink does not take notice. -/
theorem failed_operation_restores_arena :
    ∃ e r', Arena.spawn.act Empty.elim 4 (Arena.realm [] Arena.deaf 5) = .error e r' ∧
      (Arena.realm [] Arena.deaf 5).Restored 1 r' := by
  have hFails : (ends (Arena.spawn.act Empty.elim 4) (Arena.realm [] Arena.deaf 5)).1.isOk =
      false := by decide +kernel
  obtain ⟨e, r', h⟩ := exists_error_of_ends hFails
  have hReached : Ledger.Reached ((Arena.realm [] Arena.deaf 5).catalogFor 1)
      ((Arena.realm [] Arena.deaf 5).ledger 1).ledger [Arena.executor] := Arena.reached_ledger
  have hSpare : ∀ call, Fault.Spare ((Arena.realm [] Arena.deaf 5).ledger 1).faults call := by
    intro call f hMem
    cases hMem
  have hRecipe : ((Arena.realm [] Arena.deaf 5).factory 4).configuration =
      .holding Arena.recipe := rfl
  have hRestored := failed_operation_restores rfl hRecipe hReached
    (.inr ⟨3, rfl⟩) (Arena.discreet _ _ _) (hSpare .destroy) (fun k => hSpare (.deregister k)) h
  exact ⟨e, r', h, hRestored.1⟩

/-- **Failed compensations are all reported, and leave exactly their own residue.** Every entry of
the journal is run once, the newest first, whatever the others do. If some of them raise errors,
these are the failures that are reported, in the order in which they were raised, and their cause is
what made the operation fail. -/
theorem failed_compensations_leave_residue (hLedger : (r.factory i).ledger = .object .ledger j)
    (hRecipe : (r.factory i).configuration = .holding recipe)
    (hReached : Ledger.Reached (r.catalogFor j) (r.ledger j).ledger handed)
    (hBudget : o.budget = .null ∨ ∃ k, o.budget = .object .budget k)
    (hSink : Sink.Discreet run (r.factory i).sink r) (h : o.act run i r = .error e r') :
    (∃ e₀, o.purse (r.factory i) r = .error (.budget e₀) r ∧ e = .budget e₀ ∧ r' = r) ∨
      ∃ b trigger r₂ os s, Failing run i j recipe o r b trigger r₂ ∧
        Unwound Site.report Undo.text Undo.run (.opened b.site.ledger b.site.faults) b.journal
          os s ∧
        os = (Fault.meetAll (b.journal.map Undo.call) b.site.faults).1 ∧
        (raised os = [] → e = trigger) ∧
        (raised os ≠ [] → e = .rollbackFailed (raised os) (some trigger)) ∧
        (r.ledger j).ledger.Residue (r.catalogFor j) b.journal (leftover b.journal os)
          (r'.ledger j).ledger ∧
        r' = r₂.closed j s ∧ r.SameBut j r' := by
  have hs := hReached.sound
  -- an operation that fails has not started, or has undone what it had done
  rcases undone_of_fails hLedger hRecipe hs hBudget hSink h with
    hUnpaid | ⟨b, trigger, r₂, new?, os, s, hFailing, -, hBefore, hOutcomes, hUnwound, hLeft,
      hError, hEnd, hOthers⟩
  · exact .inl hUnpaid
  · refine .inr ⟨b, trigger, r₂, os, s, hFailing, hUnwound, hOutcomes, ?_, ?_, ?_, hEnd, hOthers⟩
    · intro hNone
      rw [hError, hNone, afterRollback_nil]
    · intro hSome
      rw [hError, afterRollback_of_ne_nil _ hSome]
    · rw [hEnd, Realm.ledger_closed]
      exact residue_of_standing hs hBefore hLeft

/-- A spawn of which the sink does not take notice, on a ledger where the new world cannot be
destroyed and the first component to go stays. -/
theorem failed_compensations_leave_residue_arena :
    let r := Arena.realm [.always .destroy (.raised .ledger "stuck"),
      ⟨.deregister .component, .badState, "busy", 0, some 1, 0⟩] Arena.deaf 5
    ∃ e r' b trigger r₂ os s, Arena.spawn.act Empty.elim 4 r = .error e r' ∧
      Failing Empty.elim 4 1 Arena.recipe Arena.spawn r b trigger r₂ ∧
      Unwound Site.report Undo.text Undo.run (.opened b.site.ledger b.site.faults) b.journal
        os s ∧
      (raised os ≠ [] → e = .rollbackFailed (raised os) (some trigger)) ∧
      Arena.ledger.Residue Arena.catalog b.journal (leftover b.journal os)
        (r'.ledger 1).ledger := by
  intro r
  have hFails : (ends (Arena.spawn.act Empty.elim 4) r).1.isOk = false := by decide +kernel
  obtain ⟨e, r', h⟩ := exists_error_of_ends hFails
  have hReached : Ledger.Reached (r.catalogFor 1) (r.ledger 1).ledger [Arena.executor] :=
    Arena.reached_ledger
  have hRecipe : (r.factory 4).configuration = .holding Arena.recipe := rfl
  rcases failed_compensations_leave_residue rfl hRecipe hReached
    (.inr ⟨3, rfl⟩) (Arena.discreet _ _ _) h with
    ⟨e₀, hUnpaid, -⟩ | ⟨b, trigger, r₂, os, s, hFailing, hUnwound, -, -, hError, hResidue, -⟩
  -- the budget is there, so the operation has started
  · cases hUnpaid
  · exact ⟨e, r', b, trigger, r₂, os, s, h, hFailing, hUnwound, hError, hResidue⟩

end Operation

end WorldForge

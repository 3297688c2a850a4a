import WorldForge.Proofs.Factory.Confinement
import WorldForge.Proofs.Scenario.Announcements

/-!
# Refused announcements

A sink that is told of a world may do anything in the session before it refuses the announcement: it
may have other worlds made, register parts, change recipes, or destroy instances, the announced one
among them. What is undone after that is the announced world alone. Everything else is left as the
sink has left it.

Main result:

* `refusal_undoes_own_world` — what a refused operation changes from the moment of the refusal on.
-/

namespace WorldForge.Scenario

variable {r r₁ r₂ : Realm Code} {i j c : Nat} {o : Operation} {recipe : Recipe} {a : o.Result}
  {b : Workbench} {x : InstanceHandle} {e : Error}

/-- **A sink leads a session on**: what it leaves is lawful, and the ledgers have gone on, whatever
it does when it is told, and to whatever depth. -/
theorem goesOn_of_tell (hLawful : r₁.Lawful) (hOwn : (r₁.ledger j).catalog = .object .catalog c)
    (hOlder : c < j) {depth : Nat} {sink event : Value}
    (hTold : Sink.tell (runCode depth) sink event r₁ = .error e r₂) :
    r₂.Lawful ∧ r₁.GoesOn j c r₂ := by
  have hEvolves := (Realm.alike_tell (R := Realm.Evolves) (B := fun _ _ => False)
    (onward_runCode depth) sink event r₁).1
  rw [ends_of_error hTold] at hEvolves
  exact (Realm.stable_goesOn r₁ hOlder).holds hEvolves ⟨hLawful, hOwn, .refl _⟩

/-- **A refused operation undoes its own world and nothing else.** From the moment in which the sink
refuses the announcement, every entry of the journal is run once. The realm changes at most in
whether the announced instance is alive and in what is registered in its world, which is the one
that was announced. All other instances stay as they were, and if the announced one was dead by
then, all live ones do. -/
theorem refusal_undoes_own_world (hLater : Later .empty r)
    (hOwn : (r.ledger j).catalog = .object .catalog c) (hOlder : c < j)
    (hLedger : (r.factory i).ledger = .object .ledger j)
    (hBudget : o.budget = .null ∨ ∃ k, o.budget = .object .budget k)
    (hSink : (r.factory i).sink ≠ .null) (hDone : o.Done i j recipe r a b r₁)
    (hMem : x ∈ o.made a) (depth : Nat)
    (hTold : Sink.tell (runCode depth) (r.factory i).sink (.worldCreated x) r₁ = .error e r₂) :
    ∃ os r', o.act (runCode depth) i r = .error (afterRollback (raised os) e) r' ∧
      os.length = b.journal.length ∧ r₂.AgreeBut j x r' ∧
      (∀ y : InstanceHandle, y.key ≠ x.key →
        let l := (r₂.ledger j).ledger
        let l' := (r'.ledger j).ledger
        l'.isAlive (.handle y) = l.isAlive (.handle y) ∧
          l'.templateOf (.handle y) = l.templateOf (.handle y) ∧
          l'.dispatcher (.handle y) = l.dispatcher (.handle y) ∧ l'.world? y = l.world? y) ∧
      ((r₂.ledger j).ledger.isAlive (.handle x) = false →
        let l := (r₂.ledger j).ledger
        let l' := (r'.ledger j).ledger
        l'.allocator = l.allocator ∧ l'.templates = l.templates ∧ l'.worlds = l.worlds) ∧
      ∃ w w', (r₁.ledger j).ledger.dispatcher (.handle x) = .ok w ∧
        (r'.ledger j).ledger.world? x = some w' ∧ w.SameHead w' := by
  have hLawful := lawful_of_later hLater
  obtain ⟨handed, hReached⟩ := hLawful.reached hOwn hOlder
  -- the work has led to the realm in which the sink is told, and the sink to the one it has left
  obtain ⟨hLawful₁, hOn₁⟩ :=
    (Realm.stable_goesOn r hOlder).holds hDone.evolves ⟨hLawful, hOwn, .refl _⟩
  obtain ⟨hLawful₂, hOn₂⟩ := goesOn_of_tell hLawful₁ hOn₁.catalog hOlder hTold
  obtain ⟨handed₁, hReached₁⟩ := hLawful₁.reached hOn₁.catalog hOlder
  obtain ⟨handed₂, hReached₂⟩ := hLawful₂.reached hOn₂.catalog hOlder
  have hMade : o.made a = [x] := Operation.made_eq hMem
  have hDelivered : Sink.deliver (runCode depth) (r.factory i).sink (o.events a) r₁ =
      .error e r₂ := by
    apply eq_error_of_ends
    rw [Operation.events_eq, hMade]
    exact (Sink.ends_deliver _ hSink _ _).trans (ends_of_error hTold)
  obtain ⟨os, s, hUnwound⟩ := Operation.exists_undone r₂ j b.journal
  have hAct := Operation.act_of_refused hLedger hBudget hDone hDelivered hUnwound
  obtain ⟨p, hWork⟩ := hDone.work
  obtain ⟨hAgree, hSound⟩ := Undo.agreeBut_of_unwound (s := r₂.site j) hReached₂.sound
    (Operation.concerns_of_work rfl hWork hMem) hUnwound
  -- the world that was announced is still known when the sink refuses it
  obtain ⟨order, -, hComplete⟩ := Operation.complete_of_done hReached.sound hDone hMem
  obtain ⟨w, hWorld, -⟩ := hComplete.world
  have hKnown : (r₁.scene j).ledger.world? x = some w :=
    Ledger.world?_of_find? (Ledger.dispatcher_eq_ok_iff.1 hWorld)
  obtain ⟨moves, hMoves⟩ := hOn₂.leads
  obtain ⟨w₂, hKnown₂, hHead₂⟩ := Scene.known_after hReached₁.sound.tidy hKnown moves
  rw [hMoves] at hKnown₂
  have hWorlds := hAgree.world
  change Option.Rel _ ((r₂.scene j).ledger.world? x) _ at hWorlds
  rw [hKnown₂] at hWorlds
  obtain ⟨w', hKnown', hHead'⟩ := World.exists_of_rel_left hWorlds
  refine ⟨os, _, hAct, hUnwound.length_eq, Realm.agreeBut_closed _ hAgree, ?_, ?_, ?_⟩
  · intro y hKey
    rw [Realm.ledger_closed]
    exact hAgree.elsewhere hKey
  · intro hDead
    rw [Realm.ledger_closed]
    refine hAgree.eq_of_dead hReached₂.sound hSound fun hMem => ?_
    rw [Ledger.isAlive, Value.key_handle, Allocator.isAlive_iff.2 hMem] at hDead
    cases hDead
  · refine ⟨w, w', hWorld, ?_, hHead₂.trans hHead'⟩
    rw [Realm.ledger_closed]
    exact hKnown'

/-- In the small session the sink deploys an executor before it refuses the first world. The world
is destroyed, and the executor stays alive. -/
theorem refusal_undoes_own_world_rehearsal :
    ∃ x r₁ e r₂ os r', x.number = 0x1001 ∧
      Sink.tell (runCode 3) (.object .scriptSink 2) (.worldCreated x) r₁ = .error e r₂ ∧
      Rehearsal.pit.act (runCode 3) 3 Rehearsal.ready = .error (afterRollback (raised os) e) r' ∧
      r₂.AgreeBut 1 x r' ∧
      (r'.ledger 1).ledger.isAlive (.handle (.ofInt 0x1001)) = false ∧
      (r'.ledger 1).ledger.isAlive (.handle (.ofInt 0x1002)) = true := by
  have hLater : Later .empty Rehearsal.ready :=
    Rehearsal.later_opened.trans (later_foldl 3 _ _)
  obtain ⟨x, b, r₁, hDone, hMade, hNumber⟩ := Rehearsal.done_pit
  have hMem : x ∈ Rehearsal.pit.made x := List.mem_singleton_self x
  have hSink : (Rehearsal.ready.factory 3).sink ≠ .null := by
    intro hNull
    cases hNull
  have hFails : (ends (Rehearsal.pit.act (runCode 3) 3) Rehearsal.ready).1.isOk = false := by
    decide +kernel
  cases hTold : Sink.tell (runCode 3) (.object .scriptSink 2) (.worldCreated x) r₁ with
  | ok _ r₂ =>
    -- if the sink took the world, it would be given
    obtain ⟨r', hGives⟩ := (Operation.gives_iff rfl (.inl rfl) hSink hDone hMade).2 ⟨r₂, hTold⟩
    rw [ends_of_ok hGives] at hFails
    cases hFails
  | error e r₂ =>
    obtain ⟨os, r', hAct, -, hAgree, -⟩ := refusal_undoes_own_world hLater rfl Nat.zero_lt_one rfl
      (.inl rfl) hSink hDone hMem 3 hTold
    have hEnd : (ends (Rehearsal.pit.act (runCode 3) 3) Rehearsal.ready).2 = r' := by
      rw [ends_of_error hAct]
    refine ⟨x, r₁, e, r₂, os, r', hNumber, hTold, hAct, hAgree, ?_, ?_⟩
    · rw [← hEnd]
      decide +kernel
    · rw [← hEnd]
      decide +kernel

end WorldForge.Scenario

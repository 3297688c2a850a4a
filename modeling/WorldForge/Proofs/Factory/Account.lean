import WorldForge.Proofs.Factory.Undoing

/-!
# Accounts of work

However the work of an operation ends, its journal accounts for what it has done: on the ledger
stand exactly the effects that the journal lists. `Work.Accounted` says so, together with the steps
that have been paid. It is what an unwinding starts from.

* `accounted_registerParts`, `accounted_deployWorld`, `accounted_makeWorld` — all work that a
  factory does is accounted for, at whichever call it stops.
-/

namespace WorldForge

namespace Work

variable {c : Catalog} {recipe : Recipe} {name world : Value} {x : InstanceHandle}
  {b b' b₁ : Workbench} {parts : List Part} {n : Nat} {e : Error}
  {handed : List InstanceHandle} {new? : Option World}

/-- **Work that is accounted for.** From a workbench without a journal to another one, `n` steps
have been paid, and what the journal lists is what has been done on the ledger. No fault has begun
to wait for a call. -/
structure Accounted (c : Catalog) (new? : Option World) (n : Nat) (b b' : Workbench) : Prop where
  purse : b'.purse = b.purse.after n
  standing : Undo.Standing c b.site.ledger new? b'.journal.reverse b'.site.ledger
  spare : ∀ {call}, Fault.Spare b.site.faults call → Fault.Spare b'.site.faults call

/-- Work that has done nothing yet is accounted for: no world is new, nothing is paid, and there is
nothing to be undone. -/
theorem accounted_self (hJournal : b.journal = []) : Accounted c none 0 b b where
  purse := by simp
  standing := by
    rw [hJournal]
    exact .idle
  spare hSpare := hSpare

/-- A call that is counted does nothing. -/
theorem accounted_of_met (hJournal : b.journal = []) (call : LedgerCall) :
    Accounted c none 0 b { b with site := b.site.met call } where
  purse := by simp
  standing := by
    show Undo.Standing c b.site.ledger none b.journal.reverse b.site.ledger
    rw [hJournal]
    exact .idle
  spare hSpare := hSpare.meet

/-! ## Registering -/

/-- Where no live world is, nothing is registered, because the dispatcher is asked for before
anything is paid. -/
theorem registerParts_of_none (components systems : Value)
    (hNone : b.site.ledger.worlds.find? world.key = none) :
    (ends (registerParts c world components systems) b).2 =
      { b with site := b.site.met .dispatcher } := by
  rw [registerParts, ends_bind]
  cases hDispatch : wrapping .ledger (.cannotDispatch world) (onSite (Site.dispatcher world)) b with
  | error e b₁ =>
    rw [ends_of_error hDispatch]
    exact wrapping_dispatcher_eq_error hDispatch
  -- a dispatcher is given out for a live world only
  | ok w b₁ =>
    obtain ⟨-, -, hFind, -⟩ := wrapping_dispatcher_eq_ok_iff.1 hDispatch
    rw [hNone] at hFind
    cases hFind

/-- Parts that have been registered in a live world are accounted for. -/
theorem Enrolled.accounted {w : World} (h : Enrolled c w.handle parts n b b')
    (hJournal : b.journal = []) (hFind : b.site.ledger.worlds.find? w.handle.key = some w) :
    Accounted c none n b b' where
  purse := h.purse
  standing := by
    obtain ⟨w₁, hExtends, hLedger⟩ := h.ledger hFind rfl
    rw [h.journal, hJournal, List.append_nil, List.reverse_reverse, hLedger]
    exact .extended hFind rfl h.declared hExtends
  spare := h.spare

/-- **A run over components and systems is accounted for.** It pays for no more steps than there are
parts. -/
theorem accounted_registerParts (hs : Ledger.Sound c b.site.ledger handed)
    (hJournal : b.journal = []) (world components systems : Value) :
    ∃ n ≤ (partsOf .component components ++ partsOf .system systems).length,
      Accounted c none n b (ends (registerParts c world components systems) b).2 := by
  cases hFind : b.site.ledger.worlds.find? world.key with
  | none =>
    rw [registerParts_of_none components systems hFind]
    exact ⟨0, Nat.zero_le _, accounted_of_met hJournal _⟩
  -- the world stands at its own handle, by which its parts are registered
  | some w =>
    obtain ⟨done, n, hDone, -, hn, -⟩ :=
      enrolls_registerParts_of_find? (c := c) components systems hFind
    refine ⟨n, hn, hDone.accounted hJournal ?_⟩
    rw [(hs.worlds hFind).1]
    exact hFind

/-! ## Making a world -/

/-- What a deployment that succeeds has done: the world stands bare at the next handle, and the
journal has the entry by which it is destroyed. Nothing has been paid. -/
theorem deployWorld_spec (h : deployWorld c recipe name b = .ok x b') :
    x = b.site.ledger.allocator.fresh ∧ b'.journal = .destroy x :: b.journal ∧
      b'.purse = b.purse ∧ b'.site.faults = (Fault.meet .deploy b.site.faults).2 ∧
      ∃ text, name = .str text ∧
        b'.site.ledger = (b.site.ledger.withInstance recipe.template).withWorld
          (.bare x recipe.template text recipe.executor) := by
  obtain ⟨s, hDeploy, rfl⟩ := deployWorld_eq_ok_iff.1 h
  obtain ⟨-, -, -, p, l, hLedger, rfl⟩ := Site.deploy_eq_ok_iff.1 hDeploy
  obtain ⟨-, ⟨text, rfl, -, rfl⟩, -⟩ :=
    Ledger.plan_eq_ok_iff.1 (Ledger.deploy_eq_ok hLedger).1
  cases Ledger.deployed_of_deploy hLedger
  exact ⟨rfl, rfl, rfl, rfl, text, rfl, rfl⟩

/-- The world that a deployment has made is found at its handle. -/
theorem find?_of_deployWorld (h : deployWorld c recipe name b = .ok x b₁) {w : World} :
    b₁.site.ledger.worlds.find? x.key = some w ↔
      ∃ text, name = .str text ∧ w = .bare x recipe.template text recipe.executor := by
  obtain ⟨-, -, -, -, text, rfl, hLedger⟩ := deployWorld_spec h
  have hFind : b₁.site.ledger.worlds.find? x.key =
      some (.bare x recipe.template text recipe.executor) := by
    rw [hLedger]
    exact Ledger.find?_withWorld ..
  rw [hFind]
  simp [eq_comm]

/-- A run over components and systems in a new world works on this world. -/
theorem enrolls_of_deployWorld (h : deployWorld c recipe name b = .ok x b₁)
    (components systems : List Value) :
    Enrolls c x (components.map (Prod.mk .component) ++ systems.map (Prod.mk .system))
      (ends (registerParts c x (.list components) (.list systems)) b₁).1 b₁
      (ends (registerParts c x (.list components) (.list systems)) b₁).2 := by
  apply enrolls_registerParts
  intro w hFind
  rw [Value.key_handle] at hFind
  obtain ⟨text, -, rfl⟩ := (find?_of_deployWorld h).1 hFind
  rfl

/-- A new world with the parts that have been registered in it is accounted for. -/
theorem Enrolled.accounted_made (hEnrolled : Enrolled c x parts n b₁ b') (hJournal : b.journal = [])
    (h : deployWorld c recipe name b = .ok x b₁) :
    ∃ text, name = .str text ∧
      Accounted c (some (.bare x recipe.template text recipe.executor)) n b b' := by
  obtain ⟨rfl, hEntry, hPurse, hFaults, text, hName, hLedger⟩ := deployWorld_spec h
  have hFind := (find?_of_deployWorld h).2 ⟨text, hName, rfl⟩
  obtain ⟨w₁, hExtends, hEnd⟩ := hEnrolled.ledger hFind rfl
  refine ⟨text, hName, ?_, ?_, ?_⟩
  · rw [hEnrolled.purse, hPurse]
  · rw [hEnrolled.journal, hEntry, hJournal, hEnd, hLedger,
      Ledger.withWorld_withWorld _ hExtends.head.handle]
    simpa using Undo.Standing.made hEnrolled.declared hExtends
  · intro call hSpare
    apply hEnrolled.spare
    rw [hFaults]
    exact hSpare.meet

/-- **A deployment is accounted for**, whether it has succeeded or not: what the journal holds is
what would have to be undone. -/
theorem accounted_deployWorld (hJournal : b.journal = []) (c : Catalog) (recipe : Recipe)
    (name : Value) : ∃ new?, Accounted c new? 0 b (ends (deployWorld c recipe name) b).2 := by
  cases h : deployWorld c recipe name b with
  | error e b' =>
    rw [ends_of_error h]
    obtain ⟨rfl, -⟩ := deployWorld_eq_error h
    exact ⟨none, accounted_of_met hJournal _⟩
  | ok x b' =>
    rw [ends_of_ok h]
    obtain ⟨text, -, hDone⟩ := (Enrolled.refl c x b').accounted_made hJournal h
    exact ⟨_, hDone⟩

/-- Once its world has been deployed, the making of a world is accounted for as that of this world,
however many parts are registered. -/
theorem accounted_makeWorld_of_deployed (hJournal : b.journal = [])
    (h : deployWorld c recipe name b = .ok x b₁) (components systems : List Value) :
    ∃ text, ∃ n ≤ components.length + systems.length, name = .str text ∧
      Accounted c (some (.bare x recipe.template text recipe.executor)) n b
        (ends (makeWorld c recipe name components systems) b).2 := by
  obtain ⟨done, n, hDone, -, hn, -⟩ := enrolls_of_deployWorld h components systems
  -- what fails in the registrations is wrapped, and nothing is done about it here
  have hEnd : (ends (makeWorld c recipe name components systems) b).2 =
      (ends (registerParts c x (.list components) (.list systems)) b₁).2 := by
    rw [makeWorld, ends_bind, ends_of_ok h]
    show (ends (wrapping .registration (.registrationFailed name x)
        (registerParts c x (.list components) (.list systems)) >>= fun _ => pure x) b₁).2 = _
    rw [ends_bind, ends_wrapping]
    rcases ends (registerParts c x (.list components) (.list systems)) b₁ with ⟨_ | _, b'⟩ <;> rfl
  obtain ⟨text, hName, hAccounted⟩ := hDone.accounted_made hJournal h
  refine ⟨text, n, ?_, hName, ?_⟩
  · simpa using hn
  · rw [hEnd]
    exact hAccounted

/-- **The making of a world with its parts is accounted for**, wherever it stops. It pays for no
more steps than there are parts. -/
theorem accounted_makeWorld (hJournal : b.journal = []) (c : Catalog) (recipe : Recipe)
    (name : Value) (components systems : List Value) :
    ∃ new?, ∃ n ≤ components.length + systems.length,
      Accounted c new? n b (ends (makeWorld c recipe name components systems) b).2 := by
  cases h : deployWorld c recipe name b with
  | error e b' =>
    rw [makeWorld, ends_bind, ends_of_error h]
    obtain ⟨rfl, -⟩ := deployWorld_eq_error h
    exact ⟨none, 0, Nat.zero_le _, accounted_of_met hJournal _⟩
  -- whatever becomes of the parts, they go into the world that is there now
  | ok x b₁ =>
    obtain ⟨text, n, hn, -, hDone⟩ :=
      accounted_makeWorld_of_deployed hJournal h components systems
    exact ⟨_, n, hn, hDone⟩

end Work

end WorldForge

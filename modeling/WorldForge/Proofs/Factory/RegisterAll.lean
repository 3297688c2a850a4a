import WorldForge.Proofs.Factory.Operation

/-!
# Registering parts in a world that is there

A factory registers parts in a live world, all or none. The world may have parts already, some of
them perhaps among those asked for. A registration that is accepted is of a template that was not
there, so that undoing it takes its own entry out and none of the older ones. And the entries that
are undone are the last ones of their rosters, so that the older ones stay in their order.

Where no fault waits for a deregistration, every undoing succeeds. Then the ledger is the very one
that the operation began with, whatever made it fail: a template that is not declared, of the wrong
kind or there already, a budget that ran out, or a planned fault.

Main results:

* `Work.RegisterFails.plain` — registering parts never fails as a rollback;
* `unmoved_of_abandon` — registrations that are abandoned are undone without a trace;
* `registerAll_atomic` — an operation that fails has left the ledger as it was, and one that
  succeeds has put the parts at the end of the rosters.
-/

namespace WorldForge

variable {κ : Type}

/-! ## What registrations raise -/

/-- No rollback in which compensations failed has a part in an error: neither the error itself nor
what made it come about is the error of one. -/
def Error.IsPlain : Error → Prop
  | rollbackFailed .. => False
  | deploymentFailed _ _ cause | cannotDispatch _ cause | registrationRejected _ _ cause
  | registrationFailed _ _ cause => cause.IsPlain
  | _ => True

namespace Site

variable {c : Catalog} {x : InstanceHandle} {k : PartKind} {t given : Value} {s s' : Site}
  {e : Error}

/-- A call on a ledger raises a plain error: a fault, a refusal of the ledger, or what is wrong with
the value that it was given. No rollback has to do with it. -/
theorem plain_of_callBy {α : Type} {key : Value} {flaw : Option Error} {call : LedgerCall}
    {op : Ledger → Except LedgerError (α × Ledger)} (hFlaw : ∀ e, flaw = some e → e.IsPlain)
    (h : callBy key flaw call op s = .error e s') : e.IsPlain := by
  rcases callBy_error_cases h with ⟨f, rfl⟩ | ⟨refusal, rfl⟩ | hSome | ⟨refusal, rfl⟩
  · trivial
  · trivial
  · exact hFlaw e hSome
  · trivial

/-- To look up a world raises plain errors only. -/
theorem plain_of_dispatcher (h : dispatcher given s = .error e s') : e.IsPlain :=
  plain_of_callBy (fun _ hNone => by cases hNone) h

/-- What is wrong with a template is told as something that is lacking, or as no key. -/
theorem plain_of_registrationFlaw (h : c.registrationFlaw? k t = some e) : e.IsPlain := by
  rcases Catalog.registrationFlaw_cases h with ⟨v, feature, rfl⟩ | ⟨refusal, rfl⟩ <;> trivial

/-- To register a part raises plain errors only. -/
theorem plain_of_register (h : register c x k t s = .error e s') : e.IsPlain := by
  rcases bind_eq_error_iff.1 h with hCall | ⟨_, s₁, -, hEnd⟩
  · exact plain_of_callBy (fun _ => plain_of_registrationFlaw) hCall
  · cases hEnd

end Site

namespace Work

variable {c : Catalog} {x : InstanceHandle} {k : PartKind} {world components systems : Value}
  {b b' : Workbench} {e : Error} {w : World}

/-- **Registering parts never fails as a rollback**, and no rollback has made it fail. -/
theorem RegisterFails.plain (h : RegisterFails c world e) : e.IsPlain := by
  cases h with
  | dispatcher hSite =>
    have hPlain := Site.plain_of_dispatcher hSite
    split <;> exact hPlain
  | @step p e hPay =>
    -- a purse that is no budget raises an error of its own
    cases p with
    | other v =>
      cases hPay
      trivial
    | budget b =>
      obtain ⟨limit, -, -, rfl⟩ := Purse.payStep_eq_error hPay
      trivial
  | part hSite =>
    have hPlain := Site.plain_of_register hSite
    split <;> exact hPlain
  | parts _ => trivial

/-- A run over what a value gives has got it from the value. -/
theorem exists_items_of_registerEach {parts : Value} (h : registerEach c x k parts b = .ok () b') :
    ∃ ids, parts.items? = some ids := by
  cases hItems : parts.items? with
  | some ids => exact ⟨ids, rfl⟩
  | none =>
    rw [registerEach, Value.items, hItems] at h
    cases h

/-- A run over components and systems that succeeds has got both. -/
theorem exists_items_of_registerParts
    (h : registerParts c world components systems b = .ok () b') :
    ∃ cs ss, components.items? = some cs ∧ systems.items? = some ss := by
  obtain ⟨w, b₁, -, hRest⟩ := bind_eq_ok_iff.1 h
  obtain ⟨_, b₂, hFirst, hSecond⟩ := bind_eq_ok_iff.1 hRest
  obtain ⟨cs, hComponents⟩ := exists_items_of_registerEach hFirst
  obtain ⟨ss, hSystems⟩ := exists_items_of_registerEach hSecond
  exact ⟨cs, ss, hComponents, hSystems⟩

/-- **What registering components and systems makes of a live world.** They follow those that were
there, and nothing else on the ledger has changed. -/
theorem extended_of_registerParts {cs ss : List Value}
    (h : registerParts c world components systems b = .ok () b')
    (hComponents : components.items? = some cs) (hSystems : systems.items? = some ss)
    (hFind : b.site.ledger.worlds.find? world.key = some w) :
    Enrolled c w.handle (cs.map (Prod.mk .component) ++ ss.map (Prod.mk .system))
      (cs.length + ss.length) b b' := by
  have hRun := enrolls_registerParts_of_find? (c := c) components systems hFind
  rw [ends_of_ok h, partsOf, partsOf, hComponents, hSystems] at hRun
  obtain ⟨done, n, hDone, -, -, hAll⟩ := hRun
  obtain ⟨rfl, rfl⟩ := hAll rfl
  simpa using hDone

end Work

/-! ## What is left of the work -/

namespace Realm

variable {r r₁ r' : Realm κ} {i j n total : Nat} {budget world components systems : Value}
  {s : Site}

/-- **Nothing has come of an operation on a ledger** but that up to `total` steps were paid. The
ledger is the very one that it was: the handles and their counter, the templates, and the worlds
with all that is registered in them. Of the rest of the realm, only the counts of planned faults and
the trace have changed. -/
structure Unmoved (r : Realm κ) (j : Nat) (budget : Value) (total : Nat) (r' : Realm κ) : Prop where
  ledger : (r'.ledger j).ledger = (r.ledger j).ledger
  worked : ∃ n ≤ total, ∃ s, r.Worked j budget n s r'

/-- **Parts were registered in a live world**, each for a step that was paid. They follow those that
the world had, in the order in which they were given. Of the rest of the realm, only the counts of
planned faults and the trace have changed. -/
structure Furnished (r : Realm κ) (j : Nat) (budget : Value) (w : World) (cs ss : List Value)
    (r' : Realm κ) : Prop where
  declared : (∀ t ∈ cs, (r.catalogFor j).Declares .component t) ∧
    ∀ t ∈ ss, (r.catalogFor j).Declares .system t
  world : ∃ w', w.SameHead w' ∧ (r'.ledger j).ledger = (r.ledger j).ledger.withWorld w' ∧
    w'.components.entries = w.components.entries ++ (r.catalogFor j).registrations cs ∧
    w'.systems.entries = w.systems.entries ++ (r.catalogFor j).registrations ss
  worked : ∃ s, r.Worked j budget (cs.length + ss.length) s r'

/-- Where nothing has been done, nothing has moved, and nothing has been paid. -/
theorem unmoved_self (r : Realm κ) (j : Nat) (budget : Value) (total : Nat) :
    r.Unmoved j budget total r where
  ledger := rfl
  worked := ⟨0, Nat.zero_le _, r.site j, worked_self ..⟩

end Realm

/-! ## A world with a part

The world in the small realm, in which theorems on live worlds are seen at work. -/

namespace Arena

/-- A world without parts. -/
def shell : World := .bare ledger.allocator.fresh (.template world) "pit" executor

/-- The world with one component. -/
def pit : World :=
  shell.withRoster .component (Table.empty.insert (Value.str "health").key ⟨.str "health", health⟩)

/-- The ledger with this world. -/
def inhabited : Ledger := (ledger.withInstance (.template world)).withWorld pit

/-- The ledger with one world is reached by two deployments and a registration. -/
theorem reached_inhabited : Ledger.Reached catalog inhabited [executor, pit.handle] := by
  have hDeploy : ledger.deploy catalog (.template world)
      (Argument.values [.str "pit", .handle executor]) =
      .ok ((.world (.template world) "pit" executor, pit.handle),
        (ledger.withInstance (.template world)).withWorld shell) := rfl
  have hRegister : ((ledger.withInstance (.template world)).withWorld shell).register catalog
      pit.handle .component health =
        .ok (⟨health, .str "health", .kind .component⟩, inhabited) := rfl
  exact .register (.deploy reached_ledger hDeploy) hRegister

end Arena

/-! ## All or none -/

namespace Factory

variable {run : κ → Act κ Unit} {r r₁ r' : Realm κ} {i j n total : Nat} {e e' : Error}
  {world components systems budget : Value} {w : World} {recipe : Recipe} {p : Purse}
  {handed : List InstanceHandle} {f : Factory} {b b' : Workbench} {c : Catalog}

/-- The journal of work that has made no world has deregistrations only. -/
theorem spare_of_accounted (h : Work.Accounted c none n b b')
    (hSpare : ∀ k, Fault.Spare b.site.faults (.deregister k)) :
    ∀ call ∈ b'.journal.map Undo.call, Fault.Spare b'.site.faults call := by
  intro call hCall
  obtain ⟨u, hMem, rfl⟩ := List.mem_map.1 hCall
  cases u with
  | destroy x =>
    obtain ⟨-, v, hNone⟩ := h.standing.new_of_mem (List.mem_reverse.2 hMem)
    cases hNone
  | deregister x k t => exact h.spare (hSpare k)

/-- **Work that is abandoned is undone in full**, where no fault waits for the calls that undo: the
error that is raised is the one that it is abandoned for, and no effect is left to stand. -/
theorem undone_of_abandon {α : Type} {new? : Option World} (hLedger : f.ledger = .object .ledger j)
    (hs : Ledger.Sound c b.site.ledger handed) (hDone : Work.Accounted c new? n b b')
    (hSite : r₁.site j = .opened b'.site.ledger b'.site.faults)
    (hSpare : ∀ call ∈ b'.journal.map Undo.call, Fault.Spare b'.site.faults call) (e : Error) :
    ∃ s, (f.abandon b'.journal e : Act κ α) r₁ = .error e (r₁.closed j s) ∧
      Undo.Standing c b.site.ledger new? [] s.ledger ∧
      ∀ call, Fault.Spare b'.site.faults call → Fault.Spare s.faults call := by
  have hStart : Undo.Standing c b.site.ledger new? (b'.journal.reverse ++ [])
      (r₁.site j).ledger := by
    rw [List.append_nil, hSite]
    exact hDone.standing
  obtain ⟨s, hUnwound, hFaults, hLeft⟩ := Undo.unwound_standing hs b'.journal (r₁.site j) [] hStart
  rw [hSite] at hFaults
  -- no entry of the journal is struck, so none is left and none has raised anything
  have hNone : ∀ o ∈ (Fault.meetAll (b'.journal.map Undo.call) (r₁.site j).faults).1,
      o = .ok () := by
    rw [hSite]
    exact Fault.meetAll_of_spared hSpare
  rw [leftover_eq_nil hNone, List.reverse_nil] at hLeft
  refine ⟨s, ?_, hLeft, fun call hCall => ?_⟩
  · rw [abandon_of_unwound hLedger hUnwound, raised_eq_nil_iff.2 hNone, afterRollback_nil]
  · rw [hFaults]
    exact hCall.meetAll _

/-- **Registrations that are abandoned are undone without a trace**, where no fault waits for a
deregistration, and the error that is raised is the one that they are abandoned for. -/
theorem unmoved_of_abandon {b : Workbench} (hLedger : f.ledger = .object .ledger j)
    (hs : Ledger.Sound (r.catalogFor j) (r.ledger j).ledger handed)
    (hSpare : ∀ k, Fault.Spare (r.ledger j).faults (.deregister k))
    (hDone : Work.Accounted (r.catalogFor j) none n ⟨r.site j, p, []⟩ b)
    (hWorked : r.Worked j budget n b.site r₁) (hn : n ≤ total)
    (h : (f.abandon b.journal e : Act κ Unit) r₁ = .error e' r') :
    e' = e ∧ r.Unmoved j budget total r' := by
  have hSite : r₁.site j = .opened b.site.ledger b.site.faults := by
    rw [Realm.site, hWorked.ledger]
  obtain ⟨s, hAbandon, hLeft, -⟩ := undone_of_abandon (α := Unit) hLedger
    (b := ⟨r.site j, p, []⟩) hs hDone hSite (spare_of_accounted hDone hSpare) e
  -- nothing of what was done is left, so the operation fails with its own error
  rw [hAbandon] at h
  cases h
  refine ⟨rfl, ?_, n, hn, s, hWorked.closed s⟩
  rw [Realm.ledger_closed]
  exact hLeft.eq_of_none

/-- A factory that is not set up, or has nothing to pay with, does nothing. Otherwise a budget
pays, the very one that was handed over if one was. -/
theorem registerAll_cases (run : κ → Act κ Unit) (i : Nat) (world components systems : Value)
    (r : Realm κ) (hBudget : budget = .null ∨ ∃ k, budget = .object .budget k) :
    (∃ e, e.IsPlain ∧ registerAll run i world components systems budget r = .error e r) ∨
      ∃ recipe p, (r.factory i).configuration = .holding recipe ∧
        (r.factory i).purse budget r = .ok p r ∧
        ∃ b, p = .budget b ∧ ∀ k, budget = .object .budget k → b = r.budget k := by
  -- the recipe is not used, but it is asked for first
  cases hSnapshot : (r.factory i).configuration.snapshot with
  | error e =>
    refine .inl ⟨.configuration e, trivial, ?_⟩
    have hNone : (release (r.factory i).recipe : Act κ Recipe) r = .error (.configuration e) r := by
      rw [recipe, hSnapshot]
      rfl
    unfold registerAll
    rw [bind_of_ok (get_eq r), bind_of_error hNone]
  | ok recipe =>
    have hRecipe := Configuration.snapshot_eq_ok_iff.1 hSnapshot
    rcases purse_cases (r.factory i) r hBudget with ⟨e, hNone⟩ | ⟨b, hPays, hSame⟩
    · refine .inl ⟨.budget e, trivial, ?_⟩
      unfold registerAll
      rw [bind_of_ok (get_eq r), bind_of_ok (release_recipe hRecipe), bind_of_error hNone]
    · exact .inr ⟨recipe, .budget b, hRecipe, hPays, b, rfl, hSame⟩

/-- Registrations that have all succeeded have furnished the world: in each of its tables the new
parts follow the old ones, in the order in which they were given. -/
theorem furnished_of_registerParts {b b' : Workbench} {cs ss : List Value}
    (h : Work.registerParts (r.catalogFor j) world components systems b = .ok () b')
    (hComponents : components.items? = some cs) (hSystems : systems.items? = some ss)
    (hSite : b.site = r.site j) (hKey : w.handle.key = world.key)
    (hWorld : (r.ledger j).ledger.worlds.find? world.key = some w)
    (hWorked : b'.purse = b.purse.after (cs.length + ss.length) →
      r.Worked j budget (cs.length + ss.length) b'.site r') :
    r.Furnished j budget w cs ss r' := by
  have hFind : b.site.ledger.worlds.find? world.key = some w := by
    rw [hSite]
    exact hWorld
  have hDone := Work.extended_of_registerParts h hComponents hSystems hFind
  have hRealm := hWorked hDone.purse
  rw [← hKey] at hFind
  obtain ⟨w', hExtends, hLedger⟩ := hDone.ledger hFind rfl
  refine ⟨⟨fun t ht => ?_, fun t ht => ?_⟩, ⟨w', hExtends.head, ?_, ?_, ?_⟩, b'.site, hRealm⟩
  · exact hDone.declared (.component, t)
      (List.mem_append_left _ (List.mem_map_of_mem ht))
  · exact hDone.declared (.system, t)
      (List.mem_append_right _ (List.mem_map_of_mem ht))
  · rw [hRealm.ledger]
    show b'.site.ledger = _
    rw [hLedger, hSite]
    rfl
  -- the parts of each kind come at the end of its own table, in their order
  · have hEntries := hExtends.entries .component
    rw [ofKind_append, ofKind_map_self, ofKind_map_of_ne (by decide), List.append_nil] at hEntries
    exact hEntries
  · have hEntries := hExtends.entries .system
    rw [ofKind_append, ofKind_map_self, ofKind_map_of_ne (by decide), List.nil_append] at hEntries
    exact hEntries

/-- **A factory registers parts in a live world all or none**, whatever parts the world has and
whichever are asked for, where no fault waits for a deregistration. If it fails, no rollback has
failed, and the ledger is the one that it was. If it succeeds, all the parts follow those that the
world had. -/
theorem registerAll_atomic (hLedger : (r.factory i).ledger = .object .ledger j)
    (hReached : Ledger.Reached (r.catalogFor j) (r.ledger j).ledger handed)
    (hWorld : (r.ledger j).ledger.worlds.find? world.key = some w)
    (hBudget : budget = .null ∨ ∃ k, budget = .object .budget k)
    (hSpare : ∀ k, Fault.Spare (r.ledger j).faults (.deregister k)) :
    (∀ e r', registerAll run i world components systems budget r = .error e r' →
      e.IsPlain ∧ r.Unmoved j budget
        (Work.partsOf .component components ++ Work.partsOf .system systems).length r') ∧
    (∀ r', registerAll run i world components systems budget r = .ok () r' →
      ∃ cs ss, components.items? = some cs ∧ systems.items? = some ss ∧
        r.Furnished j budget w cs ss r') := by
  have hs := hReached.sound
  rcases registerAll_cases run i world components systems r hBudget with
    ⟨e, hPlain, hIdle⟩ | ⟨recipe, p, hRecipe, hPurse, hBudgets⟩
  · refine ⟨fun e' r' h => ?_, fun r' h => ?_⟩
    · rw [hIdle] at h
      cases h
      exact ⟨hPlain, r.unmoved_self ..⟩
    · rw [hIdle] at h
      cases h
  obtain ⟨n, hn, hDone⟩ := Work.accounted_registerParts (b := ⟨r.site j, p, []⟩) hs rfl world
    components systems
  rcases hWork : ends (Work.registerParts (r.catalogFor j) world components systems)
    ⟨r.site j, p, []⟩ with ⟨res, b⟩
  rw [hWork] at hDone
  have hWorked : ∀ m, b.purse = p.after m →
      r.Worked j budget m b.site ((r.closed j b.site).kept b.purse budget) := by
    intro m hPaid
    rw [hPaid]
    exact Realm.worked_kept b.site hBudgets
  refine ⟨fun e r' h => ?_, fun r' h => ?_⟩
  · rw [registerAll_eq hLedger hRecipe hPurse hWork] at h
    obtain ⟨trigger, r₁, hTriggered, hAbandon⟩ := conclude_eq_error h
    cases hTriggered with
    | work =>
      obtain ⟨rfl, hUnmoved⟩ := unmoved_of_abandon hLedger hs hSpare hDone
        ((hWorked n hDone.purse).appendTrace _) hn hAbandon
      exact ⟨(Work.registerFails_registerParts (eq_error_of_ends hWork)).plain, hUnmoved⟩
    -- the sink is told of nothing, so it cannot be what has failed
    | delivery hTold =>
      rw [Sink.deliver_nil] at hTold
      cases hTold
  · rw [registerAll_eq hLedger hRecipe hPurse hWork, conclude_eq_ok_iff hLedger,
      Sink.deliver_nil] at h
    obtain ⟨rfl, hEnd⟩ := h
    cases hEnd
    have hRun := eq_ok_of_ends hWork
    obtain ⟨cs, ss, hComponents, hSystems⟩ := Work.exists_items_of_registerParts hRun
    have hKey : w.handle.key = world.key := (hs.worlds hWorld).1
    exact ⟨cs, ss, hComponents, hSystems,
      furnished_of_registerParts hRun hComponents hSystems rfl hKey hWorld (hWorked _)⟩

/-- Speed is to be registered in a world that has health. Together with health it is refused, and
together with physics it is taken. -/
theorem registerAll_atomic_arena :
    let r := (Arena.realm [] [] 5).putLedger 1 ⟨.object .catalog 0, Arena.inhabited, []⟩
    let budget : Value := .object .budget 3
    (∃ e r', registerAll Empty.elim 4 (.handle Arena.pit.handle)
        (.list [Arena.speed, Arena.health]) (.list [Arena.physics]) budget r = .error e r' ∧
      e.IsPlain ∧ r.Unmoved 1 budget 3 r') ∧
    ∃ r', registerAll Empty.elim 4 (.handle Arena.pit.handle)
        (.list [Arena.speed]) (.list [Arena.physics]) budget r = .ok () r' ∧
      r.Furnished 1 budget Arena.pit [Arena.speed] [Arena.physics] r' := by
  intro r budget
  have hReached : Ledger.Reached (r.catalogFor 1) (r.ledger 1).ledger
      [Arena.executor, Arena.pit.handle] := Arena.reached_inhabited
  have hWorld : (r.ledger 1).ledger.worlds.find? (Value.handle Arena.pit.handle).key =
      some Arena.pit := rfl
  have hSpare : ∀ k, Fault.Spare (r.ledger 1).faults (.deregister k) := by
    intro k f hMem
    cases hMem
  have hLedger : (r.factory 4).ledger = .object .ledger 1 := rfl
  constructor
  -- the world has the second component already
  · have hFails : (ends (registerAll Empty.elim 4 (.handle Arena.pit.handle)
        (.list [Arena.speed, Arena.health]) (.list [Arena.physics]) budget) r).1.isOk = false := by
      decide +kernel
    obtain ⟨e, r', h⟩ := exists_error_of_ends hFails
    exact ⟨e, r', h,
      (registerAll_atomic hLedger hReached hWorld (.inr ⟨3, rfl⟩) hSpare).1 e r' h⟩
  -- without it, all parts are taken
  · have hTaken : (ends (registerAll Empty.elim 4 (.handle Arena.pit.handle)
        (.list [Arena.speed]) (.list [Arena.physics]) budget) r).1.isOk = true := by
      decide +kernel
    obtain ⟨_, r', h⟩ := exists_ok_of_ends hTaken
    obtain ⟨cs, ss, hComponents, hSystems, hFurnished⟩ :=
      (registerAll_atomic hLedger hReached hWorld (.inr ⟨3, rfl⟩) hSpare).2 r' h
    cases hComponents
    cases hSystems
    exact ⟨r', h, hFurnished⟩

end Factory

end WorldForge

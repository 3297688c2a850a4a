import WorldForge.Proofs.Factory.Course
import WorldForge.Proofs.Ledger.Shelf

/-!
# What undoing leaves alone

The journal of a new world names its handle and nothing else, and a handle names one instance for
good. So whatever has happened on the ledger since the journal was written, undoing it concerns this
one instance: whether it is alive, and what is registered in its world. Every other instance stays
as it is found, also those that came after; and a world that is dead already stays dead, with no
other one in its place.

Main results:

* `Undo.Concerns.agreeBut` — what one entry of a journal does to the ledger;
* `agreeBut_of_unwound` — what a whole journal does, by induction on the unwinding;
* `AgreeBut.elsewhere`, `AgreeBut.eq_of_dead` — what this means for all other instances.
-/

namespace WorldForge

variable {κ : Type}

/-! ## Ledgers that agree elsewhere -/

namespace Ledger

/-- **Two ledgers agree but for one instance.** The second is the first with the instance at the
handle `x` dead, perhaps, and with other parts registered in its world. -/
structure AgreeBut (x : InstanceHandle) (l l' : Ledger) : Prop where
  next : l'.allocator.next = l.allocator.next
  alive : l'.allocator.alive.filter (·.key ≠ x.key) = l.allocator.alive.filter (·.key ≠ x.key)
  templates : l'.templates.erase x.key = l.templates.erase x.key
  worlds : l'.worlds.erase x.key = l.worlds.erase x.key
  retired : l'.retired.erase x.key = l.retired.erase x.key
  /-- The instance does not come to life again. -/
  dies : x.key ∈ l'.allocator.keys → x.key ∈ l.allocator.keys
  /-- Its world is the same one, but for what is registered. -/
  world : Option.Rel World.SameHead (l.world? x) (l'.world? x)

variable {c : Catalog} {l l₁ l' : Ledger} {handed : List InstanceHandle} {x y : InstanceHandle}
  {k : PartKind} {t : Value}

/-- A ledger agrees with itself everywhere, and so everywhere but at one handle. -/
theorem AgreeBut.refl (x : InstanceHandle) (l : Ledger) : AgreeBut x l l where
  next := rfl
  alive := rfl
  templates := rfl
  worlds := rfl
  retired := rfl
  dies hMem := hMem
  world := World.rel_self _

/-- Ledgers that agree in turn everywhere but at one handle agree so from the first to the last. -/
theorem AgreeBut.trans (h : AgreeBut x l l₁) (h₁ : AgreeBut x l₁ l') : AgreeBut x l l' where
  next := h₁.next.trans h.next
  alive := h₁.alive.trans h.alive
  templates := h₁.templates.trans h.templates
  worlds := h₁.worlds.trans h.worlds
  retired := h₁.retired.trans h.retired
  dies hMem := h.dies (h₁.dies hMem)
  world := by
    have hFirst := h.world
    have hSecond := h₁.world
    generalize l.world? x = w, l₁.world? x = w₁, l'.world? x = w' at hFirst hSecond ⊢
    -- what is known of the instance stays, up to its parts
    cases hFirst with
    | none =>
      cases hSecond
      exact .none
    | some hHead =>
      cases hSecond with
      | some hHead' => exact .some (hHead.trans hHead')

/-- Destroying an instance concerns no other one: it goes from the lists, and its world is retired
as it is. -/
theorem agreeBut_of_destroy (h : l.destroy (.handle x) = .ok ((), l')) : AgreeBut x l l' := by
  obtain ⟨-, rfl⟩ := destroy_eq_ok h
  rw [Value.key_handle]
  refine ⟨rfl, ?_, ?_, ?_, ?_, fun hMem => (Sound.mem_keys_of_dead.1 hMem).1, ?_⟩
  · simp [remove]
  · simp [remove]
  · simp [remove]
  · rw [remove]
    dsimp only
    split
    · rfl
    · simp
  · rw [world?_remove]
    exact World.rel_self _

/-- Changing what is registered in a world concerns no other one. -/
theorem agreeBut_of_deregister (hs : Sound c l handed)
    (h : l.deregister x k t = .ok ((), l')) : AgreeBut x l l' := by
  obtain ⟨w, w', hWorld, hDone, rfl⟩ := deregister_eq_ok h
  have hHead := ((hs.world? hWorld).2.of_deregister hDone).1
  have hKey : w'.handle.key = x.key := by
    rw [hHead.handle]
    exact (hs.world? hWorld).1
  -- the world is put back where it was found: among the live ones, or among the retired ones
  have hWorlds : (l.putWorld w').worlds.erase x.key = l.worlds.erase x.key := by
    rw [putWorld]
    split
    · simp [hKey]
    · rfl
  have hRetired : (l.putWorld w').retired.erase x.key = l.retired.erase x.key := by
    rw [putWorld]
    split
    · rfl
    · simp [hKey]
  refine ⟨?_, ?_, ?_, hWorlds, hRetired, ?_, ?_⟩
  · rw [allocator_putWorld]
  · rw [allocator_putWorld]
  · rw [templates_putWorld]
  · rw [allocator_putWorld]
    exact id
  · rw [hs.world?_putWorld_self hWorld hHead, hWorld]
    exact .some hHead

/-- **What is elsewhere is as it was**: whether it is alive, its template, and its world with
everything that is registered there. -/
theorem AgreeBut.elsewhere (h : AgreeBut x l l') (hKey : y.key ≠ x.key) :
    l'.isAlive (.handle y) = l.isAlive (.handle y) ∧
      l'.templateOf (.handle y) = l.templateOf (.handle y) ∧
      l'.dispatcher (.handle y) = l.dispatcher (.handle y) ∧ l'.world? y = l.world? y := by
  have hTemplates : l'.templates.find? y.key = l.templates.find? y.key := by
    rw [← Table.find?_erase_of_ne _ hKey, h.templates, Table.find?_erase_of_ne _ hKey]
  have hWorlds : l'.worlds.find? y.key = l.worlds.find? y.key := by
    rw [← Table.find?_erase_of_ne _ hKey, h.worlds, Table.find?_erase_of_ne _ hKey]
  have hRetired : l'.retired.find? y.key = l.retired.find? y.key := by
    rw [← Table.find?_erase_of_ne _ hKey, h.retired, Table.find?_erase_of_ne _ hKey]
  -- a handle is alive if it is among those that are left when the handles of `x` are taken out
  have hMem : ∀ a : Allocator, y.key ∈ a.keys ↔
      y.key ∈ (a.alive.filter (·.key ≠ x.key)).map InstanceHandle.key := by
    intro a
    have hDead := Sound.mem_keys_of_dead (a := a) (j := y.key) (k := x.key)
    exact ⟨fun hIn => hDead.2 ⟨hIn, hKey⟩, fun hIn => (hDead.1 hIn).1⟩
  refine ⟨?_, ?_, ?_, ?_⟩
  · rw [Bool.eq_iff_iff, isAlive, isAlive, Allocator.isAlive_iff, Allocator.isAlive_iff,
      Value.key_handle, hMem, h.alive, ← hMem]
  · rw [templateOf, templateOf, Value.key_handle, hTemplates]
  · rw [dispatcher, dispatcher, liveWorld?, liveWorld?, Value.key_handle, hWorlds]
  · rw [world?, world?, hWorlds, hRetired]

/-- **A dead instance stays dead**, and nothing else dies in its place. -/
theorem AgreeBut.eq_of_dead (hs : Sound c l handed) (hs' : Sound c l' handed)
    (h : AgreeBut x l l') (hDead : x.key ∉ l.allocator.keys) :
    l'.allocator = l.allocator ∧ l'.templates = l.templates ∧ l'.worlds = l.worlds := by
  have hDead' : x.key ∉ l'.allocator.keys := fun hMem => hDead (h.dies hMem)
  -- nothing is filtered out, and nothing is erased, where there is nothing of the instance
  have hAll : ∀ a : Allocator, x.key ∉ a.keys → a.alive.filter (·.key ≠ x.key) = a.alive := by
    intro a hNot
    rw [List.filter_eq_self]
    intro y hy
    have hNe : y.key ≠ x.key := fun hKey => hNot (hKey ▸ List.mem_map_of_mem hy)
    simpa using hNe
  refine ⟨?_, ?_, ?_⟩
  · have hAlive := h.alive
    rw [hAll _ hDead, hAll _ hDead'] at hAlive
    have hNext := h.next
    generalize l'.allocator = a', l.allocator = a at hAlive hNext
    obtain ⟨next', alive'⟩ := a'
    obtain ⟨next, alive⟩ := a
    obtain rfl : next' = next := hNext
    obtain rfl : alive' = alive := hAlive
    rfl
  · rw [← Table.erase_of_not_mem l'.templates (k := x.key) (by rwa [hs'.templates]), h.templates,
      Table.erase_of_not_mem _ (by rwa [hs.templates])]
  · rw [← Table.erase_of_not_mem l'.worlds (k := x.key)
        (fun hMem => hDead' (hs'.worlds_alive _ hMem)),
      h.worlds, Table.erase_of_not_mem _ (fun hMem => hDead (hs.worlds_alive _ hMem))]

end Ledger

/-! ## Undoing -/

namespace Undo

variable {c : Catalog} {handed : List InstanceHandle} {x : InstanceHandle} {u : Undo}
  {s s' : Site} {journal : List Undo} {os : List (Except Error Unit)}

/-- An entry of a journal concerns one instance: it destroys it, or takes a part out of its world.
-/
inductive Concerns (x : InstanceHandle) : Undo → Prop
  | destroy : Concerns x (.destroy x)
  | part (p : Part) : Concerns x (.ofPart x p)

/-- An undoing that the ledger refuses does nothing. -/
theorem run_of_refused {refusal : LedgerError} (hMeet : (Fault.meet u.call s.faults).1 = none)
    (hRefused : u.onLedger s.ledger = .error refusal) :
    ∃ e, u.run s = .error e (s.met u.call) := by
  -- a handle can always be looked up, so that it is the ledger itself that refuses
  cases u with
  | destroy h =>
    have hCall : Site.callBy (.handle h) none .destroy (fun l => l.destroy (.handle h)) s =
        .error (.ledger refusal) (s.met .destroy) := Site.callBy_of_refused hMeet rfl hRefused
    exact ⟨_, bind_of_error hCall⟩
  | deregister world k given =>
    have hEnd : Site.onLedger (fun l => l.deregister world k given) (s.met (.deregister k)) =
        .error (.ledger refusal) (s.met (.deregister k)) := by
      rw [Site.onLedger]
      change s.ledger.deregister world k given = _ at hRefused
      simp only [Site.met, hRefused]
    exact ⟨_, (Site.call_of_none hMeet).trans hEnd⟩

/-- An entry that fails leaves the ledger as it is, and one that succeeds has done what it does. -/
theorem ledger_of_run (u : Undo) (s : Site) :
    (ends u.run s).2.ledger = s.ledger ∨
      u.onLedger s.ledger = .ok ((), (ends u.run s).2.ledger) := by
  -- a call that meets a fault, or is refused, leaves the ledger alone
  cases hMeet : (Fault.meet u.call s.faults).1 with
  | some e =>
    rw [ends_of_error (run_of_some hMeet)]
    exact .inl rfl
  | none =>
    cases hDone : u.onLedger s.ledger with
    | ok a =>
      obtain ⟨log, hRun⟩ := run_of_none hMeet hDone
      rw [ends_of_ok hRun]
      exact .inr rfl
    | error refusal =>
      obtain ⟨e, hRun⟩ := run_of_refused hMeet hDone
      rw [ends_of_error hRun]
      exact .inl rfl

/-- **What an entry does to a ledger** concerns its instance alone. -/
theorem Concerns.agreeBut (h : Concerns x u) (hs : Ledger.Sound c s.ledger handed) :
    s.ledger.AgreeBut x (ends u.run s).2.ledger ∧
      Ledger.Sound c (ends u.run s).2.ledger handed := by
  -- a planned fault, or a refusal by the ledger, makes the entry fail before it does anything
  rcases ledger_of_run u s with hSame | hDone
  · rw [hSame]
    exact ⟨.refl x _, hs⟩
  · cases h with
    | destroy => exact ⟨Ledger.agreeBut_of_destroy hDone, hs.destroy hDone⟩
    | part p => exact ⟨Ledger.agreeBut_of_deregister hs hDone, hs.deregister hDone⟩

/-- **Unwinding a journal concerns the instance that it is about**, whatever its entries raise. -/
theorem agreeBut_of_unwound (hs : Ledger.Sound c s.ledger handed)
    (hJournal : ∀ u ∈ journal, Concerns x u)
    (h : Unwound Site.report Undo.text Undo.run s journal os s') :
    s.ledger.AgreeBut x s'.ledger ∧ Ledger.Sound c s'.ledger handed := by
  induction h with
  | nil => exact ⟨.refl x _, hs⟩
  | @undone s s₁ s' u older os hUndo _ ih =>
    obtain ⟨hFirst, hs₁⟩ := (hJournal u (.head _)).agreeBut hs
    rw [ends_of_ok hUndo] at hFirst hs₁
    obtain ⟨hRest, hs'⟩ := ih hs₁ fun v hv => hJournal v (.tail _ hv)
    exact ⟨hFirst.trans hRest, hs'⟩
  -- an entry that fails is reported, and the older ones go on from there
  | @failed s s₁ s₂ s' u older os e hUndo hReport _ ih =>
    obtain ⟨hFirst, hs₁⟩ := (hJournal u (.head _)).agreeBut hs
    rw [ends_of_error hUndo] at hFirst hs₁
    rw [Site.report_eq] at hReport
    cases hReport
    obtain ⟨hRest, hs'⟩ := ih hs₁ fun v hv => hJournal v (.tail _ hv)
    exact ⟨hFirst.trans hRest, hs'⟩

end Undo

/-! ## Realms -/

namespace Operation

variable {o : Operation} {recipe : Recipe} {c : Catalog} {a : o.Result} {b b' : Workbench}
  {x : InstanceHandle}

/-- The journal of a new world is about this world. -/
theorem concerns_of_work (hJournal : b.journal = []) (h : o.work recipe c b = .ok a b')
    (hMem : x ∈ o.made a) : ∀ u ∈ b'.journal, Undo.Concerns x u := by
  obtain ⟨order, n, b₁, -, hDone, hEnrolled⟩ := enrolled_of_work h hMem
  obtain ⟨-, hFirst, -⟩ := Work.deployWorld_spec hDone
  rw [hEnrolled.journal, hFirst, hJournal]
  intro u hu
  rcases List.mem_append.1 hu with hPart | hDestroy
  · obtain ⟨p, -, rfl⟩ := List.mem_map.1 (List.mem_reverse.1 hPart)
    exact .part p
  · obtain rfl := List.mem_singleton.1 hDestroy
    exact .destroy

end Operation

namespace Realm

/-- **Two realms agree but for one instance of one ledger**, and what is reported. -/
structure AgreeBut (j : Nat) (x : InstanceHandle) (r r' : Realm κ) : Prop where
  rest : ∃ ledgers entries, r' = { r with ledgers, trace := r.trace ++ entries }
  others : ∀ m, m ≠ j → r'.ledger m = r.ledger m
  catalog : (r'.ledger j).catalog = (r.ledger j).catalog
  ledger : (r.ledger j).ledger.AgreeBut x (r'.ledger j).ledger

/-- A realm in which a journal has been unwound. -/
theorem agreeBut_closed {r : Realm κ} {j : Nat} {s : Site} {x : InstanceHandle}
    (entries : List Entry) (h : (r.ledger j).ledger.AgreeBut x s.ledger) :
    r.AgreeBut j x ((r.appendTrace entries).closed j s) where
  rest := ⟨((r.appendTrace entries).closed j s).ledgers, entries ++ s.log.map .log, by
    simp [closed, appendTrace, putLedger]⟩
  others m hm := by simp [closed, hm]
  catalog := by simp [closed]
  ledger := by
    rw [ledger_closed]
    exact h

end Realm

end WorldForge

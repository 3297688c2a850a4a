import WorldForge.Proofs.Factory.Work

/-!
# What undoing leaves

The entries of a journal stand for side effects on a ledger. `Undo.Standing` says of a ledger that
it is an older one on which certain effects stand. Undoing one of them, whichever it is, takes this
effect out and leaves the others. So the invariant of an unwinding is that on the ledger stand the
effects that are still in the journal, and those of entries that have failed.

An entry fails only if a fault strikes in its place: on a sound ledger each undoing succeeds. Faults
do not see what the calls are about, so which entries fail can be told from the journal and the
faults alone.

Main results:

* `Standing.undo` — an effect that stands can be undone, and then the others stand;
* `unwound_standing` — after an unwinding stand the effects of the entries that failed;
* `Standing.eq_of_none`, `Standing.eq_of_some` — where no effect stands, the ledger is the old one
  but for a world that was made in vain.
-/

namespace WorldForge

namespace Undo

variable {c : Catalog} {l l₁ : Ledger} {handed : List InstanceHandle} {x : InstanceHandle}
  {w w₁ : World} {u : Undo} {p : Part} {older kept done parts : List Part}
  {before after effects journal : List Undo} {new? : Option World} {s : Site} {e : Error}

/-! ## Entries that run -/

/-- The call of the ledger that an undoing makes. -/
def call : Undo → LedgerCall
  | destroy _ => .destroy
  | deregister _ k _ => .deregister k

/-- Where no fault waits for the calls that undo, no entry of a journal is struck. -/
theorem outcomes_of_spared {faults : List Fault} (hDestroy : Fault.Spare faults .destroy)
    (hDeregister : ∀ k, Fault.Spare faults (.deregister k)) (journal : List Undo) :
    ∀ out ∈ (Fault.meetAll (journal.map call) faults).1, out = .ok () := by
  refine Fault.meetAll_of_spared fun c hCall => ?_
  obtain ⟨u, -, rfl⟩ := List.mem_map.1 hCall
  cases u with
  | destroy x => exact hDestroy
  | deregister x k t => exact hDeregister k

/-- What an undoing does on the ledger. -/
def onLedger : Undo → Ledger → Except LedgerError (Unit × Ledger)
  | destroy h, l => l.destroy (.handle h)
  | deregister world k given, l => l.deregister world k given

/-- An entry that meets a fault is not undone, and raises what the fault raises. The ledger stays as
it was. -/
theorem run_of_some (hMeet : (Fault.meet u.call s.faults).1 = some e) :
    u.run s = .error e (s.met u.call) := by
  cases u with
  | destroy h =>
    have hCall : Site.callBy (.handle h) none .destroy (fun l => l.destroy (.handle h)) s =
        .error e (s.met .destroy) := Site.callBy_of_some hMeet
    exact bind_of_error hCall
  | deregister world k given => exact Site.call_of_some hMeet

/-- An undoing that meets no fault does what it does on the ledger. -/
theorem run_of_none (hMeet : (Fault.meet u.call s.faults).1 = none)
    (hDone : u.onLedger s.ledger = .ok ((), l)) :
    ∃ log, u.run s = .ok () ⟨l, (Fault.meet u.call s.faults).2, log⟩ := by
  cases u with
  | destroy h =>
    have hCall : Site.callBy (.handle h) none .destroy (fun l => l.destroy (.handle h)) s =
        .ok () { s.met .destroy with ledger := l } :=
      Site.callBy_eq_ok_iff.2 ⟨hMeet, rfl, rfl, l, hDone, rfl⟩
    exact ⟨s.log ++ [.instanceDestroyed (.handle h)], bind_of_ok hCall⟩
  | deregister world k given =>
    have hEnd : Site.onLedger (fun l => l.deregister world k given) (s.met (.deregister k)) =
        .ok () { s.met (.deregister k) with ledger := l } :=
      Site.onLedger_eq_ok_iff.2 ⟨l, hDone, rfl⟩
    exact ⟨s.log, (Site.call_of_none hMeet).trans hEnd⟩

/-! ## Effects that stand -/

/-- **A ledger on which effects stand.** It is the ledger `l` with the effects that are listed,
oldest first: those of some parts in a live world, or of a new world and some parts in it. The new
world, which is given as it was deployed, may also have been destroyed while parts were left. -/
inductive Standing (c : Catalog) (l : Ledger) : Option World → List Undo → Ledger → Prop
  | idle : Standing c l none [] l
  | extended {x : InstanceHandle} {w w₁ : World} {parts : List Part}
      (hFind : l.worlds.find? x.key = some w) (hHandle : w.handle = x)
      (hDeclared : ∀ p ∈ parts, c.Declares p.1 p.2) (hExtends : w.Extends c parts w₁) :
      Standing c l none (parts.map (ofPart x)) (l.withWorld w₁)
  | made {t : Value} {name : Text} {executor : InstanceHandle} {w₁ : World} {parts : List Part}
      (hDeclared : ∀ p ∈ parts, c.Declares p.1 p.2)
      (hExtends : (World.bare l.allocator.fresh t name executor).Extends c parts w₁) :
      Standing c l (some (.bare l.allocator.fresh t name executor))
        (destroy l.allocator.fresh :: parts.map (ofPart l.allocator.fresh))
        ((l.withInstance t).withWorld w₁)
  | unmade {t : Value} {name : Text} {executor : InstanceHandle} {w₁ : World}
      {parts : List Part} (hDeclared : ∀ p ∈ parts, c.Declares p.1 p.2)
      (hExtends : (World.bare l.allocator.fresh t name executor).Extends c parts w₁) :
      Standing c l (some (.bare l.allocator.fresh t name executor))
        (parts.map (ofPart l.allocator.fresh)) (l.discarding w₁)

/-- A part is taken out of a world, whatever was registered after it. -/
theorem deregister_of_extends (hW : w.Faithful c)
    (hDeclared : ∀ q ∈ done ++ p :: kept, c.Declares q.1 q.2)
    (hExtends : w.Extends c (done ++ p :: kept) w₁) (hWorld : l₁.world? x = some w₁) :
    ∃ w₂, (ofPart x p).onLedger l₁ = .ok ((), l₁.putWorld w₂) ∧ w₂.handle = w₁.handle ∧
      w.Extends c (done ++ kept) w₂ := by
  obtain ⟨k, t⟩ := p
  obtain ⟨w₂, hDone, hLeft⟩ :=
    hExtends.deregister (hExtends.faithful hW hDeclared) (hDeclared (k, t) (by simp))
  have hHandle : w₂.handle = w₁.handle := by rw [hLeft.head.handle, hExtends.head.handle]
  refine ⟨w₂, ?_, hHandle, hLeft⟩
  show Ledger.deregister _ x k t = _
  rw [Ledger.deregister, hWorld]
  simp [hDone]

/-- A part is taken out of a live world. -/
theorem deregister_withWorld (hW : w.Faithful c) (hKey : w.handle.key = x.key)
    (hDeclared : ∀ q ∈ done ++ p :: kept, c.Declares q.1 q.2)
    (hExtends : w.Extends c (done ++ p :: kept) w₁) :
    ∃ w₂, (ofPart x p).onLedger (l.withWorld w₁) = .ok ((), l.withWorld w₂) ∧
      w.Extends c (done ++ kept) w₂ := by
  have hKey₁ : w₁.handle.key = x.key := by rw [hExtends.head.handle, hKey]
  have hFind : (l.withWorld w₁).worlds.find? x.key = some w₁ := by
    rw [← hKey₁]
    exact Ledger.find?_withWorld ..
  obtain ⟨w₂, hDone, hHandle, hLeft⟩ :=
    deregister_of_extends hW hDeclared hExtends (Ledger.world?_of_find? hFind)
  -- the world is among the live ones, and is written there again
  have hPut : (l.withWorld w₁).putWorld w₂ = l.withWorld w₂ := by
    rw [Ledger.putWorld_of_mem, Ledger.withWorld_withWorld _ hHandle]
    rw [hHandle, hKey₁]
    exact Table.mem_keys_iff.2 ⟨_, hFind⟩
  rw [hPut] at hDone
  exact ⟨w₂, hDone, hLeft⟩

/-- A part is taken out of a new world that has been destroyed. -/
theorem deregister_discarding (hW : w.Faithful c) (hKey : w.handle.key = x.key)
    (hDead : x.key ∉ l.worlds.keys) (hDeclared : ∀ q ∈ done ++ p :: kept, c.Declares q.1 q.2)
    (hExtends : w.Extends c (done ++ p :: kept) w₁) :
    ∃ w₂, (ofPart x p).onLedger (l.discarding w₁) = .ok ((), l.discarding w₂) ∧
      w.Extends c (done ++ kept) w₂ := by
  have hKey₁ : w₁.handle.key = x.key := by rw [hExtends.head.handle, hKey]
  rw [← hKey₁] at hDead
  -- a world that has been destroyed still answers for its parts
  have hFind : (l.discarding w₁).world? x = some w₁ := by
    rw [Ledger.world?_congr hKey₁.symm, Ledger.world?_discarding hDead]
  obtain ⟨w₂, hDone, hHandle, hLeft⟩ := deregister_of_extends hW hDeclared hExtends hFind
  rw [← hHandle] at hDead
  rw [Ledger.putWorld_discarding hHandle hDead] at hDone
  exact ⟨w₂, hDone, hLeft⟩

/-- Among the undoings of parts, each is that of one part. -/
theorem exists_part (h : before ++ u :: after = parts.map (ofPart x)) :
    ∃ done p kept, parts = done ++ p :: kept ∧ before = done.map (ofPart x) ∧ u = ofPart x p ∧
      after = kept.map (ofPart x) := by
  obtain ⟨done, rest, rfl, rfl, hRest⟩ := List.map_eq_append_iff.1 h.symm
  obtain ⟨p, kept, rfl, rfl, rfl⟩ := List.map_eq_cons_iff.1 hRest
  exact ⟨done, p, kept, rfl, rfl, rfl, rfl⟩

/-- Templates that are declared stay so if one of them is taken out of the row. -/
theorem declares_append_of_cons (h : ∀ q ∈ done ++ p :: kept, c.Declares q.1 q.2) :
    ∀ q ∈ done ++ kept, c.Declares q.1 q.2 := by
  intro q hq
  have hSub : (done ++ kept).Sublist (done ++ p :: kept) :=
    (List.sublist_cons_self p kept).append_left done
  exact h q (hSub.subset hq)

/-- **An effect that stands can be undone**, whatever other effects stand, and those stay. -/
theorem Standing.undo (hs : Ledger.Sound c l handed)
    (h : Standing c l new? (before ++ u :: after) l₁) :
    ∃ l₂, u.onLedger l₁ = .ok ((), l₂) ∧ Standing c l new? (before ++ after) l₂ := by
  generalize hEffects : before ++ u :: after = effects at h
  cases h with
  | idle => simp at hEffects
  | extended hFind hHandle hDeclared hExtends =>
    obtain ⟨done, p, kept, rfl, rfl, rfl, rfl⟩ := exists_part hEffects
    obtain ⟨w₂, hDone, hLeft⟩ := deregister_withWorld (hs.worlds hFind).2 (hs.handle_key hFind)
      hDeclared hExtends
    refine ⟨_, hDone, ?_⟩
    rw [← List.map_append]
    exact .extended hFind hHandle (declares_append_of_cons hDeclared) hLeft
  | made hDeclared hExtends =>
    cases before with
    -- the new world goes, with the parts that are left in it
    | nil =>
      simp only [List.nil_append, List.cons.injEq] at hEffects
      obtain ⟨rfl, rfl⟩ := hEffects
      exact ⟨_, hs.destroy_withInstance hExtends.head.handle, .unmade hDeclared hExtends⟩
    -- a part of it goes, and the new world stays alive
    | cons v before =>
      simp only [List.cons_append, List.cons.injEq] at hEffects
      obtain ⟨rfl, hEffects⟩ := hEffects
      obtain ⟨done, p, kept, rfl, rfl, rfl, rfl⟩ := exists_part hEffects
      obtain ⟨w₂, hDone, hLeft⟩ := deregister_withWorld (World.faithful_bare _ _ _) rfl
        hDeclared hExtends
      refine ⟨_, hDone, ?_⟩
      rw [List.cons_append, ← List.map_append]
      exact .made (declares_append_of_cons hDeclared) hLeft
  | unmade hDeclared hExtends =>
    obtain ⟨done, p, kept, rfl, rfl, rfl, rfl⟩ := exists_part hEffects
    obtain ⟨w₂, hDone, hLeft⟩ := deregister_discarding (World.faithful_bare _ _ _) rfl
      hs.fresh_not_mem_worlds hDeclared hExtends
    refine ⟨_, hDone, ?_⟩
    rw [← List.map_append]
    exact .unmade (declares_append_of_cons hDeclared) hLeft

/-- Where no effect stands and no world was made, nothing has happened. -/
theorem Standing.eq_of_none (h : Standing c l none [] l₁) : l₁ = l := by
  generalize hEffects : ([] : List Undo) = effects at h
  cases h with
  | idle => rfl
  | extended hFind hHandle _ hExtends =>
    obtain rfl := List.map_eq_nil_iff.1 hEffects.symm
    obtain rfl := hExtends.eq
    exact Ledger.withWorld_of_find? (by rw [hHandle]; exact hFind)

/-- Where no effect stands but a world was made, it was made in vain, and has nothing registered. -/
theorem Standing.eq_of_some (h : Standing c l (some w) [] l₁) :
    w.handle = l.allocator.fresh ∧ l₁ = l.discarding w := by
  generalize hEffects : ([] : List Undo) = effects at h
  cases h with
  | made => cases hEffects
  | unmade _ hExtends =>
    obtain rfl := List.map_eq_nil_iff.1 hEffects.symm
    obtain rfl := hExtends.eq
    exact ⟨rfl, rfl⟩

/-! ## What standing effects mean -/

/-- The parts in the world at a handle whose registration a journal undoes, in the journal's
order. -/
def partsIn (x : InstanceHandle) : List Undo → List Part :=
  List.filterMap fun
    | destroy _ => none
    | deregister y k t => if y.key = x.key then some (k, t) else none

/-- The entries of parts in a world are all found when one looks for those of this world. -/
theorem partsIn_map_ofPart {y : InstanceHandle} (hKey : y.key = x.key) :
    partsIn x (parts.map (ofPart y)) = parts := by
  simp [partsIn, ofPart, hKey, Function.comp_def]

/-- The entries of parts in one world are not found when one looks for those of another. -/
theorem partsIn_map_ofPart_of_ne {y : InstanceHandle} (hKey : y.key ≠ x.key) :
    partsIn x (parts.map (ofPart y)) = [] := by
  simp [partsIn, ofPart, hKey, Function.comp_def]

/-- A live world stays alive, and has the parts that stand in it besides those it had. -/
theorem Standing.live (hs : Ledger.Sound c l handed) (h : Standing c l new? effects l₁)
    (hFind : l.worlds.find? x.key = some w) :
    ∃ w₁, l₁.worlds.find? x.key = some w₁ ∧ w.Extends c (partsIn x effects) w₁ := by
  -- the next handle is not that of a live world, so a new world is another one
  have hOld : x.key ≠ l.allocator.fresh.key := by
    intro hEq
    exact hs.fresh_not_mem_worlds (hEq ▸ Table.mem_keys_iff.2 ⟨w, hFind⟩)
  cases h with
  | idle => exact ⟨w, hFind, .refl c w⟩
  | @extended y v w₁ parts hFound hHandle _ hExtends =>
    have hKey₁ : w₁.handle.key = y.key := by rw [hExtends.head.handle, hHandle]
    by_cases hSame : y.key = x.key
    · rw [hSame, hFind] at hFound
      cases hFound
      rw [partsIn_map_ofPart hSame]
      refine ⟨w₁, ?_, hExtends⟩
      rw [← hSame, ← hKey₁]
      exact Ledger.find?_withWorld ..
    · rw [partsIn_map_ofPart_of_ne hSame]
      refine ⟨w, ?_, .refl c w⟩
      rw [Ledger.withWorld, hKey₁, Table.find?_insert_of_ne _ _ (Ne.symm hSame)]
      exact hFind
  | @made t name executor w₁ parts _ hExtends =>
    have hNone : partsIn x (destroy l.allocator.fresh :: parts.map (ofPart l.allocator.fresh)) =
        [] := partsIn_map_ofPart_of_ne hOld.symm
    rw [hNone]
    refine ⟨w, ?_, .refl c w⟩
    rw [Ledger.withWorld, hExtends.head.handle]
    exact (Table.find?_insert_of_ne _ _ hOld).trans hFind
  | unmade _ hExtends =>
    rw [partsIn_map_ofPart_of_ne hOld.symm]
    exact ⟨w, hFind, .refl c w⟩

/-- The new world has the parts that stand in it and no others, whether it is alive or not. -/
theorem Standing.new (hs : Ledger.Sound c l handed) (h : Standing c l (some w) effects l₁) :
    (∃ t name executor, w = .bare l.allocator.fresh t name executor) ∧
      ∃ w₁, l₁.world? l.allocator.fresh = some w₁ ∧
        w.Extends c (partsIn l.allocator.fresh effects) w₁ := by
  cases h with
  | @made t name executor w₁ parts _ hExtends =>
    refine ⟨⟨_, _, _, rfl⟩, w₁, Ledger.world?_of_find? ?_, ?_⟩
    · have hHandle : w₁.handle = l.allocator.fresh := hExtends.head.handle
      rw [← hHandle]
      exact Ledger.find?_withWorld ..
    · have hParts : partsIn l.allocator.fresh
          (destroy l.allocator.fresh :: parts.map (ofPart l.allocator.fresh)) = parts :=
        partsIn_map_ofPart rfl
      rwa [hParts]
  -- a world that has been destroyed is still known at its handle
  | @unmade t name executor w₁ parts _ hExtends =>
    have hHandle : w₁.handle = l.allocator.fresh := hExtends.head.handle
    refine ⟨⟨_, _, _, rfl⟩, w₁, ?_, ?_⟩
    · rw [← hHandle]
      apply Ledger.world?_discarding
      rw [hHandle]
      exact hs.fresh_not_mem_worlds
    · rwa [partsIn_map_ofPart rfl]

/-- The next handle is in use exactly if the making of a world at it stands. -/
theorem Standing.isAlive_fresh_iff (hs : Ledger.Sound c l handed)
    (h : Standing c l new? effects l₁) :
    l₁.isAlive (.handle l.allocator.fresh) = true ↔ destroy l.allocator.fresh ∈ effects := by
  have hDead : l.allocator.isAlive l.allocator.fresh.key = false := by
    rw [← Bool.not_eq_true, Allocator.isAlive_iff]
    exact hs.fresh_not_mem_keys
  -- parts that are taken out again destroy nothing
  have hParts : ∀ (y : InstanceHandle) (parts : List Part),
      destroy l.allocator.fresh ∉ parts.map (ofPart y) := by
    intro y parts hMem
    obtain ⟨p, -, hp⟩ := List.mem_map.1 hMem
    cases hp
  rw [Ledger.isAlive, Value.key_handle]
  cases h with
  | idle => simp [hDead]
  | extended => simpa [Ledger.withWorld, hDead] using hParts _ _
  | made =>
    have hAlive : l.allocator.allocate.2.isAlive l.allocator.fresh.key = true :=
      Allocator.isAlive_iff.2 (Allocator.mem_keys_allocate.2 (.inr rfl))
    simpa [Ledger.withWorld, Ledger.withInstance] using hAlive
  | unmade =>
    have hSame : ({ l.allocator with next := .number (l.allocator.next.toInt + 1) } :
        Allocator).isAlive l.allocator.fresh.key = l.allocator.isAlive l.allocator.fresh.key := rfl
    simpa [Ledger.discarding, hSame, hDead] using hParts _ _

/-- A world stands at a handle only if it is the new one. -/
theorem Standing.new_of_mem (h : Standing c l new? effects l₁) (hMem : destroy x ∈ effects) :
    x = l.allocator.fresh ∧ ∃ v, new? = some v := by
  -- all other entries are about parts
  cases h with
  | idle => cases hMem
  | made =>
    rcases List.mem_cons.1 hMem with hHead | hTail
    · cases hHead
      exact ⟨rfl, _, rfl⟩
    · obtain ⟨p, -, hp⟩ := List.mem_map.1 hTail
      cases hp
  | _ =>
    obtain ⟨p, -, hp⟩ := List.mem_map.1 hMem
    cases hp

/-! ## Unwinding -/

/-- **After an unwinding stand the effects of the entries that failed**, and an entry has failed
exactly if it met a fault that struck. -/
theorem unwound_standing (hs : Ledger.Sound c l handed) (journal : List Undo) (s : Site)
    (kept : List Undo) (h : Standing c l new? (journal.reverse ++ kept) s.ledger) :
    ∃ s', Unwound Site.report text run s journal
        (Fault.meetAll (journal.map call) s.faults).1 s' ∧
      s'.faults = (Fault.meetAll (journal.map call) s.faults).2 ∧
      Standing c l new?
        ((leftover journal (Fault.meetAll (journal.map call) s.faults).1).reverse ++ kept)
        s'.ledger := by
  -- on the ledger stand the effects of the entries to come and those that have been kept
  induction journal generalizing s kept with
  | nil => exact ⟨s, .nil s, rfl, h⟩
  | cons u older ih =>
    rw [List.reverse_cons, List.append_assoc, List.singleton_append] at h
    cases hMeet : (Fault.meet u.call s.faults).1 with
    -- no fault strikes, and on a sound ledger the undoing succeeds
    | none =>
      obtain ⟨l₂, hDone, hLeft⟩ := h.undo hs
      obtain ⟨log, hRun⟩ := run_of_none hMeet hDone
      obtain ⟨s', hOlder, hFaults, hStanding⟩ :=
        ih ⟨l₂, (Fault.meet u.call s.faults).2, log⟩ kept hLeft
      refine ⟨s', ?_, hFaults, ?_⟩
      · rw [List.map_cons, Fault.meetAll, hMeet]
        exact .undone hRun hOlder
      · rw [List.map_cons, Fault.meetAll, hMeet]
        exact hStanding
    -- the entry's effect stays, before those that have stayed already
    | some e =>
      have hRun := run_of_some hMeet
      obtain ⟨s', hOlder, hFaults, hStanding⟩ :=
        ih ⟨s.ledger, (Fault.meet u.call s.faults).2, s.log ++ [.compensationFailed u.text]⟩
          (u :: kept) h
      refine ⟨s', ?_, hFaults, ?_⟩
      · rw [List.map_cons, Fault.meetAll, hMeet]
        exact .failed hRun rfl hOlder
      · rw [List.map_cons, Fault.meetAll, hMeet]
        simpa [leftover, Fault.verdict] using hStanding

end Undo

end WorldForge

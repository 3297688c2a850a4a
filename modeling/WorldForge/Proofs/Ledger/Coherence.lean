import Mathlib.Data.List.Induction
import WorldForge.Proofs.Ledger.History

/-!
# The parts of a ledger agree

The allocator, the templates of the live instances and the worlds are written apart from each other,
and the catalog grows beside them. In every reached ledger they agree: what is alive has a template,
the template is declared as one that is deployed, and it is a world's exactly if there is a world at
the handle (`Ledger.Coherent`).

A world is *known* from its deployment on, also after it has been destroyed. The executor of a
known world was alive when the world was deployed, and has been deployed from an executor's
template. It is never known as a world: no handle is given out twice, so what has once been an
executor stays none.

Main results:

* `Reached.coherent` — every reached ledger is coherent;
* `Scene.Effect.tidy` — a move leaves a ledger tidy, whatever its catalog;
* `Scene.known_after` — a known world stays known, and only its rosters change;
* `Scene.exists_deployment` — every known world has been deployed on a live executor.
-/

namespace WorldForge

namespace Ledger

variable {c c' : Catalog} {l l' : Ledger} {handed : List InstanceHandle} {h x : InstanceHandle}
  {w w' : World} {k : PartKind} {t given : Value} {d : Declaration}

/-! ## Known worlds -/

/-- After a world has been put among the live ones, it is what is known at its handle, and nothing
else has changed. -/
theorem world?_withWorld (l : Ledger) (w : World) (x : InstanceHandle) :
    (l.withWorld w).world? x = if x.key = w.handle.key then some w else l.world? x := by
  rw [world?, withWorld, Table.find?_insert]
  split <;> rfl

/-- A world that is put back is what is known at its handle, be it alive or retired, and nothing
else has changed. -/
theorem world?_putWorld (l : Ledger) (w : World) (x : InstanceHandle) :
    (l.putWorld w).world? x = if x.key = w.handle.key then some w else l.world? x := by
  by_cases hLive : w.handle.key ∈ l.worlds.keys
  · rw [putWorld_of_mem hLive, world?_withWorld]
  · rw [putWorld, if_neg (by rwa [Table.contains_iff]), world?, Table.find?_insert]
    split
    -- the world is not among the live ones, so that it is found among the others
    · rename_i hx
      rw [hx, Table.find?_eq_none_iff.2 hLive]
      rfl
    · rfl

/-- A world that is destroyed is still known: it goes over to the retired worlds with all that is
registered in it. -/
theorem world?_remove (l : Ledger) (k : Key) (a : Allocator) (x : InstanceHandle) :
    (l.remove k a).world? x = l.world? x := by
  rw [world?, world?]
  -- what is destroyed moves to the retired worlds, where it is still found
  by_cases hx : x.key = k
  · subst hx
    cases hFind : l.worlds.find? x.key with
    | none => simp [remove, hFind]
    | some w => simp [remove, hFind]
  · have hWorlds : (l.remove k a).worlds.find? x.key = l.worlds.find? x.key :=
      Table.find?_erase_of_ne _ hx
    have hRetired : (l.remove k a).retired.find? x.key = l.retired.find? x.key := by
      rw [remove]
      dsimp only
      split
      · rfl
      · exact Table.find?_insert_of_ne _ _ hx
    rw [hWorlds, hRetired]

/-- The next handle is none of a world that is known. -/
theorem Sound.world?_fresh (hs : Sound c l handed) : l.world? l.allocator.fresh = none := by
  rw [world?_of_not_mem hs.fresh_not_mem_worlds, Table.find?_eq_none_iff]
  intro hMem
  obtain ⟨-, h, hHanded, hKey⟩ := hs.retired_handed _ hMem
  exact hs.fresh_ne hHanded hKey

/-- A live instance that is no live world is not known as a world. -/
theorem Sound.world?_of_alive (hs : Sound c l handed) (hAlive : x.key ∈ l.allocator.keys)
    (hFree : x.key ∉ l.worlds.keys) : l.world? x = none := by
  rw [world?_of_not_mem hFree, Table.find?_eq_none_iff]
  exact fun hMem => (hs.retired_handed _ hMem).1 hAlive

/-- What is known as a world is the same after a deployment: a new world comes at a handle at which
none was known. -/
theorem Sound.world?_of_deploy (hs : Sound c l handed) (hDeploy : l.deploy c given args =
    .ok ((p, h), l')) (hKnown : l.world? x = some w) : l'.world? x = l.world? x := by
  cases deployed_of_deploy hDeploy with
  | executor t => rfl
  | world t name executor =>
    rw [world?_withWorld, if_neg]
    · rfl
    · intro hKey
      rw [world?_congr hKey] at hKnown
      cases (hs.world?_fresh).symm.trans hKnown

/-- What is alive has a number below the next one. -/
theorem Sound.number_lt (hs : Sound c l handed) (hAlive : x.key ∈ l.allocator.keys) :
    x.number < l.allocator.fresh.number := by
  obtain ⟨h, hHanded, hKey⟩ := hs.alive _ hAlive
  rw [← InstanceHandle.number_of_key hKey]
  exact hs.below h hHanded

/-- The handle of a known world has a number below the next one. -/
theorem Sound.number_lt_of_known (hs : Sound c l handed) (hKnown : l.world? x = some w) :
    w.handle.number < l.allocator.fresh.number := by
  have hKey := (hs.world? hKnown).1
  have hHanded : ∃ h ∈ handed, h.key = x.key := by
    by_cases hLive : x.key ∈ l.worlds.keys
    · exact hs.alive _ (hs.worlds_alive _ hLive)
    · rw [world?_of_not_mem hLive] at hKnown
      exact (hs.retired_handed _ (Table.mem_keys_iff.2 ⟨w, hKnown⟩)).2
  obtain ⟨h, hMem, hSame⟩ := hHanded
  rw [← InstanceHandle.number_of_key (hSame.trans hKey.symm)]
  exact hs.below h hMem

/-- A handle with a number below the next one is not the next one. -/
theorem ne_fresh_of_number_lt (h : x.number < l.allocator.fresh.number) :
    x.key ≠ l.allocator.fresh.key := by
  intro hKey
  have hNumber := InstanceHandle.number_of_key hKey
  omega

/-- **A tidy ledger** knows each world at the handle of the world, which comes before the next one.
-/
structure Tidy (l : Ledger) : Prop where
  own : ∀ {x w}, l.world? x = some w → w.handle.key = x.key
  below : ∀ {x w}, l.world? x = some w → x.number < l.allocator.fresh.number

/-- The ledger at the start knows no world, so there is nothing in it that could be untidy. -/
theorem tidy_empty : Tidy .empty where
  own hKnown := by cases hKnown
  below hKnown := by cases hKnown

/-- A sound ledger is tidy: what it knows stands at a handle that it has handed out, and these come
before the next one. -/
theorem Sound.tidy (hs : Sound c l handed) : l.Tidy where
  own hKnown := (hs.world? hKnown).1
  below {x w} hKnown := by
    rw [← InstanceHandle.number_of_key (hs.world? hKnown).1]
    exact hs.number_lt_of_known hKnown

/-- To put a world in the place of an older one, or at a handle that has been given out, leaves a
ledger tidy. -/
theorem Tidy.of_world? (h : l.Tidy)
    (hWorlds : ∀ x, l'.world? x = if x.key = w.handle.key then some w else l.world? x)
    (hNext : l.allocator.fresh.number ≤ l'.allocator.fresh.number)
    (hBelow : w.handle.number < l'.allocator.fresh.number) : l'.Tidy where
  own hKnown := by
    rw [hWorlds] at hKnown
    split at hKnown
    · rename_i hKey
      cases hKnown
      exact hKey.symm
    · exact h.own hKnown
  below hKnown := by
    rw [hWorlds] at hKnown
    split at hKnown
    · rename_i hKey
      rwa [InstanceHandle.number_of_key hKey]
    · exact Int.lt_of_lt_of_le (h.below hKnown) hNext

/-- A new instance moves the next handle upwards and leaves the worlds alone, so the ledger stays
tidy. -/
theorem Tidy.withInstance (h : l.Tidy) (t : Value) : (l.withInstance t).Tidy where
  own hKnown := h.own hKnown
  below hKnown := Int.lt_trans (h.below hKnown) (Int.lt_succ _)

/-- Changing the rosters of a known world leaves a ledger tidy. -/
theorem Tidy.putWorld (h : l.Tidy) (hKnown : l.world? x = some w) (hHead : w.SameHead w') :
    (l.putWorld w').Tidy := by
  have hBelow : w'.handle.number < (l.putWorld w').allocator.fresh.number := by
    rw [hHead.handle, InstanceHandle.number_of_key (h.own hKnown), allocator_putWorld]
    exact h.below hKnown
  refine h.of_world? (world?_putWorld l w') (Int.le_of_eq ?_) hBelow
  rw [allocator_putWorld]

/-- Nothing is known at the handle that comes next. A new world therefore takes the place of no
other one. -/
theorem Tidy.world?_fresh (h : l.Tidy) : l.world? l.allocator.fresh = none := by
  cases hKnown : l.world? l.allocator.fresh with
  | none => rfl
  | some w => exact absurd (h.below hKnown) (Int.lt_irrefl _)

/-! ## Intact ledgers -/

/-- How the order of the worlds, the templates and the executors of a ledger go together with the
rest of it. -/
structure Intact (c : Catalog) (l : Ledger) : Prop where
  ordered : l.allocator.alive.Pairwise fun x y => x.number < y.number
  /-- The live worlds are listed in the order of the live instances. -/
  listed : l.worlds.keys.Sublist l.allocator.keys
  /-- A live instance is of a declared template, and a world exactly if this is a world's. -/
  declared : ∀ {j t}, l.templates.find? j = some t → ∃ d, c.get? t = some d ∧
    (d.isOf .world = true ∧ j ∈ l.worlds.keys ∨ d.isOf .executor = true ∧ j ∉ l.worlds.keys)
  template : ∀ {j w}, l.worlds.find? j = some w → l.templates.find? j = some w.template
  /-- The executor of a known world is older than the world, and not known as a world. -/
  known : ∀ {x w}, l.world? x = some w →
    w.name ≠ "" ∧ w.executor.number < w.handle.number ∧ l.world? w.executor = none

/-- The ledger at the start is intact with any catalog, as it holds nothing. -/
theorem intact_empty (c : Catalog) : Intact c .empty where
  ordered := .nil
  listed := .slnil
  declared hFind := by cases hFind
  template hFind := by cases hFind
  known hFind := by cases hFind

namespace Intact

/-- One more declaration leaves a ledger intact: what has been declared before is still found in the
catalog. -/
theorem declare {kind name s : Value} {id : Option Value} (hi : Intact c l)
    (hDeclare : c.declare kind name id = .ok (s, c')) : Intact c' l where
  ordered := hi.ordered
  listed := hi.listed
  declared hFind := by
    obtain ⟨d, hGet, hKind⟩ := hi.declared hFind
    exact ⟨d, Catalog.get?_of_declare hDeclare hGet, hKind⟩
  template := hi.template
  known := hi.known

/-- The new handle comes last in the order of the live ones. -/
theorem ordered_allocate (hs : Sound c l handed) (hi : Intact c l) :
    l.allocator.allocate.2.alive.Pairwise fun x y => x.number < y.number := by
  show (l.allocator.alive ++ [l.allocator.fresh]).Pairwise _
  refine List.pairwise_append.2 ⟨hi.ordered, List.pairwise_singleton _ _, ?_⟩
  intro x hx y hy
  obtain rfl := List.mem_singleton.1 hy
  exact hs.number_lt (List.mem_map_of_mem hx)

theorem keys_allocate (a : Allocator) : a.allocate.2.keys = a.keys ++ [a.fresh.key] := by
  simp [Allocator.allocate, Allocator.keys]

/-- **The deployment of an executor** leaves a ledger intact. The new instance comes last, has a
declared template and is no world. -/
theorem withInstance (hs : Sound c l handed) (hi : Intact c l) (hGet : c.get? t = some d)
    (hKind : d.isOf .executor = true) : Intact c (l.withInstance t) where
  ordered := ordered_allocate hs hi
  listed := by
    show List.Sublist _ l.allocator.allocate.2.keys
    rw [keys_allocate]
    exact hi.listed.trans (List.sublist_append_left ..)
  declared := by
    intro j u hFind
    change (l.templates.insert _ t).find? j = some u at hFind
    rw [Table.find?_insert] at hFind
    split at hFind
    -- the new instance is that of an executor, and no world stands at its handle
    · rename_i hj
      cases hFind
      refine ⟨d, hGet, .inr ⟨hKind, ?_⟩⟩
      rw [hj]
      exact hs.fresh_not_mem_worlds
    · exact hi.declared hFind
  template := by
    intro j v hFind
    have hListed : j ∈ l.worlds.keys := Table.mem_keys_iff.2 ⟨v, hFind⟩
    have hNe : j ≠ l.allocator.fresh.key := fun hj => hs.fresh_not_mem_worlds (hj ▸ hListed)
    exact (Table.find?_insert_of_ne _ _ hNe).trans (hi.template hFind)
  known := hi.known

/-- The world that is deployed last is listed last, since nothing has stood at its handle before. -/
theorem keys_deployWorld {name : Text} (hs : Sound c l handed) :
    ((l.withInstance t).withWorld (.bare l.allocator.fresh t name x)).worlds.keys =
      l.worlds.keys ++ [l.allocator.fresh.key] :=
  Table.keys_insert_of_not_mem _ _ hs.fresh_not_mem_worlds

/-- The worlds that are known once another one has been deployed on a live executor. -/
theorem known_deployWorld {name : Text} (hs : Sound c l handed) (hi : Intact c l)
    (hName : name ≠ "") (hFree : x.key ∉ l.worlds.keys) (hAlive : x.key ∈ l.allocator.keys)
    {y : InstanceHandle}
    (hKnown : ((l.withInstance t).withWorld (.bare l.allocator.fresh t name x)).world? y = some w) :
    w.name ≠ "" ∧ w.executor.number < w.handle.number ∧
      ((l.withInstance t).withWorld (.bare l.allocator.fresh t name x)).world? w.executor =
        none := by
  rw [world?_withWorld] at hKnown ⊢
  have hOld : ∀ y : InstanceHandle, y.number < l.allocator.fresh.number →
      y.key ≠ (World.bare l.allocator.fresh t name x).handle.key :=
    fun y hLt => ne_fresh_of_number_lt hLt
  split at hKnown
  -- the executor of the new world is older, and has not been known as a world
  · cases hKnown
    have hBelow := hs.number_lt hAlive
    refine ⟨hName, hBelow, ?_⟩
    exact (if_neg (hOld _ hBelow)).trans (hs.world?_of_alive hAlive hFree)
  -- the executor of an older world is still older than the new handle
  · obtain ⟨hNamed, hOlder, hNone⟩ := hi.known hKnown
    have hBelow := hs.number_lt_of_known hKnown
    refine ⟨hNamed, hOlder, ?_⟩
    exact (if_neg (hOld _ (Int.lt_trans hOlder hBelow))).trans hNone

/-- **The deployment of a world** leaves a ledger intact. Its executor was alive, so it is older
than the world, and it was no world itself. -/
theorem deployWorld {name : Text} (hs : Sound c l handed) (hi : Intact c l)
    (hGet : c.get? t = some d) (hKind : d.isOf .world = true) (hName : name ≠ "")
    (hFree : x.key ∉ l.worlds.keys) (hAlive : x.key ∈ l.allocator.keys) :
    Intact c ((l.withInstance t).withWorld (.bare l.allocator.fresh t name x)) where
  ordered := ordered_allocate hs hi
  listed := by
    rw [keys_deployWorld hs]
    show List.Sublist _ l.allocator.allocate.2.keys
    rw [keys_allocate]
    exact hi.listed.append_right _
  declared := by
    intro j u hFind
    change (l.templates.insert _ t).find? j = some u at hFind
    rw [Table.find?_insert] at hFind
    rw [keys_deployWorld hs, List.mem_append, List.mem_singleton]
    split at hFind
    -- the new instance is that of a world, and its world comes last
    · rename_i hj
      cases hFind
      exact ⟨d, hGet, .inl ⟨hKind, .inr hj⟩⟩
    · rename_i hj
      obtain ⟨d', hGet', hOld⟩ := hi.declared hFind
      refine ⟨d', hGet', hOld.imp ?_ ?_⟩
      · rintro ⟨hKind', hMem⟩
        exact ⟨hKind', .inl hMem⟩
      · rintro ⟨hKind', hMem⟩
        exact ⟨hKind', fun hNew => hNew.elim hMem hj⟩
  template := by
    intro j v hFind
    change (l.worlds.insert l.allocator.fresh.key _).find? j = some v at hFind
    show (l.templates.insert l.allocator.fresh.key t).find? j = _
    rw [Table.find?_insert] at hFind ⊢
    split at hFind
    · rename_i hj
      cases hFind
      rw [if_pos hj]
      rfl
    · rename_i hj
      rw [if_neg hj]
      exact hi.template hFind
  known := known_deployWorld hs hi hName hFree hAlive

/-- Changing the rosters of a known world leaves a ledger intact. -/
theorem putWorld (hs : Sound c l handed) (hi : Intact c l) (hKnown : l.world? x = some w)
    (hHead : w.SameHead w') : Intact c (l.putWorld w') where
  ordered := by
    rw [allocator_putWorld]
    exact hi.ordered
  listed := by
    rw [keys_putWorld, allocator_putWorld]
    exact hi.listed
  declared hFind := by
    rw [templates_putWorld] at hFind
    rw [keys_putWorld]
    exact hi.declared hFind
  template := by
    intro j v hFind
    rw [templates_putWorld]
    rw [Ledger.putWorld] at hFind
    split at hFind
    · rename_i hLive
      rw [Table.find?_insert] at hFind
      split at hFind
      -- the world is a live one, whose template has not changed
      · rename_i hj
        cases hFind
        obtain ⟨u, hu⟩ := Table.mem_keys_iff.1 (Table.contains_iff.1 hLive)
        have hKey : x.key = w'.handle.key := by rw [hHead.handle, (hs.world? hKnown).1]
        rw [← hKey] at hu hj
        rw [world?_of_find? hu] at hKnown
        cases hKnown
        rw [hj, hHead.template]
        exact hi.template hu
      · exact hi.template hFind
    · exact hi.template hFind
  known := by
    intro y v hFind
    -- no handle becomes that of a world, since the handle of the world was one before
    have hNone : ∀ z, l.world? z = none → (l.putWorld w').world? z = none := by
      intro z hz
      rw [world?_putWorld, if_neg ?_, hz]
      intro hKey
      rw [hHead.handle, (hs.world? hKnown).1] at hKey
      rw [world?_congr hKey, hKnown] at hz
      cases hz
    rw [world?_putWorld] at hFind
    split at hFind
    · cases hFind
      obtain ⟨hNamed, hOlder, hFree⟩ := hi.known hKnown
      rw [hHead.name, hHead.executor, hHead.handle]
      exact ⟨hNamed, hOlder, hNone _ hFree⟩
    · obtain ⟨hNamed, hOlder, hFree⟩ := hi.known hFind
      exact ⟨hNamed, hOlder, hNone _ hFree⟩

/-- **A destruction** leaves a ledger intact. Template and world of the handle go together with the
handle, and a destroyed world is still known. -/
theorem destroy (hi : Intact c l) (hDestroy : l.destroy given = .ok ((), l')) : Intact c l' := by
  obtain ⟨-, rfl⟩ := destroy_eq_ok hDestroy
  exact
    { ordered := hi.ordered.filter _
      listed := by
        show (l.worlds.erase given.key).keys.Sublist _
        have hAlive : Allocator.keys
            { l.allocator with alive := l.allocator.alive.filter (·.key ≠ given.key) } =
              l.allocator.keys.filter (· ≠ given.key) := by
          rw [Allocator.keys, Allocator.keys, List.filter_map]
          rfl
        rw [Table.keys_erase]
        exact hAlive ▸ hi.listed.filter _
      -- whoever is left has its template as before, and is a world if it was one
      declared := by
        intro j u hFind
        change (l.templates.erase given.key).find? j = some u at hFind
        show ∃ d, _ ∧ (_ ∧ j ∈ (l.worlds.erase given.key).keys ∨ _)
        rw [Table.find?_erase] at hFind
        split at hFind
        · cases hFind
        · rename_i hj
          obtain ⟨d, hGet, hOld⟩ := hi.declared hFind
          have hMem : j ∈ (l.worlds.erase given.key).keys ↔ j ∈ l.worlds.keys := by
            rw [Table.keys_erase, List.mem_filter]
            simp [hj]
          refine ⟨d, hGet, ?_⟩
          show _ ∧ j ∈ (l.worlds.erase given.key).keys ∨
            _ ∧ j ∉ (l.worlds.erase given.key).keys
          rwa [hMem]
      template := by
        intro j v hFind
        change (l.worlds.erase given.key).find? j = some v at hFind
        show (l.templates.erase given.key).find? j = _
        rw [Table.find?_erase] at hFind ⊢
        split at hFind
        · cases hFind
        · rename_i hj
          rw [if_neg hj]
          exact hi.template hFind
      known := by
        intro y v hFind
        rw [world?_remove] at hFind ⊢
        exact hi.known hFind }

end Intact

/-- **Every reached ledger is intact.** Only a deployment adds an instance, at the end of all lists,
and only a destruction takes one away, from wherever it is listed. -/
theorem Reached.intact (h : Reached c l handed) : Intact c l := by
  induction h with
  | new _ => exact intact_empty _
  | declare _ hDeclare ih => exact ih.declare hDeclare
  | deploy hOld hDeploy ih =>
    cases planned_of_plan (deploy_eq_ok hDeploy).1 with
    | executor hGet hKind =>
      cases deployed_of_deploy hDeploy
      exact ih.withInstance hOld.sound hGet hKind
    | world hGet hKind hName _ hFree hAlive =>
      cases deployed_of_deploy hDeploy
      exact ih.deployWorld hOld.sound hGet hKind hName hFree hAlive
  | destroy _ hDestroy ih => exact ih.destroy hDestroy
  | register hOld hRegister ih =>
    -- no part changes the head of a world
    obtain ⟨w, w', hWorld, hDone, rfl⟩ := register_eq_ok hRegister
    exact ih.putWorld hOld.sound hWorld (World.extends_of_register hDone).head
  | deregister hOld hDeregister ih =>
    obtain ⟨w, w', hWorld, hDone, rfl⟩ := deregister_eq_ok hDeregister
    exact ih.putWorld hOld.sound hWorld ((hOld.sound.world? hWorld).2.of_deregister hDone).1

/-! ## Coherent ledgers -/

/-- Registrations can be made where a live world stands, and only there. -/
theorem dispatcher_eq_ok_iff {v : Value} :
    l.dispatcher v = .ok w ↔ l.worlds.find? v.key = some w := by
  rw [dispatcher, liveWorld?]
  cases l.worlds.find? v.key <;> simp

/-- A template is told of where an instance stands that was deployed from it. -/
theorem templateOf_eq_ok_iff {v : Value} :
    l.templateOf v = .ok t ↔ l.templates.find? v.key = some t := by
  rw [templateOf]
  cases l.templates.find? v.key <;> simp

/-- **A ledger is coherent**: what it answers to one question fits what it answers to the others,
and what is declared in its catalog. -/
structure Coherent (c : Catalog) (l : Ledger) : Prop where
  alive_iff : ∀ v, l.isAlive v = true ↔ ∃ t, l.templateOf v = .ok t
  /-- The live instances are those that have a template. -/
  instances_iff : ∀ v : Value,
    (∃ x ∈ l.allocator.alive, x.key = v.key) ↔ ∃ t, l.templateOf v = .ok t
  declared : ∀ v t, l.templateOf v = .ok t →
    ∃ d, c.get? t = some d ∧ (d.kind = .kind .world ∨ d.kind = .kind .executor)
  /-- Parts are registered exactly in what is alive and has a world's template. -/
  dispatched_iff : ∀ v, (∃ w, l.dispatcher v = .ok w) ↔
    l.isAlive v = true ∧
      ∃ t d, l.templateOf v = .ok t ∧ c.get? t = some d ∧ d.kind = .kind .world
  worlds_iff : ∀ w, w ∈ l.worlds.values ↔ ∃ v, l.dispatcher v = .ok w
  ascending : l.worlds.values.Pairwise fun v w => v.handle.number < w.handle.number
  handle : ∀ v w, l.dispatcher v = .ok w → w.handle.key = v.key
  template : ∀ v w, l.dispatcher v = .ok w → l.templateOf w.handle = .ok w.template
  named : ∀ v w, l.dispatcher v = .ok w → w.name ≠ ""
  /-- The executor of a world is older than the world, and no world itself. -/
  executor : ∀ v w, l.dispatcher v = .ok w →
    w.executor.number < w.handle.number ∧ ∀ u, l.dispatcher w.executor ≠ .ok u

/-- What is alive is what has a template. -/
theorem Sound.isAlive_iff (hs : Sound c l handed) (v : Value) :
    l.isAlive v = true ↔ ∃ t, l.templateOf v = .ok t := by
  rw [isAlive, Allocator.isAlive_iff, ← hs.templates, Table.mem_keys_iff]
  simp only [templateOf_eq_ok_iff]

/-- The worlds are listed in the order in which they have been deployed. -/
theorem Intact.ascending (hs : Sound c l handed) (hi : Intact c l) :
    l.worlds.values.Pairwise fun v w => v.handle.number < w.handle.number := by
  -- the keys of worlds are some of those of the live instances, which ascend
  have hAlive : l.allocator.keys.Pairwise
      fun j k => ∃ m n, j = Key.handle m ∧ k = Key.handle n ∧ m < n :=
    List.pairwise_map.2 (hi.ordered.imp fun h => ⟨_, _, rfl, rfl, h⟩)
  have hKeys : l.worlds.keys = l.worlds.values.map fun w => w.handle.key := by
    rw [Table.keys, Table.values, List.map_map]
    refine List.map_congr_left fun e he => ?_
    exact (hs.worlds (Table.mem_entries_iff.1 he)).1.symm
  have hWorlds := hAlive.sublist hi.listed
  rw [hKeys, List.pairwise_map] at hWorlds
  refine hWorlds.imp ?_
  rintro v w ⟨m, n, hm, hn, hLt⟩
  cases hm
  cases hn
  exact hLt

/-- There is a world exactly where something is alive that has a world's template. -/
theorem Intact.dispatched_iff (hs : Sound c l handed) (hi : Intact c l) (v : Value) :
    (∃ w, l.dispatcher v = .ok w) ↔ l.isAlive v = true ∧
      ∃ t d, l.templateOf v = .ok t ∧ c.get? t = some d ∧ d.kind = .kind .world := by
  simp only [dispatcher_eq_ok_iff, ← Table.mem_keys_iff]
  constructor
  · intro hWorld
    obtain ⟨t, hTemplate⟩ :=
      (hs.isAlive_iff v).1 (Allocator.isAlive_iff.2 (hs.worlds_alive _ hWorld))
    obtain ⟨d, hGet, hKind⟩ := hi.declared (templateOf_eq_ok_iff.1 hTemplate)
    refine ⟨(hs.isAlive_iff v).2 ⟨t, hTemplate⟩, t, d, hTemplate, hGet, ?_⟩
    -- a live instance of an executor's template is no world
    rcases hKind with ⟨hIsWorld, -⟩ | ⟨-, hNone⟩
    · exact Declaration.isOf_iff.1 hIsWorld
    · exact absurd hWorld hNone
  · rintro ⟨-, t, d, hTemplate, hGet, hIsWorld⟩
    obtain ⟨d', hGet', hKind⟩ := hi.declared (templateOf_eq_ok_iff.1 hTemplate)
    rw [hGet] at hGet'
    cases hGet'
    rcases hKind with ⟨-, hMem⟩ | ⟨hExecutor, -⟩
    · exact hMem
    · cases Declaration.isOf_unique (Declaration.isOf_iff.2 hIsWorld) hExecutor

/-- What is known of the executor of a world in which parts can be registered. -/
theorem Intact.executor_of_dispatcher (hs : Sound c l handed) (hi : Intact c l) {v : Value}
    (hWorld : l.dispatcher v = .ok w) :
    w.name ≠ "" ∧ w.executor.number < w.handle.number ∧ ∀ u, l.dispatcher w.executor ≠ .ok u := by
  -- the world is known by its own handle, at which it was found
  have hFind := dispatcher_eq_ok_iff.1 hWorld
  rw [← (hs.worlds hFind).1] at hFind
  obtain ⟨hNamed, hOlder, hNone⟩ := hi.known (world?_of_find? hFind)
  refine ⟨hNamed, hOlder, fun u hu => ?_⟩
  rw [dispatcher_eq_ok_iff, Value.key_handle] at hu
  rw [world?_of_find? hu] at hNone
  cases hNone

/-- **Every reached ledger is coherent**: what is alive, the templates and the worlds tell the same
of each handle, because each of them is changed for the same handle in the same call. -/
theorem Reached.coherent (h : Reached c l handed) : Coherent c l where
  alive_iff := h.sound.isAlive_iff
  instances_iff v := by
    rw [← h.sound.isAlive_iff, isAlive, Allocator.isAlive_iff, Allocator.keys, List.mem_map]
  declared v t hTemplate := by
    obtain ⟨d, hGet, hKind⟩ := h.intact.declared (templateOf_eq_ok_iff.1 hTemplate)
    refine ⟨d, hGet, hKind.imp ?_ ?_⟩
    · exact fun hWorld => Declaration.isOf_iff.1 hWorld.1
    · exact fun hExecutor => Declaration.isOf_iff.1 hExecutor.1
  dispatched_iff := h.intact.dispatched_iff h.sound
  worlds_iff w := by
    simp only [dispatcher_eq_ok_iff]
    rw [Table.mem_values_iff]
    constructor
    -- a world is found by its own handle
    · rintro ⟨j, hFind⟩
      refine ⟨.handle w.handle, ?_⟩
      rw [Value.key_handle, (h.sound.worlds hFind).1]
      exact hFind
    · rintro ⟨v, hFind⟩
      exact ⟨_, hFind⟩
  ascending := h.intact.ascending h.sound
  handle v w hWorld := (h.sound.worlds (dispatcher_eq_ok_iff.1 hWorld)).1
  template v w hWorld := by
    rw [dispatcher_eq_ok_iff] at hWorld
    rw [templateOf_eq_ok_iff, Value.key_handle, (h.sound.worlds hWorld).1]
    exact h.intact.template hWorld
  named v w hWorld := (h.intact.executor_of_dispatcher h.sound hWorld).1
  executor v w hWorld := (h.intact.executor_of_dispatcher h.sound hWorld).2

end Ledger

/-! ## Worlds in a history -/

theorem World.SameHead.refl (w : World) : w.SameHead w := ⟨rfl, rfl, rfl, rfl⟩

/-- What is known at a handle is the same as itself, apart from its rosters. This covers the moves
that do nothing to it. -/
theorem World.rel_self : (o : Option World) → Option.Rel World.SameHead o o
  | none => .none
  | some w => .some (.refl w)

/-- If a world is known before a move that changes rosters at most, then so it is afterwards. -/
theorem World.exists_of_rel_left {o : Option World} {w : World}
    (h : Option.Rel World.SameHead (some w) o) : ∃ w', o = some w' ∧ w.SameHead w' := by
  cases h with
  | some hHead => exact ⟨_, rfl, hHead⟩

/-- If a world is known after a move that changes rosters at most, then it was known before. -/
theorem World.exists_of_rel_right {o : Option World} {w' : World}
    (h : Option.Rel World.SameHead o (some w')) : ∃ w, o = some w ∧ w.SameHead w' := by
  cases h with
  | some hHead => exact ⟨_, rfl, hHead⟩

namespace Scene

variable {s s' : Scene} {m : Move} {moves more before rest : List Move}
  {out handed : List InstanceHandle} {c : Catalog} {x : InstanceHandle} {w w' : World}

/-- A move that deploys a world has a live executor for it, and the next handle. -/
structure Deploys (s : Scene) (m : Move) (w : World) : Prop where
  move : m = .deploy w.template [.str w.name, .handle w.executor]
  declared : ∃ d, s.catalog.get? w.template = some d
  handle : w.handle = s.ledger.allocator.fresh
  alive : w.executor.key ∈ s.ledger.allocator.keys
  notWorld : w.executor.key ∉ s.ledger.worlds.keys

/-- A world whose rosters have been changed is put back where it was known. -/
theorem rel_putWorld (hTidy : s.ledger.Tidy) (hKnown : s.ledger.world? x = some w)
    (hHead : w.SameHead w') (y : InstanceHandle) :
    Option.Rel World.SameHead (s.ledger.world? y) ((s.ledger.putWorld w').world? y) := by
  rw [Ledger.world?_putWorld]
  split
  · rename_i hKey
    rw [hHead.handle, hTidy.own hKnown] at hKey
    rw [Ledger.world?_congr hKey, hKnown]
    exact .some hHead
  · exact World.rel_self _

/-- **What a move does to the worlds that are known**: it changes rosters at most, or deploys one
world at a handle that was not known. -/
theorem Effect.worlds (h : s.Effect m s' out) (hTidy : s.ledger.Tidy) :
    (∀ x, Option.Rel World.SameHead (s.ledger.world? x) (s'.ledger.world? x)) ∨
      ∃ w, s.Deploys m w ∧
        ∀ x, s'.ledger.world? x = if x.key = w.handle.key then some w else s.ledger.world? x := by
  have hSame : ∀ x, Option.Rel World.SameHead (s.ledger.world? x) (s.ledger.world? x) :=
    fun x => World.rel_self _
  cases h with
  | refused => exact .inl hSame
  | declared => exact .inl hSame
  | deployed hDeploy =>
    have hPlanned := Ledger.planned_of_plan (Ledger.deploy_eq_ok hDeploy).1
    rcases Ledger.planned_values_cases hPlanned with
      ⟨rfl, rfl, -⟩ | ⟨name, y, rfl, rfl, ⟨d, hGet, -⟩, -, hFree, hAlive⟩
    · cases Ledger.deployed_of_deploy hDeploy
      exact .inl hSame
    · cases Ledger.deployed_of_deploy hDeploy
      exact .inr ⟨_, ⟨rfl, ⟨d, hGet⟩, rfl, hAlive, hFree⟩, Ledger.world?_withWorld _ _⟩
  -- what is destroyed is still known
  | destroyed hDestroy =>
    obtain ⟨-, rfl⟩ := Ledger.destroy_eq_ok hDestroy
    refine .inl fun x => ?_
    rw [Ledger.world?_remove]
    exact hSame x
  | registered hRegister =>
    obtain ⟨v, v', hWorld, hDone, rfl⟩ := Ledger.register_eq_ok hRegister
    exact .inl (rel_putWorld hTidy hWorld (World.extends_of_register hDone).head)
  | deregistered hDeregister =>
    obtain ⟨v, v', hWorld, hDone, rfl⟩ := Ledger.deregister_eq_ok hDeregister
    exact .inl (rel_putWorld hTidy hWorld (World.sameHead_of_deregister hDone))

/-- A known world was known before a move, or the move has deployed it. -/
theorem Effect.world_cases (h : s.Effect m s' out) (hTidy : s.ledger.Tidy)
    (hKnown : s'.ledger.world? x = some w') :
    (∃ w, s.ledger.world? x = some w ∧ w.SameHead w') ∨ s.Deploys m w' := by
  rcases h.worlds hTidy with hRel | ⟨w, hDeploys, hWorlds⟩
  · have hx := hRel x
    rw [hKnown] at hx
    exact .inl (World.exists_of_rel_right hx)
  · rw [hWorlds] at hKnown
    split at hKnown
    · cases hKnown
      exact .inr hDeploys
    · exact .inl ⟨w', hKnown, .refl w'⟩

/-- A known world stays known by a move, and only its rosters change. -/
theorem Effect.known (h : s.Effect m s' out) (hTidy : s.ledger.Tidy)
    (hKnown : s.ledger.world? x = some w) :
    ∃ w', s'.ledger.world? x = some w' ∧ w.SameHead w' := by
  rcases h.worlds hTidy with hRel | ⟨v, hDeploys, hWorlds⟩
  · have hx := hRel x
    rw [hKnown] at hx
    exact World.exists_of_rel_left hx
  -- the new world stands at a handle that was not known
  · refine ⟨w, ?_, .refl w⟩
    rw [hWorlds, if_neg ?_, hKnown]
    intro hKey
    rw [hDeploys.handle] at hKey
    rw [Ledger.world?_congr hKey, hTidy.world?_fresh] at hKnown
    cases hKnown

/-- **A move leaves a ledger tidy.** A world is known at its own handle, which was the next one when
it was deployed; neither registrations nor destructions touch the head of a world. -/
theorem Effect.tidy (h : s.Effect m s' out) (hTidy : s.ledger.Tidy) : s'.ledger.Tidy := by
  cases h with
  | refused => exact hTidy
  | declared => exact hTidy
  | deployed hDeploy =>
    cases Ledger.deployed_of_deploy hDeploy with
    | executor => exact hTidy.withInstance _
    | world =>
      exact (hTidy.withInstance _).of_world? (Ledger.world?_withWorld _ _) (Int.le_refl _)
        (Int.lt_succ _)
  | destroyed hDestroy =>
    obtain ⟨-, rfl⟩ := Ledger.destroy_eq_ok hDestroy
    -- what the ledger knows of worlds outlives their instances
    refine ⟨fun hKnown => ?_, fun hKnown => ?_⟩
    · rw [Ledger.world?_remove] at hKnown
      exact hTidy.own hKnown
    · rw [Ledger.world?_remove] at hKnown
      exact hTidy.below hKnown
  | registered hRegister =>
    obtain ⟨v, v', hWorld, hDone, rfl⟩ := Ledger.register_eq_ok hRegister
    exact hTidy.putWorld hWorld (World.extends_of_register hDone).head
  | deregistered hDeregister =>
    obtain ⟨v, v', hWorld, hDone, rfl⟩ := Ledger.deregister_eq_ok hDeregister
    exact hTidy.putWorld hWorld (World.sameHead_of_deregister hDone)

/-- A ledger stays tidy over any number of moves, as each of them leaves it so. -/
theorem tidy_after (hTidy : s.ledger.Tidy) (moves : List Move) : (s.after moves).ledger.Tidy := by
  induction moves generalizing s with
  | nil => exact hTidy
  | cons m rest ih => exact ih ((s.effect m).tidy hTidy)

/-- **A known world stays known**, and only its rosters change. -/
theorem known_after (hTidy : s.ledger.Tidy) (hKnown : s.ledger.world? x = some w)
    (moves : List Move) :
    ∃ w', (s.after moves).ledger.world? x = some w' ∧ w.SameHead w' := by
  induction moves generalizing s w with
  | nil => exact ⟨w, hKnown, .refl w⟩
  | cons m rest ih =>
    obtain ⟨w₁, hKnown₁, hHead⟩ := (s.effect m).known hTidy hKnown
    obtain ⟨w', hKnown', hHead'⟩ := ih ((s.effect m).tidy hTidy) hKnown₁
    exact ⟨w', hKnown', hHead.trans hHead'⟩

/-- **A scene in which a world can be deployed**: the next handle is that of the world, and the
executor of the world is a live one. -/
structure Ready (s : Scene) (w : World) : Prop where
  handle : w.handle = s.ledger.allocator.fresh
  alive : s.ledger.isAlive w.executor = true
  executor : ∃ t d, s.ledger.templateOf w.executor = .ok t ∧ s.catalog.get? t = some d ∧
    d.kind = .kind .executor

/-- What is alive and no world has been deployed from an executor's template. -/
theorem executor_of_alive (hReached : Ledger.Reached s.catalog s.ledger handed)
    (hAlive : x.key ∈ s.ledger.allocator.keys) (hFree : x.key ∉ s.ledger.worlds.keys) :
    ∃ t d, s.ledger.templateOf x = .ok t ∧ s.catalog.get? t = some d ∧
      d.kind = .kind .executor := by
  rw [← hReached.sound.templates, Table.mem_keys_iff] at hAlive
  obtain ⟨t, hTemplate⟩ := hAlive
  obtain ⟨d, hGet, hKind⟩ := hReached.intact.declared hTemplate
  refine ⟨t, d, Ledger.templateOf_eq_ok_iff.2 (by rwa [Value.key_handle]), hGet, ?_⟩
  rcases hKind with ⟨-, hMem⟩ | ⟨hExecutor, -⟩
  · exact absurd hMem hFree
  · exact Declaration.isOf_iff.1 hExecutor

/-- **Every known world has been deployed on a live executor**, somewhere in the history. -/
theorem exists_deployment (hCatalog : c.Reached) (moves : List Move)
    (hKnown : ((opening c).after moves).ledger.world? x = some w) :
    ∃ before rest,
      moves = before ++ .deploy w.template [.str w.name, .handle w.executor] :: rest ∧
        ((opening c).after before).Ready w := by
  -- over the history from its end: the last move has deployed the world, or it was known before
  induction moves using List.reverseRecOn generalizing w with
  | nil => cases hKnown
  | append_singleton moves m ih =>
    rw [after_append] at hKnown
    have hReached := reached_of_opening hCatalog moves
    rcases (((opening c).after moves).effect m).world_cases hReached.sound.tidy hKnown with
      ⟨v, hOld, hHead⟩ | hDeploys
    · obtain ⟨before, rest, hMoves, hReady⟩ := ih hOld
      refine ⟨before, rest ++ [m], ?_, ?_, ?_, ?_⟩
      · rw [hMoves, hHead.template, hHead.name, hHead.executor, List.append_assoc, List.cons_append]
      · rw [hHead.handle, hReady.handle]
      · rw [hHead.executor, hReady.alive]
      · rw [hHead.executor]
        exact hReady.executor
    · refine ⟨moves, [], by rw [hDeploys.move], hDeploys.handle, ?_,
        executor_of_alive hReached hDeploys.alive hDeploys.notWorld⟩
      rw [Ledger.isAlive, Value.key_handle]
      exact Allocator.isAlive_iff.2 hDeploys.alive

/-- **The executor of a known world is never known as a world**, at any time of a history in which
the world is known, nor in one that goes on. -/
theorem executor_not_known (hCatalog : c.Reached)
    (hKnown : ((opening c).after moves).ledger.world? x = some w)
    (hSplit : moves ++ more = before ++ rest) :
    ((opening c).after before).ledger.world? w.executor = none := by
  have hTidy : ∀ moves, ((opening c).after moves).ledger.Tidy :=
    fun moves => (reached_of_opening hCatalog moves).sound.tidy
  obtain ⟨w', hKnown', hHead⟩ := known_after (hTidy moves) hKnown more
  rw [← after_append, hSplit] at hKnown'
  have hNone := ((reached_of_opening hCatalog (before ++ rest)).intact.known hKnown').2.2
  rw [hHead.executor] at hNone
  -- had it been a world at any time, it would still be known as one
  cases hEarly : ((opening c).after before).ledger.world? w.executor with
  | none => rfl
  | some v =>
    obtain ⟨v', hLate, -⟩ := known_after (hTidy before) hEarly rest
    rw [← after_append, hNone] at hLate
    cases hLate

end Scene

end WorldForge

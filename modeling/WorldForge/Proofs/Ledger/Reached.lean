import WorldForge.Ledger.Basic
import WorldForge.Proofs.Ledger.Roster

/-!
# Reached ledgers

A ledger is reached from the one on which nothing has been deployed by its own operations, in any
order, while its catalog may grow meanwhile. `Ledger.Reached` keeps account of the handles that have
been given out on the way.

Four structures of a ledger are changed apart from each other: the allocator, the templates of the
live instances, the live worlds and the retired ones. `Ledger.Sound` says how they go together:
the handle that comes next has never been given out, an instance is alive exactly while its template
is kept, worlds stand under their own handles, and all of them are faithful to the catalog.

Main results:

* `Reached.sound` — every reached ledger is sound;
* `Sound.fresh_not_mem_keys` — the next handle is not in use;
* `Sound.destroy_withInstance` — destroying a world at the newest handle takes all back but the
  count.
-/

namespace WorldForge

/-- A handle is found by its number. -/
theorem InstanceHandle.number_of_key {x y : InstanceHandle} (h : x.key = y.key) :
    x.number = y.number := by
  simpa [InstanceHandle.key] using h

namespace Ledger

variable {c c' : Catalog} {l l' : Ledger} {handed : List InstanceHandle} {h x : InstanceHandle}
  {w w' : World} {k : PartKind} {t given template : Value} {d : Declaration}

/-! ## Parts of operations -/

/-- The ledger with a new instance of a template, which is alive at the next handle. -/
def withInstance (l : Ledger) (template : Value) : Ledger :=
  { l with
    allocator := l.allocator.allocate.2
    templates := l.templates.insert l.allocator.fresh.key template }

/-- The ledger with a world among the live ones, in the place of an older one at its handle. -/
def withWorld (l : Ledger) (w : World) : Ledger :=
  { l with worlds := l.worlds.insert w.handle.key w }

/-- The ledger after a world has been made at the next handle and destroyed again. -/
def discarding (l : Ledger) (w : World) : Ledger :=
  { l with
    allocator := { l.allocator with next := .number (l.allocator.next.toInt + 1) }
    retired := l.retired.insert w.handle.key w }

/-- An executor is placed by nothing but a new instance. -/
theorem place_executor (l : Ledger) (t : Value) :
    l.place (.executor t) = (l.allocator.fresh, l.withInstance t) := rfl

/-- A world is placed by a new instance and a bare world at its handle, in which nothing is
registered. -/
theorem place_world (l : Ledger) (t : Value) (name : Text) (executor : InstanceHandle) :
    l.place (.world t name executor) =
      (l.allocator.fresh,
        (l.withInstance t).withWorld (.bare l.allocator.fresh t name executor)) := rfl

/-- Of two worlds that are put at one handle, the second one stays. -/
theorem withWorld_withWorld (l : Ledger) (h : w'.handle = w.handle) :
    (l.withWorld w).withWorld w' = l.withWorld w' := by
  rw [withWorld, withWorld, withWorld, h]
  simp [Table.insert_insert]

/-- A world that was put among the live ones is found at its handle. -/
theorem find?_withWorld (l : Ledger) (w : World) :
    (l.withWorld w).worlds.find? w.handle.key = some w :=
  Table.find?_insert_self ..

theorem withWorld_of_find? (h : l.worlds.find? w.handle.key = some w) : l.withWorld w = l := by
  rw [withWorld, Table.insert_of_find? _ h]

/-- A world at a live handle is put back among the live ones. -/
theorem putWorld_of_mem (h : w.handle.key ∈ l.worlds.keys) : l.putWorld w = l.withWorld w := by
  rw [putWorld, if_pos (Table.contains_iff.2 h), withWorld]

/-- To put a world back brings no other handle among the live worlds, and takes none away. -/
theorem keys_putWorld (l : Ledger) (w : World) : (l.putWorld w).worlds.keys = l.worlds.keys := by
  rw [putWorld]
  split
  · rename_i hLive
    exact Table.keys_insert_of_mem _ _ (Table.contains_iff.1 hLive)
  · rfl

/-- To put a world back has nothing to do with the handles that are alive. -/
theorem allocator_putWorld (l : Ledger) (w : World) : (l.putWorld w).allocator = l.allocator := by
  rw [putWorld]
  split <;> rfl

/-- To put a world back has nothing to do with the templates of the live instances. -/
theorem templates_putWorld (l : Ledger) (w : World) : (l.putWorld w).templates = l.templates := by
  rw [putWorld]
  split <;> rfl

theorem world?_of_find? (h : l.worlds.find? x.key = some w) : l.world? x = some w := by
  rw [world?, h, Option.some_or]

/-- Where no live world stands, a retired one is known if there is one. -/
theorem world?_of_not_mem (h : x.key ∉ l.worlds.keys) : l.world? x = l.retired.find? x.key := by
  rw [world?, Table.find?_eq_none_iff.2 h, Option.none_or]

theorem world?_congr (hKey : h.key = x.key) : l.world? h = l.world? x := by
  rw [world?, world?, hKey]

/-- A world that is discarded is still known, as the retired one at its handle. -/
theorem world?_discarding (h : w.handle.key ∉ l.worlds.keys) :
    (l.discarding w).world? w.handle = some w := by
  have hDead : w.handle.key ∉ (l.discarding w).worlds.keys := h
  rw [world?_of_not_mem hDead, discarding, Table.find?_insert_self]

/-- A world that was made in vain can still be used. -/
theorem putWorld_discarding (h : w'.handle = w.handle) (hDead : w'.handle.key ∉ l.worlds.keys) :
    (l.discarding w).putWorld w' = l.discarding w' := by
  have hLive : (l.discarding w).worlds.contains w'.handle.key = false := by
    rw [← Bool.not_eq_true, Table.contains_iff]
    exact hDead
  -- so it is written among the retired ones, over the older one
  rw [putWorld, hLive, discarding, discarding, h]
  simp [Table.insert_insert]

/-- A deployment that succeeds has passed its checks, and was placed as it was planned. -/
theorem deploy_eq_ok {args : List Argument} {p : Plan}
    (hDeploy : l.deploy c given args = .ok ((p, h), l')) :
    l.plan c given args = .ok p ∧ l.place p = (h, l') := by
  rw [deploy] at hDeploy
  split at hDeploy
  · cases hDeploy
  · rename_i p' hPlan
    cases hDeploy
    exact ⟨hPlan, rfl⟩

/-- **What an accepted deployment makes of a ledger.** There is a new instance at the next handle,
and a bare world stands there if the template is a world's. -/
inductive Deployed (l : Ledger) : Plan → InstanceHandle → Ledger → Prop
  | executor (t : Value) : Deployed l (.executor t) l.allocator.fresh (l.withInstance t)
  | world (t : Value) (name : Text) (executor : InstanceHandle) :
      Deployed l (.world t name executor) l.allocator.fresh
        ((l.withInstance t).withWorld (.bare l.allocator.fresh t name executor))

/-- **What a deployment leaves**: an instance at the next handle, and a bare world there if it was
one's template. -/
theorem deployed_of_deploy {args : List Argument} {p : Plan}
    (hDeploy : l.deploy c given args = .ok ((p, h), l')) : l.Deployed p h l' := by
  obtain ⟨-, hPlace⟩ := deploy_eq_ok hDeploy
  cases p with
  | executor t =>
    rw [place_executor] at hPlace
    cases hPlace
    exact .executor t
  | world t name executor =>
    rw [place_world] at hPlace
    cases hPlace
    exact .world t name executor

theorem fresh_of_deploy {args : List Argument} {p : Plan}
    (hDeploy : l.deploy c given args = .ok ((p, h), l')) : h = l.allocator.fresh := by
  cases deployed_of_deploy hDeploy <;> rfl

/-- A deployment gives out the next handle, and does nothing else to the allocator. -/
theorem allocator_of_deploy {args : List Argument} {p : Plan}
    (hDeploy : l.deploy c given args = .ok ((p, h), l')) :
    l'.allocator = l.allocator.allocate.2 := by
  cases deployed_of_deploy hDeploy <;> rfl

/-- **What a destruction leaves**: the ledger without the handle, which was alive before. -/
theorem destroy_eq_ok (hDestroy : l.destroy given = .ok ((), l')) :
    given.key ∈ l.allocator.keys ∧
      l' = l.remove given.key
        { l.allocator with alive := l.allocator.alive.filter (·.key ≠ given.key) } := by
  rw [destroy] at hDestroy
  split at hDestroy
  · cases hDestroy
  · rename_i allocator hDead
    obtain ⟨hAlive, rfl⟩ := Allocator.deallocate?_eq_some_iff.1 hDead
    cases hDestroy
    exact ⟨hAlive, rfl⟩

/-- **What a registration leaves**: the world that is known at the handle, with the part in one of
its rosters. -/
theorem register_eq_ok (hRegister : l.register c x k t = .ok (d, l')) :
    ∃ w w', l.world? x = some w ∧ w.register c k t = .ok (d, w') ∧ l' = l.putWorld w' := by
  rw [register] at hRegister
  split at hRegister
  · cases hRegister
  · rename_i w hWorld
    split at hRegister
    · cases hRegister
    · rename_i d' w' hDone
      cases hRegister
      exact ⟨w, w', hWorld, hDone, rfl⟩

/-- **What a deregistration leaves**: the world that is known at the handle, without the part in one
of its rosters. -/
theorem deregister_eq_ok (hDeregister : l.deregister x k t = .ok ((), l')) :
    ∃ w w', l.world? x = some w ∧ w.deregister k t = .ok w' ∧ l' = l.putWorld w' := by
  rw [deregister] at hDeregister
  split at hDeregister
  · cases hDeregister
  · rename_i w hWorld
    split at hDeregister
    · cases hDeregister
    · rename_i w' hDone
      cases hDeregister
      exact ⟨w, w', hWorld, hDone, rfl⟩

/-! ## Sound ledgers -/

/-- How the parts of a ledger go together, given the handles that it has handed out. -/
structure Sound (c : Catalog) (l : Ledger) (handed : List InstanceHandle) : Prop where
  catalog : c.Consistent
  /-- The next handle comes after all that have been handed out. -/
  below : ∀ h ∈ handed, h.number < l.allocator.next.toInt
  alive : ∀ j ∈ l.allocator.keys, ∃ h ∈ handed, h.key = j
  templates : l.templates.keys = l.allocator.keys
  worlds_alive : ∀ j ∈ l.worlds.keys, j ∈ l.allocator.keys
  worlds : ∀ {j w}, l.worlds.find? j = some w → w.handle.key = j ∧ w.Faithful c
  retired_handed : ∀ j ∈ l.retired.keys, j ∉ l.allocator.keys ∧ ∃ h ∈ handed, h.key = j
  retired : ∀ {j w}, l.retired.find? j = some w → w.handle.key = j ∧ w.Faithful c

/-- The ledger at the start is sound with any consistent catalog, and has handed nothing out. -/
theorem sound_empty (h : c.Consistent) : Sound c .empty [] where
  catalog := h
  below _ hMem := by cases hMem
  alive _ hMem := by cases hMem
  templates := rfl
  worlds_alive _ hMem := by cases hMem
  worlds hFind := by cases hFind
  retired_handed _ hMem := by cases hMem
  retired hFind := by cases hFind

namespace Sound

/-- The next handle is none of those that have been handed out. -/
theorem fresh_ne (hs : Sound c l handed) (hMem : h ∈ handed) : h.key ≠ l.allocator.fresh.key := by
  intro hKey
  have hBelow := hs.below h hMem
  have hNumber := InstanceHandle.number_of_key hKey
  have hFresh : l.allocator.fresh.number = l.allocator.next.toInt := rfl
  omega

/-- The next handle is not in use. -/
theorem fresh_not_mem_keys (hs : Sound c l handed) :
    l.allocator.fresh.key ∉ l.allocator.keys := by
  intro hMem
  obtain ⟨h, hHanded, hKey⟩ := hs.alive _ hMem
  exact hs.fresh_ne hHanded hKey

/-- No live instance stands at the next handle, as that one has not been handed out. -/
theorem fresh_not_mem_templates (hs : Sound c l handed) :
    l.allocator.fresh.key ∉ l.templates.keys := by
  rw [hs.templates]
  exact hs.fresh_not_mem_keys

/-- No live world stands at the next handle, as that one has not been handed out. -/
theorem fresh_not_mem_worlds (hs : Sound c l handed) : l.allocator.fresh.key ∉ l.worlds.keys :=
  fun hMem => hs.fresh_not_mem_keys (hs.worlds_alive _ hMem)

/-- A live world stands under its own handle. -/
theorem handle_key (hs : Sound c l handed) (hWorld : l.worlds.find? x.key = some w) :
    w.handle.key = x.key :=
  (hs.worlds hWorld).1

/-! ## What operations keep -/

/-- One more declaration leaves a ledger sound, as the rosters of its worlds hold names that were
declared before. -/
theorem declare {kind name s : Value} {id : Option Value} (hs : Sound c l handed)
    (hReached : c'.Reached) (hDeclare : c.declare kind name id = .ok (s, c')) :
    Sound c' l handed where
  catalog := hReached.consistent
  below := hs.below
  alive := hs.alive
  templates := hs.templates
  worlds_alive := hs.worlds_alive
  worlds hFind := ⟨(hs.worlds hFind).1, (hs.worlds hFind).2.of_declare hDeclare⟩
  retired_handed := hs.retired_handed
  retired hFind := ⟨(hs.retired hFind).1, (hs.retired hFind).2.of_declare hDeclare⟩

/-- A new instance leaves a ledger sound, with one more handle handed out. -/
theorem withInstance (hs : Sound c l handed) (template : Value) :
    Sound c (l.withInstance template) (handed ++ [l.allocator.fresh]) where
  catalog := hs.catalog
  below := by
    intro h hMem
    show h.number < l.allocator.next.toInt + 1
    -- the count is higher by one, and so above the old handles and the new one
    rcases List.mem_append.1 hMem with hOld | hNew
    · have := hs.below h hOld
      omega
    · obtain rfl := List.mem_singleton.1 hNew
      have hFresh : l.allocator.fresh.number = l.allocator.next.toInt := rfl
      omega
  alive := by
    intro j hMem
    rcases Allocator.mem_keys_allocate.1 hMem with hOld | rfl
    · obtain ⟨h, hHanded, hKey⟩ := hs.alive j hOld
      exact ⟨h, List.mem_append_left _ hHanded, hKey⟩
    · exact ⟨l.allocator.fresh, by simp, rfl⟩
  templates := by
    show (l.templates.insert _ template).keys = l.allocator.allocate.2.keys
    -- the new key goes to the end in both
    rw [Table.keys_insert_of_not_mem _ _ hs.fresh_not_mem_templates, hs.templates]
    simp [Allocator.allocate, Allocator.keys]
  worlds_alive j hMem := Allocator.mem_keys_allocate.2 (.inl (hs.worlds_alive j hMem))
  worlds := hs.worlds
  retired_handed := by
    intro j hMem
    obtain ⟨hDead, h, hHanded, hKey⟩ := hs.retired_handed j hMem
    refine ⟨fun hAlive => ?_, h, List.mem_append_left _ hHanded, hKey⟩
    -- a retired handle has been handed out, so it is not the one that comes alive
    rcases Allocator.mem_keys_allocate.1 hAlive with hOld | rfl
    · exact hDead hOld
    · exact hs.fresh_ne hHanded hKey
  retired := hs.retired

/-- A world at a live handle leaves a ledger sound if its rosters tell names as they are
declared. -/
theorem withWorld (hs : Sound c l handed) (hAlive : w.handle.key ∈ l.allocator.keys)
    (hW : w.Faithful c) : Sound c (l.withWorld w) handed where
  catalog := hs.catalog
  below := hs.below
  alive := hs.alive
  templates := hs.templates
  worlds_alive := by
    intro j hMem
    obtain ⟨v, hFind⟩ := Table.mem_keys_iff.1 hMem
    rw [Ledger.withWorld, Table.find?_insert] at hFind
    split at hFind
    · rename_i hj
      rw [hj]
      exact hAlive
    · exact hs.worlds_alive j (Table.mem_keys_iff.2 ⟨v, hFind⟩)
  worlds := by
    intro j w' hFind
    rw [Ledger.withWorld, Table.find?_insert] at hFind
    split at hFind
    · rename_i hj
      cases hFind
      exact ⟨hj.symm, hW⟩
    · exact hs.worlds hFind
  retired_handed := hs.retired_handed
  retired := hs.retired

/-- Putting a changed world back where it was, alive or not, keeps a ledger sound. -/
theorem putWorld (hs : Sound c l handed) (hWorld : l.world? x = some w)
    (hHandle : w'.handle = w.handle) (hW : w'.Faithful c) : Sound c (l.putWorld w') handed := by
  by_cases hLive : w'.handle.key ∈ l.worlds.keys
  · rw [putWorld_of_mem hLive]
    exact hs.withWorld (hs.worlds_alive _ hLive) hW
  -- the world is not live, so it was found among the retired ones
  · have hRetired : l.retired.find? x.key = some w := by
      by_cases hx : x.key ∈ l.worlds.keys
      · obtain ⟨v, hv⟩ := Table.mem_keys_iff.1 hx
        rw [world?_of_find? hv] at hWorld
        cases hWorld
        rw [hHandle, hs.handle_key hv] at hLive
        exact absurd hx hLive
      · rwa [world?_of_not_mem hx] at hWorld
    have hKey : w'.handle.key = x.key := by rw [hHandle, (hs.retired hRetired).1]
    have hMem : x.key ∈ l.retired.keys := Table.mem_keys_iff.2 ⟨w, hRetired⟩
    have hPut : l.putWorld w' = { l with retired := l.retired.insert x.key w' } := by
      rw [Ledger.putWorld, if_neg (by rwa [Table.contains_iff]), hKey]
    rw [hPut]
    exact
      { catalog := hs.catalog
        below := hs.below
        alive := hs.alive
        templates := hs.templates
        worlds_alive := hs.worlds_alive
        worlds := hs.worlds
        retired_handed := by
          intro j hj
          rw [Table.keys_insert_of_mem _ _ hMem] at hj
          exact hs.retired_handed j hj
        retired := by
          intro j v hFind
          rw [Table.find?_insert] at hFind
          split at hFind
          · rename_i hj
            cases hFind
            exact ⟨hKey.trans hj.symm, hW⟩
          · exact hs.retired hFind }

/-- What dies is the given handle alone. -/
theorem mem_keys_of_dead {a : Allocator} {j k : Key} :
    j ∈ ({ a with alive := a.alive.filter (·.key ≠ k) } : Allocator).keys ↔
      j ∈ a.keys ∧ j ≠ k := by
  simp only [Allocator.keys, List.mem_map, List.mem_filter, decide_eq_true_eq]
  constructor
  · rintro ⟨h, ⟨hMem, hNe⟩, rfl⟩
    exact ⟨⟨h, hMem, rfl⟩, hNe⟩
  · rintro ⟨⟨h, hMem, rfl⟩, hNe⟩
    exact ⟨h, ⟨hMem, hNe⟩, rfl⟩

/-- A world that is retired after a removal was so before, or has been removed. -/
theorem find?_retired_remove {a : Allocator} {j k : Key}
    (hFind : (l.remove k a).retired.find? j = some w) :
    l.retired.find? j = some w ∨ j = k ∧ l.worlds.find? k = some w := by
  rw [remove] at hFind
  dsimp only at hFind
  -- only the world that is removed may be added to the retired ones
  split at hFind
  · exact .inl hFind
  · rename_i old hOld
    rw [Table.find?_insert] at hFind
    split at hFind
    · rename_i hj
      cases hFind
      exact .inr ⟨hj, hOld⟩
    · exact .inl hFind

/-- A destruction leaves a ledger sound. The handles that were handed out stay handed out. -/
theorem destroy (hs : Sound c l handed) (hDestroy : l.destroy given = .ok ((), l')) :
    Sound c l' handed := by
  obtain ⟨hAlive, rfl⟩ := destroy_eq_ok hDestroy
  exact
    { catalog := hs.catalog
      below := hs.below
      alive := fun j hj => hs.alive j (mem_keys_of_dead.1 hj).1
      templates := by
        show (l.templates.erase given.key).keys = _
        rw [Table.keys_erase, hs.templates, Allocator.keys, Allocator.keys, List.filter_map]
        rfl
      worlds_alive := by
        intro j hj
        change j ∈ (l.worlds.erase given.key).keys at hj
        rw [Table.keys_erase, List.mem_filter] at hj
        exact mem_keys_of_dead.2 ⟨hs.worlds_alive j hj.1, by simpa using hj.2⟩
      worlds := by
        intro j v hFind
        change (l.worlds.erase given.key).find? j = some v at hFind
        rw [Table.find?_erase] at hFind
        split at hFind
        · cases hFind
        · exact hs.worlds hFind
      retired_handed := by
        intro j hj
        obtain ⟨v, hv⟩ := Table.mem_keys_iff.1 hj
        -- a world that is retired now has died with its handle
        rcases find?_retired_remove hv with hOld | ⟨rfl, -⟩
        · obtain ⟨hDead, hHanded⟩ := hs.retired_handed j (Table.mem_keys_iff.2 ⟨v, hOld⟩)
          exact ⟨fun hj => hDead (mem_keys_of_dead.1 hj).1, hHanded⟩
        · exact ⟨fun hj => (mem_keys_of_dead.1 hj).2 rfl, hs.alive _ hAlive⟩
      retired := by
        intro j v hFind
        rcases find?_retired_remove hFind with hOld | ⟨rfl, hOld⟩
        · exact hs.retired hOld
        · exact hs.worlds hOld }

/-- The world at a handle, alive or not, stands under it and is faithful. -/
theorem world? (hs : Sound c l handed) (hWorld : l.world? x = some w) :
    w.handle.key = x.key ∧ w.Faithful c := by
  rcases Option.or_eq_some_iff.1 hWorld with hLive | ⟨-, hRetired⟩
  · exact hs.worlds hLive
  · exact hs.retired hRetired

/-- A deployment leaves a ledger sound, with the new handle behind those that were handed out
before. -/
theorem deploy {args : List Argument} {p : Plan} (hs : Sound c l handed)
    (hDeploy : l.deploy c given args = .ok ((p, h), l')) : Sound c l' (handed ++ [h]) := by
  cases deployed_of_deploy hDeploy with
  | executor t => exact hs.withInstance t
  -- the new world stands at the handle that has come alive for it
  | world t name executor =>
    exact (hs.withInstance t).withWorld (Allocator.mem_keys_allocate.2 (.inr rfl))
      (World.faithful_bare _ _ _)

/-- A registration leaves a ledger sound, as the new entry tells the declared name of its
template. -/
theorem register (hs : Sound c l handed) (hRegister : l.register c x k t = .ok (d, l')) :
    Sound c l' handed := by
  obtain ⟨w, w', hWorld, hDone, rfl⟩ := register_eq_ok hRegister
  obtain ⟨hGet, hKind, -⟩ := World.register_eq_ok_iff.1 hDone
  have hExtends := World.extends_of_register hDone
  refine hs.putWorld hWorld hExtends.head.handle (hExtends.faithful (hs.world? hWorld).2 ?_)
  intro p hp
  obtain rfl := List.mem_singleton.1 hp
  exact ⟨d, hGet, hKind⟩

/-- A deregistration leaves a ledger sound, as it only takes an entry away. -/
theorem deregister (hs : Sound c l handed) (hDeregister : l.deregister x k t = .ok ((), l')) :
    Sound c l' handed := by
  obtain ⟨w, w', hWorld, hDone, rfl⟩ := deregister_eq_ok hDeregister
  obtain ⟨hHead, hFaithful⟩ := (hs.world? hWorld).2.of_deregister hDone
  exact hs.putWorld hWorld hHead.handle hFaithful

/-! ## Taking a new world back -/

/-- **Destroying a world at the newest handle takes its deployment back**, but for the count of
handles and the world itself, which is kept among the retired ones. -/
theorem destroy_withInstance (hs : Sound c l handed) (hHandle : w.handle = l.allocator.fresh) :
    ((l.withInstance template).withWorld w).destroy (.handle l.allocator.fresh) =
      .ok ((), l.discarding w) := by
  have hDead : ((l.withInstance template).withWorld w).allocator.deallocate?
      (Value.handle l.allocator.fresh).key =
        some { l.allocator with next := .number (l.allocator.next.toInt + 1) } := by
    rw [Value.key_handle]
    exact Allocator.deallocate?_allocate hs.fresh_not_mem_keys
  have hFind :
      ((l.withInstance template).withWorld w).worlds.find? l.allocator.fresh.key = some w := by
    rw [← hHandle]
    exact find?_withWorld ..
  rw [Ledger.destroy, hDead]
  simp only [remove, Value.key_handle, hFind]
  simp only [Ledger.withWorld, Ledger.withInstance, Ledger.discarding, hHandle]
  -- the new keys came last, so that erasing them gives the old tables back
  rw [Table.erase_insert_of_not_mem _ _ hs.fresh_not_mem_templates,
    Table.erase_insert_of_not_mem _ _ hs.fresh_not_mem_worlds]

end Sound

/-! ## Reached ledgers -/

/-- The ledgers that come about on a catalog which may grow meanwhile, with the handles that have
been given out on the way, oldest first. -/
inductive Reached : Catalog → Ledger → List InstanceHandle → Prop
  | new {c : Catalog} (h : c.Reached) : Reached c .empty []
  | declare {c c' : Catalog} {l : Ledger} {handed : List InstanceHandle} {kind name t : Value}
      {id : Option Value} (h : Reached c l handed)
      (hDeclare : c.declare kind name id = .ok (t, c')) : Reached c' l handed
  | deploy {c : Catalog} {l l' : Ledger} {handed : List InstanceHandle} {given : Value}
      {args : List Argument} {p : Plan} {x : InstanceHandle} (h : Reached c l handed)
      (hDeploy : l.deploy c given args = .ok ((p, x), l')) : Reached c l' (handed ++ [x])
  | destroy {c : Catalog} {l l' : Ledger} {handed : List InstanceHandle} {given : Value}
      (h : Reached c l handed)
      (hDestroy : l.destroy given = .ok ((), l')) : Reached c l' handed
  | register {c : Catalog} {l l' : Ledger} {handed : List InstanceHandle} {x : InstanceHandle}
      {k : PartKind} {t : Value} {d : Declaration} (h : Reached c l handed)
      (hRegister : l.register c x k t = .ok (d, l')) : Reached c l' handed
  | deregister {c : Catalog} {l l' : Ledger} {handed : List InstanceHandle} {x : InstanceHandle}
      {k : PartKind} {t : Value} (h : Reached c l handed)
      (hDeregister : l.deregister x k t = .ok ((), l')) : Reached c l' handed

/-- The catalog of a reached ledger is a reached one. -/
theorem Reached.catalog (h : Reached c l handed) : c.Reached := by
  induction h with
  | new hCatalog => exact hCatalog
  | declare _ hDeclare ih => exact .declare ih hDeclare
  | deploy _ _ ih => exact ih
  | destroy _ _ ih => exact ih
  | register _ _ ih => exact ih
  | deregister _ _ ih => exact ih

/-- **Every reached ledger is sound.** -/
theorem Reached.sound (h : Reached c l handed) : Sound c l handed := by
  -- over the operations that have led to the ledger, each of which keeps it sound
  induction h with
  | new hCatalog => exact sound_empty hCatalog.consistent
  | declare hOld hDeclare ih => exact ih.declare (.declare hOld.catalog hDeclare) hDeclare
  | deploy _ hDeploy ih => exact ih.deploy hDeploy
  | destroy _ hDestroy ih => exact ih.destroy hDestroy
  | register _ hRegister ih => exact ih.register hRegister
  | deregister _ hDeregister ih => exact ih.deregister hDeregister

end Ledger

end WorldForge

import WorldForge.Proofs.Ledger.Coherence
import WorldForge.Proofs.Ledger.Lodging

/-!
# Arrivals

When a world is to be made on a ledger, it comes to one of three things: nothing happens, or the
next handle is used up by a world that is destroyed again, or the world lives (`Arrival`). Either
way nothing else on the ledger has changed, so the ledger after an arrival lies beside the ledger
before it, with the arrival as its lodger.

A second arrival does not depend on the first: it is the same as without it, up to the number of its
handle.

Main results:

* `beside_join` — what has arrived is a lodger;
* `eq_renumber_of_beside` — what arrives beside a lodger is what would have arrived without it.
-/

namespace WorldForge

/-- **What has come on a ledger of an attempt to make a world**: by a spawn or a deployment that
succeeds, or by one that fails and is rolled back, with or without having used up a handle. -/
inductive Arrival where
  /-- The attempt has failed before anything was deployed. -/
  | nothing
  /-- It has failed later on, and the world that was deployed has been destroyed again. -/
  | vain (w : World)
  /-- It has succeeded, and the world is alive. -/
  | made (template : Value) (w : World)

namespace Arrival

/-- The world that was deployed. -/
def world? : Arrival → Option World
  | nothing => none
  | vain w | made _ w => some w

/-- The world that was deployed, if any was, has this handle. So it is the additional instance when
the ledger is compared to the one before. -/
def At (a : Arrival) (h : InstanceHandle) : Prop := ∀ w, a.world? = some w → w.handle = h

/-- The handles that are given with an arrival. -/
def given : Arrival → List InstanceHandle
  | made _ w => [w.handle]
  | _ => []

/-- The same arrival at another handle. -/
def movedTo (h : InstanceHandle) : Arrival → Arrival
  | nothing => nothing
  | vain w => vain { w with handle := h }
  | made t w => made t { w with handle := h }

/-- How the handles behind an arrival are numbered. -/
def shift (a : Arrival) (m : Int) : Shift :=
  match a with
  | nothing => .none
  | vain _ | made .. => .above m

/-- What an arrival leaves on a ledger. -/
def lodgers : Arrival → Ledger.Lodgers
  | nothing => ⟨[], [], [], []⟩
  | vain w => ⟨[], [], [], [(w.handle.key, w)]⟩
  | made t w => ⟨[w.handle], [(w.handle.key, t)], [(w.handle.key, w)], []⟩

end Arrival

instance : Renumbers Arrival where
  renumber g := fun
    | .nothing => .nothing
    | .vain w => .vain (renumber g w)
    | .made t w => .made t (renumber g w)

/-- A ledger on which something has arrived. -/
def Ledger.join (l : Ledger) : Arrival → Ledger
  | .nothing => l
  | .vain w => l.discarding w
  | .made t w => (l.withInstance t).withWorld w

/-! ## Handles that keep their numbers -/

/-- What is older than an arrival keeps its number. -/
theorem Arrival.number_of_lt {a : Arrival} {m n : Int} (h : n < m) : (a.shift m).number n = n := by
  cases a with
  | nothing => rfl
  | _ => exact if_pos h

/-- What is older than an arrival is another one. -/
theorem Arrival.other_of_lt {a : Arrival} {m n : Int} (h : n < m) :
    (a.shift m).other n = false := by
  cases a with
  | nothing => rfl
  | _ => exact decide_eq_false (by omega)

/-- A renumbering leaves every handle on a ledger as it is. -/
structure Ledger.Fixed (g : Int → Int) (l : Ledger) : Prop where
  alive : ∀ x ∈ l.allocator.alive, renumber g x = x
  templates : ∀ e ∈ l.templates.entries, renumber g e.1 = e.1
  worlds : ∀ e ∈ l.worlds.entries, renumber g e.1 = e.1 ∧ renumber g e.2 = e.2
  retired : ∀ e ∈ l.retired.entries, renumber g e.1 = e.1 ∧ renumber g e.2 = e.2

namespace Ledger

variable {c : Catalog} {l l₁ m : Ledger} {handed : List InstanceHandle} {g : Int → Int}
  {φ : Shift} {lodgers : Lodgers} {a b : Arrival}

/-- A reached ledger has no handles that are not older than the next one. -/
theorem Reached.fixed (h : Reached c l handed)
    (hg : ∀ n, n < l.allocator.next.toInt → g n = n) : l.Fixed g := by
  have hs := h.sound
  have hi := h.intact
  have hAlive : ∀ x ∈ l.allocator.alive, renumber g x = x := by
    intro x hMem
    exact renumber_of_eq (hg _ (hs.number_lt (List.mem_map_of_mem hMem)))
  -- a world is older than the next handle, and its executor is older than the world
  have hWorld : ∀ {x w}, l.world? x = some w →
      renumber g w.handle.key = w.handle.key ∧ renumber g w = w := by
    intro x w hKnown
    have hBelow : w.handle.number < l.allocator.next.toInt := hs.number_lt_of_known hKnown
    have hOlder := (hi.known hKnown).2.1
    have hHandle : renumber g w.handle = w.handle := renumber_of_eq (hg _ hBelow)
    have hExecutor : renumber g w.executor = w.executor :=
      renumber_of_eq (hg _ (Int.lt_trans hOlder hBelow))
    refine ⟨by rw [← InstanceHandle.key_renumber, hHandle], ?_⟩
    show ({ w with handle := renumber g w.handle, executor := renumber g w.executor } : World) = w
    rw [hHandle, hExecutor]
  refine ⟨hAlive, ?_, ?_, ?_⟩
  · intro e he
    have hKey : e.1 ∈ l.allocator.keys := by
      rw [← hs.templates]
      exact List.mem_map_of_mem he
    obtain ⟨x, hMem, hx⟩ := List.mem_map.1 hKey
    rw [← hx, ← InstanceHandle.key_renumber, hAlive x hMem]
  · rintro ⟨j, w⟩ he
    have hFind := Table.mem_entries_iff.1 he
    obtain rfl := (hs.worlds hFind).1
    exact hWorld (world?_of_find? hFind)
  · rintro ⟨j, w⟩ he
    have hFind := Table.mem_entries_iff.1 he
    obtain rfl := (hs.retired hFind).1
    -- a retired world is not among the live ones
    have hDead : w.handle.key ∉ l.worlds.keys := fun hMem =>
      (hs.retired_handed _ (Table.mem_keys_iff.2 ⟨w, hFind⟩)).1 (hs.worlds_alive _ hMem)
    exact hWorld ((world?_of_not_mem hDead).trans hFind)

end Ledger

/-! ## What has arrived is a lodger -/

namespace Table

variable {ν : Type} {φ : Shift} {f : ν → ν} {lodgers : List (Key × ν)} {t u : Table Key ν}

/-- A table with nothing to renumber lies beside itself. -/
theorem beside_self
    (hFixed : ∀ e ∈ t.entries, renumber φ.number e.1 = e.1 ∧ f e.2 = e.2) :
    Beside φ f [] t t where
  -- every key keeps its number, so that none belongs to another handle
  lodgers := by
    rw [List.filter_eq_nil_iff]
    intro e he
    rw [← (hFixed e he).1, Shift.others_renumber]
    exact Bool.false_ne_true
  own := by
    have hAll : (t.entries.filter fun e => !φ.others e.1) = t.entries := by
      rw [List.filter_eq_self]
      intro e he
      rw [← (hFixed e he).1, Shift.others_renumber]
      rfl
    have hSame : t.entries.map (Prod.map (renumber φ.number) f) = t.entries := by
      conv_rhs => rw [← List.map_id t.entries]
      exact List.map_congr_left fun e he => Prod.ext (hFixed e he).1 (hFixed e he).2
    rw [hAll, hSame]

/-- A lodger comes last. -/
theorem Beside.lodge {k : Key} (h : Beside φ f lodgers t u) (hOther : φ.others k = true)
    (hNew : k ∉ t.keys) (v : ν) : Beside φ f (lodgers ++ [(k, v)]) (t.insert k v) u where
  lodgers := by
    rw [entries_insert_of_not_mem t v hNew, List.filter_append, h.lodgers]
    simp [hOther]
  own := by
    rw [entries_insert_of_not_mem t v hNew, List.filter_append, h.own]
    simp [hOther]

end Table

namespace Ledger

variable {c : Catalog} {l l₁ m : Ledger} {handed : List InstanceHandle} {g : Int → Int}
  {φ : Shift} {lodgers : Lodgers} {a b : Arrival}

/-- The next handle, renumbered, comes after the lodger that has taken its number. -/
theorem fresh_above (n : Numeral) :
    (⟨.number (n.toInt + 1)⟩ : InstanceHandle) =
      renumber (Shift.above n.toInt).number (⟨n⟩ : InstanceHandle) := by
  have hNumber : (Shift.above n.toInt).number n.toInt = n.toInt + 1 := if_neg (Int.lt_irrefl _)
  have hNe : (Shift.above n.toInt).number (InstanceHandle.number ⟨n⟩) ≠
      InstanceHandle.number ⟨n⟩ := by
    show (Shift.above n.toInt).number n.toInt ≠ n.toInt
    omega
  rw [renumber_of_ne hNe]
  show _ = InstanceHandle.ofInt ((Shift.above n.toInt).number n.toInt)
  rw [hNumber]
  rfl

/-- From the other handle on, numbers go on in steps of one, as they do without it. -/
theorem above_succ {m n : Int} (h : m ≤ n) :
    (Shift.above m).number (n + 1) = (Shift.above m).number n + 1 := by
  have h₁ : (Shift.above m).number (n + 1) = n + 1 + 1 := if_neg (by omega)
  have h₂ : (Shift.above m).number n = n + 1 := if_neg (by omega)
  rw [h₁, h₂]

/-- The handles alive on a ledger with nothing to renumber. -/
theorem Fixed.own (h : l.Fixed φ.number) :
    (l.allocator.alive.filter fun x => φ.other x.number) = [] ∧
      (l.allocator.alive.filter fun x => !φ.other x.number) =
        renumber φ.number l.allocator.alive := by
  -- handles that stay where they are belong to the ledger itself
  have hOwn : ∀ x ∈ l.allocator.alive, φ.other x.number = false := by
    intro x hMem
    rw [← h.alive x hMem, Shift.other_renumber]
  refine ⟨?_, ?_⟩
  · rw [List.filter_eq_nil_iff]
    intro x hMem
    rw [hOwn x hMem]
    exact Bool.false_ne_true
  · rw [List.filter_eq_self.2 fun x hMem => by rw [hOwn x hMem]; rfl]
    conv_lhs => rw [← List.map_id l.allocator.alive]
    exact List.map_congr_left fun x hMem => (h.alive x hMem).symm

/-- A handle that is put behind the live ones is found behind the lodgers, if it is one of them, and
the rest stays as it was. -/
theorem filter_lodge {x : InstanceHandle} (hOther : φ.other x.number = true)
    (alive : List InstanceHandle) :
    ((alive ++ [x]).filter fun y => φ.other y.number) =
        (alive.filter fun y => φ.other y.number) ++ [x] ∧
      ((alive ++ [x]).filter fun y => !φ.other y.number) =
        alive.filter fun y => !φ.other y.number := by
  simp [hOther]

/-- **What has arrived is a lodger**, and lies beside what was there before. -/
theorem beside_join (h : Reached c l handed) (hAt : a.At l.allocator.fresh) :
    (l.join a).Beside (a.shift l.allocator.next.toInt) a.lodgers l := by
  have hs := h.sound
  have hFixed : l.Fixed (a.shift l.allocator.next.toInt).number :=
    h.fixed fun n hn => Arrival.number_of_lt hn
  have hTemplates := Table.beside_self (f := id) fun e he => ⟨hFixed.templates e he, rfl⟩
  have hWorlds := Table.beside_self hFixed.worlds
  have hRetired := Table.beside_self hFixed.retired
  obtain ⟨hLodging, hAlive⟩ := hFixed.own
  have hOther : (Shift.above l.allocator.next.toInt).other l.allocator.fresh.number = true :=
    decide_eq_true rfl
  cases a with
  | nothing =>
    exact ⟨(renumber_of_eq rfl).symm, fun n _ => rfl, hLodging, hAlive, hTemplates, hWorlds,
      hRetired⟩
  | vain w =>
    have hKey : w.handle = l.allocator.fresh := hAt w rfl
    -- no world has been retired at a handle that was not given out
    have hNew : w.handle.key ∉ l.retired.keys := by
      intro hMem
      obtain ⟨-, x, hHanded, hx⟩ := hs.retired_handed _ hMem
      rw [hKey] at hx
      exact hs.fresh_ne hHanded hx
    refine ⟨fresh_above _, fun n hn => above_succ hn, hLodging, hAlive, hTemplates, hWorlds, ?_⟩
    refine hRetired.lodge ?_ hNew w
    rw [hKey]
    exact hOther
  | made t w =>
    have hKey : w.handle = l.allocator.fresh := hAt w rfl
    obtain ⟨hIn, hOut⟩ := filter_lodge hOther l.allocator.alive
    refine ⟨fresh_above _, fun n hn => above_succ hn, hIn.trans ?_, hOut.trans hAlive, ?_, ?_,
      hRetired⟩
    · show _ = [w.handle]
      rw [hKey]
      exact congrArg (· ++ [l.allocator.fresh]) hLodging
    · show Table.Beside _ id [(w.handle.key, t)] (l.templates.insert l.allocator.fresh.key t) _
      rw [hKey]
      refine hTemplates.lodge ?_ hs.fresh_not_mem_templates t
      exact hOther
    · refine hWorlds.lodge ?_ ?_ w
      · rw [hKey]
        exact hOther
      · rw [hKey]
        exact hs.fresh_not_mem_worlds

/-! ## What arrives beside a lodger -/

/-- The next handle after an arrival. -/
theorem number_fresh_join (l : Ledger) (a : Arrival) :
    (l.join a).allocator.fresh.number =
      l.allocator.fresh.number + match a with
        | .nothing => 0
        | _ => 1 := by
  cases a with
  | nothing => exact (Int.add_zero _).symm
  | _ => rfl

/-- What arrives can only move the next handle upwards, since a handle that was used up in vain is
not given out again. -/
theorem number_fresh_le_join (l : Ledger) (a : Arrival) :
    l.allocator.fresh.number ≤ (l.join a).allocator.fresh.number := by
  rw [number_fresh_join]
  split <;> omega

/-- Of what has arrived, only a live world is alive. -/
theorem isAlive_fresh_join (hDead : l.allocator.isAlive l.allocator.fresh.key = false)
    (a : Arrival) :
    (l.join a).allocator.isAlive l.allocator.fresh.key = match a with
      | .made .. => true
      | _ => false := by
  cases a with
  | made t w =>
    show Allocator.isAlive l.allocator.allocate.2 _ = true
    exact Allocator.isAlive_iff.2 (Allocator.mem_keys_allocate.2 (.inr rfl))
  | _ => exact hDead

/-- A world that was destroyed again is kept among the retired ones, at the handle that it used
up. -/
theorem find?_join_vain {w : World} (hAt : (Arrival.vain w).At l.allocator.fresh) :
    (l.join (.vain w)).retired.find? l.allocator.fresh.key = some w := by
  rw [← hAt w rfl]
  exact Table.find?_insert_self ..

/-- A world that has come to stay is found at its handle, with its template, among the live ones. -/
theorem find?_join_made {t : Value} {w : World} (hAt : (Arrival.made t w).At l.allocator.fresh) :
    (l.join (.made t w)).templates.find? l.allocator.fresh.key = some t ∧
      (l.join (.made t w)).worlds.find? l.allocator.fresh.key = some w := by
  refine ⟨Table.find?_insert_self .., ?_⟩
  rw [← hAt w rfl]
  exact Table.find?_insert_self ..

/-- **What arrives beside a lodger is what would have arrived without it**, up to the number of the
handle. -/
theorem eq_renumber_of_beside (hs : Sound c l handed) (h : l₁.Beside φ lodgers l)
    (hJoined : (l₁.join b).Beside φ lodgers (l.join a)) (hAt : a.At l.allocator.fresh)
    (hAt' : b.At l₁.allocator.fresh) : b = renumber φ.number a := by
  have hDead : l.allocator.isAlive l.allocator.fresh.key = false := by
    rw [← Bool.not_eq_true, Allocator.isAlive_iff]
    exact hs.fresh_not_mem_keys
  have hKey : l₁.allocator.fresh.key = renumber φ.number l.allocator.fresh.key := by
    rw [h.fresh, InstanceHandle.key_renumber]
  have hDead' : l₁.allocator.isAlive l₁.allocator.fresh.key = false := by
    rw [hKey, h.isAlive, hDead]
  -- as many handles are used up on either ledger, and the new one is alive on both or on none
  have hNext : l₁.allocator.fresh.number = φ.number l.allocator.fresh.number := by
    rw [h.fresh, number_renumber]
  have hUsed : (l₁.join b).allocator.fresh.number =
      φ.number (l.join a).allocator.fresh.number := by
    rw [hJoined.fresh, number_renumber]
  have hAlive := hJoined.isAlive l.allocator.fresh.key
  rw [← hKey, isAlive_fresh_join hDead', isAlive_fresh_join hDead] at hAlive
  rw [number_fresh_join, number_fresh_join, hNext] at hUsed
  have hStep := h.steady l.allocator.fresh.number (Int.le_refl _)
  cases a with
  | nothing =>
    cases b with
    | nothing => rfl
    | vain v =>
      simp only [Int.add_zero] at hUsed
      omega
    | made u v =>
      simp only [Int.add_zero] at hUsed
      omega
  | vain w =>
    cases b with
    | nothing =>
      simp only [Int.add_zero] at hUsed
      omega
    | made t v => cases hAlive
    | vain v =>
      have hFind := hJoined.retired.find? l.allocator.fresh.key
      rw [← hKey, find?_join_vain hAt', find?_join_vain hAt] at hFind
      rw [Option.some.inj hFind]
      rfl
  | made t w =>
    cases b with
    | nothing =>
      simp only [Int.add_zero] at hUsed
      omega
    | vain v => cases hAlive
    | made u v =>
      obtain ⟨hTemplate', hWorld'⟩ := find?_join_made hAt'
      obtain ⟨hTemplate, hWorld⟩ := find?_join_made hAt
      have hTemplates := hJoined.templates.find? l.allocator.fresh.key
      have hWorlds := hJoined.worlds.find? l.allocator.fresh.key
      rw [← hKey, hTemplate', hTemplate] at hTemplates
      rw [← hKey, hWorld', hWorld] at hWorlds
      rw [Option.some.inj hTemplates, Option.some.inj hWorlds]
      rfl

/-! ## What has arrived, and what was there -/

/-- What has arrived is known, also if it has been destroyed again. -/
theorem world?_join {w : World} (hs : Sound c l handed) (hAt : a.At l.allocator.fresh)
    (hw : a.world? = some w) : (l.join a).world? w.handle = some w := by
  cases a with
  | nothing => cases hw
  | vain v =>
    cases hw
    apply world?_discarding
    rw [hAt w rfl]
    exact hs.fresh_not_mem_worlds
  | made t v =>
    cases hw
    exact world?_of_find? (find?_withWorld (l.withInstance t) w)

/-- **Whoever was there before is as before.** An arrival takes the next handle and none of the
others, so it is not asked for when another one is. -/
theorem join_elsewhere {x : InstanceHandle} (hAt : a.At l.allocator.fresh)
    (hOld : x.number < l.allocator.fresh.number) :
    (l.join a).isAlive (.handle x) = l.isAlive (.handle x) ∧
      (l.join a).templateOf (.handle x) = l.templateOf (.handle x) ∧
      (l.join a).dispatcher (.handle x) = l.dispatcher (.handle x) ∧
      (l.join a).world? x = l.world? x := by
  have hNe : x.key ≠ l.allocator.fresh.key := ne_fresh_of_number_lt hOld
  cases a with
  | nothing => exact ⟨rfl, rfl, rfl, rfl⟩
  -- a world that was made in vain is among the retired ones, under its own handle
  | vain w =>
    refine ⟨rfl, rfl, rfl, ?_⟩
    rw [← hAt w rfl] at hNe
    exact congrArg ((l.worlds.find? x.key).or ·) (Table.find?_insert_of_ne _ _ hNe)
  | made t w =>
    have hTemplates : (l.join (.made t w)).templates.find? x.key = l.templates.find? x.key :=
      Table.find?_insert_of_ne _ _ hNe
    have hWorlds : (l.join (.made t w)).worlds.find? x.key = l.worlds.find? x.key := by
      rw [← hAt w rfl] at hNe
      exact Table.find?_insert_of_ne _ _ hNe
    refine ⟨?_, ?_, ?_, ?_⟩
    · rw [Bool.eq_iff_iff, isAlive, isAlive, Value.key_handle, Allocator.isAlive_iff,
        Allocator.isAlive_iff]
      refine Iff.trans Allocator.mem_keys_allocate ⟨fun h => ?_, .inl⟩
      exact h.resolve_right hNe
    · rw [templateOf, templateOf, Value.key_handle, hTemplates]
    · rw [dispatcher, dispatcher, liveWorld?, liveWorld?, Value.key_handle, hWorlds]
    · show (Table.find? _ _).or _ = _
      rw [hWorlds]
      rfl

/-- A world that has arrived has an older executor, so that all that is new about it in another
numbering is its handle. -/
theorem renumber_eq_movedTo {c' : Catalog} {handed' : List InstanceHandle} {h : InstanceHandle}
    (hs : Sound c l handed) (hAt : a.At l.allocator.fresh)
    (hReached : Reached c' (l.join a) handed') (hFresh : renumber g l.allocator.fresh = h)
    (hg : ∀ n, n < l.allocator.next.toInt → g n = n) : renumber g a = a.movedTo h := by
  have hWorld : ∀ w, a.world? = some w → renumber g w = { w with handle := h } := by
    intro w hw
    have hHandle : w.handle = l.allocator.fresh := hAt w hw
    -- the executor of a world is older than the world, so it keeps its number
    have hOlder := (hReached.intact.known (world?_join hs hAt hw)).2.1
    rw [hHandle] at hOlder
    show ({ w with handle := renumber g w.handle, executor := renumber g w.executor } : World) = _
    rw [hHandle, hFresh, renumber_of_eq (hg _ hOlder)]
  cases a with
  | nothing => rfl
  | vain w => exact congrArg Arrival.vain (hWorld w rfl)
  | made t w => exact congrArg (Arrival.made t) (hWorld w rfl)

end Ledger

end WorldForge

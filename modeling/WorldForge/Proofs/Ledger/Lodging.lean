import WorldForge.Proofs.Ledger.Reached
import WorldForge.Proofs.Ledger.Renumbering

/-!
# Ledgers with lodgers

Two ledgers have had the same history, except that on one of them some more handles were given out.
It has lodgers: what the other handles have left there, be it a live instance or a world that has
been retired. The rest of it is the second ledger with its handles renumbered, in the same order
(`Ledger.Beside`).

A call that does not name a lodger cannot tell the two ledgers apart. It is refused by both, or
accepted by both, it gives the same up to the numbers, and the lodgers are none the worse for it.

Main results:

* `Beside.deploy`, `Beside.destroy`, `Beside.dispatcher`, `Beside.register`, `Beside.deregister` —
  the calls of a ledger, one by one.
-/

namespace WorldForge

/-! ## Other handles -/

/-- How handles are renumbered between two ledgers when some more deployments have been made on one
of them. What was given the same turn on both has a handle with `number n` on the one and with `n`
on the other. `other` tells the handles of the additional deployments, which have no counterpart. -/
structure Shift where
  number : Int → Int
  /-- The other way round. -/
  back : Int → Int
  /-- The numbers of the other handles. -/
  other : Int → Bool
  back_number : ∀ n, back (number n) = n
  number_back : ∀ n, other n = false → number (back n) = n
  apart : ∀ n, other (number n) = false

namespace Shift

/-- No other handle was given out. -/
def none : Shift := ⟨id, id, fun _ => false, fun _ => rfl, fun _ _ => rfl, fun _ => rfl⟩

/-- One other handle was given out. -/
def above (m : Int) : Shift where
  number n := if n < m then n else n + 1
  back n := if n < m then n else n - 1
  other n := n = m
  back_number := by
    intro n
    by_cases hn : n < m
    · simp only [if_pos hn]
    · simp only [if_neg hn]
      rw [if_neg (by omega)]
      omega
  number_back := by
    intro n h
    rw [decide_eq_false_iff_not] at h
    by_cases hn : n < m
    · simp only [if_pos hn]
    · simp only [if_neg hn]
      rw [if_neg (by omega)]
      omega
  apart := by
    intro n
    rw [decide_eq_false_iff_not]
    split <;> omega

/-- What is found by one of the other handles. -/
def others (φ : Shift) : Key → Bool
  | .handle n => φ.other n
  | _ => false

variable {φ : Shift}

/-- Two handles of one ledger never go over into the same handle of the other one, as there is a way
back. -/
theorem injective (φ : Shift) : Function.Injective φ.number :=
  Function.LeftInverse.injective φ.back_number

@[simp] theorem others_renumber (k : Key) : φ.others (renumber φ.number k) = false := by
  cases k with
  | handle n => exact φ.apart n
  | _ => rfl

/-- Keys that are the same after renumbering were the same before. -/
theorem renumber_eq_iff {j k : Key} :
    renumber φ.number j = renumber φ.number k ↔ j = k :=
  (Key.renumber_injective φ.injective).eq_iff

@[simp] theorem others_key (h : InstanceHandle) : φ.others h.key = φ.other h.number := rfl

@[simp] theorem other_renumber (h : InstanceHandle) :
    φ.other (renumber φ.number h).number = false := by
  rw [number_renumber, φ.apart]

end Shift

/-! ## Tables with lodgers -/

section Lists

variable {ν : Type} {φ : Shift} {f : ν → ν} {j k : Key}

/-- In entries whose keys were renumbered, a renumbered key finds what the key found before. -/
theorem lookup_map_renumber (l : List (Key × ν)) :
    (l.map (Prod.map (renumber φ.number) f)).lookup (renumber φ.number k) =
      (l.lookup k).map f := by
  induction l with
  | nil => rfl
  | cons e rest ih =>
    rw [List.map_cons, List.lookup_cons, List.lookup_cons]
    -- different keys stay different
    by_cases he : k = e.1
    · subst he
      simp
    · have hNe : renumber φ.number k ≠ renumber φ.number e.1 := fun h =>
        he (Shift.renumber_eq_iff.1 h)
      rw [beq_eq_false_iff_ne.2 he, Prod.map_fst, beq_eq_false_iff_ne.2 hNe]
      exact ih

/-- To write under a renumbered key is the same as to write and renumber afterwards. The entry keeps
its place in the list. -/
theorem write_map_renumber (v : ν) (l : List (Key × ν)) :
    Table.write (renumber φ.number k) (f v) (l.map (Prod.map (renumber φ.number) f)) =
      (Table.write k v l).map (Prod.map (renumber φ.number) f) := by
  induction l with
  | nil => rfl
  | cons e rest ih =>
    by_cases he : e.1 = k
    · simp [Table.write, he]
    · have hNe : renumber φ.number e.1 ≠ renumber φ.number k := fun h =>
        he (Shift.renumber_eq_iff.1 h)
      simp [Table.write, he, hNe, ih]

end Lists

/-- **A table beside another one**: apart from its lodgers, it has the entries of the other one
under renumbered keys, in their order. -/
structure Table.Beside {ν : Type} (φ : Shift) (f : ν → ν) (lodgers : List (Key × ν))
    (t u : Table Key ν) : Prop where
  lodgers : (t.entries.filter fun e => φ.others e.1) = lodgers
  own : (t.entries.filter fun e => !φ.others e.1) =
    u.entries.map (Prod.map (renumber φ.number) f)

namespace Table.Beside

variable {ν : Type} {φ : Shift} {f : ν → ν} {lodgers : List (Key × ν)} {t u : Table Key ν}

/-- What is no lodger is found in both. -/
theorem find? (h : Beside φ f lodgers t u) (k : Key) :
    t.find? (renumber φ.number k) = (u.find? k).map f := by
  rw [Table.find?, ← Table.lookup_filter_of_pos (fun k => !φ.others k) (by simp), h.own,
    lookup_map_renumber]
  rfl

/-- A key is found in one table exactly if the renumbered one is found in the other. -/
theorem contains (h : Beside φ f lodgers t u) (k : Key) :
    t.contains (renumber φ.number k) = u.contains k := by
  rw [Table.contains, Table.contains, h.find?, Option.isSome_map]

/-- Tables that lie beside each other do so after the same entry has been put into both, each under
its own key. No lodger is in the way. -/
theorem insert (h : Beside φ f lodgers t u) (k : Key) (v : ν) :
    Beside φ f lodgers (t.insert (renumber φ.number k) (f v)) (u.insert k v) where
  lodgers := (Table.filter_write_of_neg φ.others (Shift.others_renumber k) (f v) _).trans h.lodgers
  own := by
    refine (Table.filter_write_of_pos (fun k => !φ.others k) (by simp) (f v) t.entries).trans ?_
    rw [h.own]
    exact write_map_renumber v u.entries

/-- Tables that lie beside each other do so after the same entry has been taken out of both. The
lodgers stay where they are. -/
theorem erase (h : Beside φ f lodgers t u) (k : Key) :
    Beside φ f lodgers (t.erase (renumber φ.number k)) (u.erase k) where
  lodgers := by
    -- no lodger is erased
    rw [← h.lodgers, Table.erase, List.filter_filter]
    refine List.filter_congr fun e _ => ?_
    by_cases he : e.1 = renumber φ.number k
    · simp [he]
    · simp [he]
  own := by
    have hComm : ((t.erase (renumber φ.number k)).entries.filter fun e => !φ.others e.1) =
        (t.entries.filter fun e => !φ.others e.1).filter fun e => e.1 ≠ renumber φ.number k :=
      filter_comm ..
    rw [hComm, h.own, List.filter_map]
    congr 1
    refine List.filter_congr fun e _ => ?_
    simp [Shift.renumber_eq_iff]

end Table.Beside

/-! ## Worlds under other handles

What is registered in a world has nothing to do with its handle. -/

namespace World

variable {g : Int → Int} {w : World} {k : PartKind} {c : Catalog} {given : Value}

/-- The rosters of a world do not tell its handle. -/
theorem roster_renumber : (renumber g w).roster k = w.roster k := by
  cases k <;> rfl

/-- A world can be given a roster before or after it is moved to another handle. -/
theorem withRoster_renumber (r : Roster) :
    (renumber g w).withRoster k r = renumber g (w.withRoster k r) := by
  cases k <;> rfl

/-- A world registers the same parts, and refuses them for the same reasons, at whatever handle it
stands. -/
theorem register_renumber :
    (renumber g w).register c k given = renumber g (w.register c k given) := by
  rw [register, register, roster_renumber]
  cases c.get? given with
  | none => rfl
  | some d =>
    dsimp only
    split
    · rfl
    · split
      · rfl
      · rw [withRoster_renumber]
        rfl

/-- A world deregisters the same parts, and refuses to for the same reasons, at whatever handle it
stands. -/
theorem deregister_renumber :
    (renumber g w).deregister k given = renumber g (w.deregister k given) := by
  rw [deregister, deregister, nameOf?, nameOf?, roster_renumber]
  split
  · rfl
  · rw [withRoster_renumber]
    rfl

end World

/-! ## Ledgers with lodgers -/

/-- **The additional instances on a ledger**, when it is compared to one on which fewer were
deployed: those that are alive, with their templates and their worlds, and the worlds that have been
destroyed. They are called lodgers, since they are on the ledger, but the comparison goes on as if
they were not. -/
structure Ledger.Lodgers where
  alive : List InstanceHandle
  templates : List (Key × Value)
  worlds : List (Key × World)
  retired : List (Key × World)

/-- **A ledger beside another one**: apart from its lodgers, it has the instances of the other one
under renumbered handles, in their order. Its next handle is that of the other one renumbered, and
so will those be that come next. -/
structure Ledger.Beside (φ : Shift) (lodgers : Ledger.Lodgers) (l m : Ledger) : Prop where
  fresh : l.allocator.fresh = renumber φ.number m.allocator.fresh
  steady : ∀ n, m.allocator.next.toInt ≤ n → φ.number (n + 1) = φ.number n + 1
  lodging : (l.allocator.alive.filter fun x => φ.other x.number) = lodgers.alive
  alive : (l.allocator.alive.filter fun x => !φ.other x.number) =
    renumber φ.number m.allocator.alive
  templates : Table.Beside φ id lodgers.templates l.templates m.templates
  worlds : Table.Beside φ (renumber φ.number) lodgers.worlds l.worlds m.worlds
  retired : Table.Beside φ (renumber φ.number) lodgers.retired l.retired m.retired

/-- How a call comes out on two ledgers that lie beside each other: it is refused by both, or
accepted by both, and they still lie beside each other. -/
inductive Ledger.ComesOut {α : Type} [Renumbers α] (φ : Shift) (lodgers : Ledger.Lodgers) :
    Except LedgerError (α × Ledger) → Except LedgerError (α × Ledger) → Prop
  | refused (e : LedgerError) : ComesOut φ lodgers (.error (renumber φ.number e)) (.error e)
  | accepted (a : α) {l m : Ledger} (h : l.Beside φ lodgers m) :
      ComesOut φ lodgers (.ok (renumber φ.number a, l)) (.ok (a, m))

namespace Ledger

variable {φ : Shift} {lodgers : Lodgers} {l m : Ledger} {c : Catalog} {given v : Value}
  {h : InstanceHandle} {w : World} {k : PartKind}

/-- The arguments of a deployment with an instance for its executor. What comes first is a name. -/
def renumberArguments (g : Int → Int) : List Value → List Value
  | [] => []
  | name :: rest => name :: renumber g rest

namespace Beside

/-! ### Questions -/

/-- An instance is alive on one ledger exactly if its counterpart is alive on the other. -/
theorem isAlive (h : l.Beside φ lodgers m) (k : Key) :
    l.allocator.isAlive (renumber φ.number k) = m.allocator.isAlive k := by
  rw [Bool.eq_iff_iff, Allocator.isAlive_iff, Allocator.isAlive_iff, Allocator.keys,
    Allocator.keys, List.mem_map, List.mem_map]
  constructor
  · rintro ⟨x, hMem, hKey⟩
    -- a lodger has another key, so the instance is one of the renumbered ones
    have hOwn : φ.other x.number = false := by
      rw [← Shift.others_key, hKey, Shift.others_renumber]
    have hMem' : x ∈ renumber φ.number m.allocator.alive := by
      rw [← h.alive, List.mem_filter]
      exact ⟨hMem, by rw [hOwn]; rfl⟩
    obtain ⟨y, hy, rfl⟩ := List.mem_map.1 hMem'
    rw [InstanceHandle.key_renumber, Shift.renumber_eq_iff] at hKey
    exact ⟨y, hy, hKey⟩
  · rintro ⟨y, hMem, rfl⟩
    have hMem' : renumber φ.number y ∈ renumber φ.number m.allocator.alive :=
      List.mem_map_of_mem hMem
    rw [← h.alive, List.mem_filter] at hMem'
    exact ⟨_, hMem'.1, InstanceHandle.key_renumber y⟩

/-- At handles that correspond the same worlds are known, up to their handles. -/
theorem world? (h : l.Beside φ lodgers m) (x : InstanceHandle) :
    l.world? (renumber φ.number x) = renumber φ.number (m.world? x) := by
  rw [Ledger.world?, Ledger.world?, InstanceHandle.key_renumber, h.worlds.find?, h.retired.find?]
  cases m.worlds.find? x.key <;> rfl

/-- The look-up of a live world has the same outcome on both ledgers, up to the handles in the world
and in the refusal. -/
theorem dispatcher (h : l.Beside φ lodgers m) (v : Value) :
    l.dispatcher (renumber φ.number v) = renumber φ.number (m.dispatcher v) := by
  rw [Ledger.dispatcher, Ledger.dispatcher, liveWorld?, liveWorld?, Value.key_renumber,
    h.worlds.find?]
  cases m.worlds.find? v.key <;> rfl

/-! ### Deployment -/

/-- An instance can be an executor on one ledger exactly if its counterpart can on the other. -/
theorem isLiveExecutor (h : l.Beside φ lodgers m) (x : InstanceHandle) :
    l.isLiveExecutor (renumber φ.number x) = m.isLiveExecutor x := by
  rw [Ledger.isLiveExecutor, Ledger.isLiveExecutor, InstanceHandle.key_renumber, h.worlds.contains,
    h.isAlive]

/-- An argument is taken for an executor on both ledgers or refused by both, up to the handle that
it tells. -/
theorem executorFrom (h : l.Beside φ lodgers m) (v : Value) :
    l.executorFrom (.value (renumber φ.number v)) =
      renumber φ.number (m.executorFrom (.value v)) := by
  cases v with
  | handle x =>
    rw [renumber_handle, Ledger.executorFrom, Ledger.executorFrom, h.isLiveExecutor]
    split <;> rfl
  | _ => rfl

/-- The arguments for a world are accepted by both ledgers or refused by both for the same
reason. -/
theorem checkWorldArguments (h : l.Beside φ lodgers m) (t : Value) (args : List Value) :
    l.checkWorldArguments t (Argument.values (renumberArguments φ.number args)) =
      renumber φ.number (m.checkWorldArguments t (Argument.values args)) := by
  match args with
  | [] | [_] => rfl
  | [name, executor] =>
    show l.checkWorldArguments t [.value name, .value (renumber φ.number executor)] =
      renumber φ.number (m.checkWorldArguments t [.value name, .value executor])
    rw [Ledger.checkWorldArguments, Ledger.checkWorldArguments, h.executorFrom]
    -- what comes first is looked at first, and is no instance
    cases name with
    | str text =>
      by_cases hText : text = ""
      · simp only [nameFrom, hText, if_true]
        rfl
      · simp only [nameFrom, hText, if_false]
        cases m.executorFrom (.value executor) <;> rfl
    | _ => rfl
  -- too many arguments are counted, and nothing else is looked at
  | v :: v₁ :: v₂ :: rest =>
    have hMany : ∀ (l : Ledger) (v₁ v₂ : Value) (rest : List Value),
        l.checkWorldArguments t (Argument.values (v :: v₁ :: v₂ :: rest)) =
          .error (.worldArguments (rest.length + 3)) := by
      intro l v₁ v₂ rest
      show Except.error (LedgerError.worldArguments (List.length _)) = _
      simp
    show l.checkWorldArguments t (Argument.values (v :: renumber φ.number (v₁ :: v₂ :: rest))) = _
    rw [renumber_cons, renumber_cons, hMany, hMany, length_renumber]
    rfl

/-- A deployment is planned by both ledgers or refused by both. The catalog decides about the
template, and it has no handles in it. -/
theorem plan (h : l.Beside φ lodgers m) (c : Catalog) (given : Value) (args : List Value) :
    l.plan c given (Argument.values (renumberArguments φ.number args)) =
      renumber φ.number (m.plan c given (Argument.values args)) := by
  rw [Ledger.plan, Ledger.plan, deployable]
  cases c.get? given with
  | none => rfl
  | some d =>
    by_cases hDeployable : d.isDeployable = true
    · simp only [hDeployable, if_true, checkArguments]
      by_cases hWorld : d.isOf .world = true
      · simp only [hWorld, if_true]
        exact h.checkWorldArguments given args
      -- an executor takes no arguments, whatever they name
      · simp only [hWorld]
        cases args with
        | nil => rfl
        | cons name rest =>
          show Except.error (LedgerError.executorArguments _) = Except.error _
          rw [renumberArguments, List.length_map, List.length_cons, length_renumber,
            List.length_map]
          rfl
    · simp only [hDeployable]
      rfl

/-- A new instance gets the next handle, which is no lodger's. -/
theorem withInstance (h : l.Beside φ lodgers m) (t : Value) :
    (l.withInstance t).Beside φ lodgers (m.withInstance t) where
  fresh := by
    have hNext : l.allocator.next.toInt = φ.number m.allocator.next.toInt := by
      have hNumber := congrArg InstanceHandle.number h.fresh
      rwa [number_renumber] at hNumber
    show InstanceHandle.ofInt (l.allocator.next.toInt + 1) =
      renumber φ.number (.ofInt (m.allocator.next.toInt + 1))
    rw [renumber_ofInt, hNext, h.steady _ (Int.le_refl _)]
  steady n hn := by
    have hMore : m.allocator.next.toInt + 1 ≤ n := hn
    exact h.steady n (by omega)
  lodging := by
    show (l.allocator.alive ++ [l.allocator.fresh]).filter _ = _
    rw [List.filter_append, h.lodging, h.fresh]
    simp [φ.apart]
  -- the new instance is no lodger, so that it stays where the lodgers are filtered out
  alive := by
    show (l.allocator.alive ++ [l.allocator.fresh]).filter _ =
      renumber φ.number (m.allocator.alive ++ [m.allocator.fresh])
    rw [List.filter_append, h.alive, h.fresh, renumber_append]
    simp [φ.apart]
  templates := by
    show Table.Beside φ id _ (l.templates.insert l.allocator.fresh.key t) _
    rw [h.fresh, InstanceHandle.key_renumber]
    exact h.templates.insert _ t
  worlds := h.worlds
  retired := h.retired

/-- Ledgers that lie beside each other do so after the same world has been put among the live ones
of both. -/
theorem withWorld (h : l.Beside φ lodgers m) (w : World) :
    (l.withWorld (renumber φ.number w)).Beside φ lodgers (m.withWorld w) where
  fresh := h.fresh
  steady := h.steady
  lodging := h.lodging
  alive := h.alive
  templates := h.templates
  worlds := by
    show Table.Beside φ _ _ (l.worlds.insert (renumber φ.number w.handle).key _) _
    rw [InstanceHandle.key_renumber]
    exact h.worlds.insert _ w
  retired := h.retired

/-- **What is planned is placed on both ledgers**, at the handles that come next there, and the
ledgers still lie beside each other. -/
theorem place (h : l.Beside φ lodgers m) (p : Plan) :
    (l.place (renumber φ.number p)).1 = renumber φ.number (m.place p).1 ∧
      (l.place (renumber φ.number p)).2.Beside φ lodgers (m.place p).2 := by
  cases p with
  | executor t => exact ⟨h.fresh, h.withInstance t⟩
  | world t name executor =>
    refine ⟨h.fresh, ?_⟩
    show ((l.withInstance t).withWorld (.bare l.allocator.fresh t name _)).Beside φ lodgers _
    rw [h.fresh]
    exact (h.withInstance t).withWorld (.bare m.allocator.fresh t name executor)

/-- **A deployment** is accepted by both ledgers or by none, and gives the same handle. -/
theorem deploy (h : l.Beside φ lodgers m) (c : Catalog) (given : Value) (args : List Value) :
    ComesOut φ lodgers (l.deploy c given (Argument.values (renumberArguments φ.number args)))
      (m.deploy c given (Argument.values args)) := by
  rw [Ledger.deploy, Ledger.deploy, h.plan]
  cases m.plan c given (Argument.values args) with
  | error e => exact .refused e
  | ok p =>
    obtain ⟨hHandle, hLater⟩ := h.place p
    show ComesOut φ lodgers (.ok ((renumber φ.number p, (l.place (renumber φ.number p)).1), _)) _
    rw [hHandle]
    exact .accepted (p, (m.place p).1) hLater

/-! ### Destruction -/

/-- The instance at a handle is removed from both ledgers, and no lodger with it, so they still lie
beside each other. -/
theorem remove (h : l.Beside φ lodgers m) (k : Key) :
    (l.remove (renumber φ.number k)
        { l.allocator with
          alive := l.allocator.alive.filter (·.key ≠ renumber φ.number k) }).Beside φ lodgers
      (m.remove k { m.allocator with alive := m.allocator.alive.filter (·.key ≠ k) }) where
  fresh := h.fresh
  steady := h.steady
  lodging := by
    -- no lodger is removed
    show (l.allocator.alive.filter _).filter _ = _
    rw [← h.lodging, List.filter_filter]
    refine List.filter_congr fun x _ => ?_
    by_cases hx : x.key = renumber φ.number k
    · have hOther : φ.other x.number = false := by
        rw [← Shift.others_key, hx, Shift.others_renumber]
      simp [hOther]
    · simp [hx]
  alive := by
    show (l.allocator.alive.filter _).filter _ = renumber φ.number (m.allocator.alive.filter _)
    have hComm : ((l.allocator.alive.filter (·.key ≠ renumber φ.number k)).filter
        fun x => !φ.other x.number) =
        (l.allocator.alive.filter fun x => !φ.other x.number).filter
          (·.key ≠ renumber φ.number k) :=
      filter_comm ..
    rw [hComm, h.alive]
    show (m.allocator.alive.map _).filter _ = (m.allocator.alive.filter _).map _
    rw [List.filter_map]
    congr 1
    refine List.filter_congr fun x _ => ?_
    simp [Shift.renumber_eq_iff]
  templates := h.templates.erase k
  worlds := h.worlds.erase k
  retired := by
    simp only [Ledger.remove, h.worlds.find?]
    cases m.worlds.find? k with
    | none => exact h.retired
    | some w => exact h.retired.insert k w

/-- **A destruction** is accepted by both ledgers or by none. -/
theorem destroy (h : l.Beside φ lodgers m) (v : Value) :
    ComesOut φ lodgers (l.destroy (renumber φ.number v)) (m.destroy v) := by
  rw [Ledger.destroy, Ledger.destroy, Value.key_renumber, Allocator.deallocate?,
    Allocator.deallocate?, h.isAlive]
  by_cases hAlive : m.allocator.isAlive v.key = true
  · simp only [hAlive, if_true]
    exact .accepted () (h.remove v.key)
  · simp only [hAlive]
    exact .refused (.noInstance v)

/-! ### Worlds -/

/-- A world with other rosters is put back on both ledgers. It is alive on both or retired on both,
so it goes to the same place. -/
theorem putWorld (h : l.Beside φ lodgers m) (w : World) :
    (l.putWorld (renumber φ.number w)).Beside φ lodgers (m.putWorld w) := by
  have hKey : (renumber φ.number w).handle.key = renumber φ.number w.handle.key :=
    InstanceHandle.key_renumber w.handle
  rw [Ledger.putWorld, Ledger.putWorld, hKey, h.worlds.contains]
  split
  · exact ⟨h.fresh, h.steady, h.lodging, h.alive, h.templates, h.worlds.insert _ w, h.retired⟩
  · exact ⟨h.fresh, h.steady, h.lodging, h.alive, h.templates, h.worlds, h.retired.insert _ w⟩

/-- **A registration** is accepted by both ledgers or by none. -/
theorem register (h : l.Beside φ lodgers m) (c : Catalog) (x : InstanceHandle) (k : PartKind)
    (given : Value) :
    ComesOut φ lodgers (l.register c (renumber φ.number x) k given) (m.register c x k given) := by
  rw [Ledger.register, Ledger.register, h.world?]
  cases m.world? x with
  | none => exact .refused (.noWorld x)
  | some w =>
    simp only [renumber_some, World.register_renumber]
    cases w.register c k given with
    | error e => exact .refused e
    | ok done => exact .accepted done.1 (h.putWorld done.2)

/-- **The removal of a registration** is accepted by both ledgers or by none. -/
theorem deregister (h : l.Beside φ lodgers m) (x : InstanceHandle) (k : PartKind)
    (given : Value) :
    ComesOut φ lodgers (l.deregister (renumber φ.number x) k given) (m.deregister x k given) := by
  rw [Ledger.deregister, Ledger.deregister, h.world?]
  cases m.world? x with
  | none => exact .refused (.noWorld x)
  | some w =>
    simp only [renumber_some, World.deregister_renumber]
    cases w.deregister k given with
    | error e => exact .refused e
    | ok w' => exact .accepted () (h.putWorld w')

end Beside

end Ledger

end WorldForge

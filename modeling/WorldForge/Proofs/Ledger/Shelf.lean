import Mathlib.Logic.Function.Basic
import WorldForge.Proofs.Ledger.Coherence
import WorldForge.Proofs.Ledger.Site

/-!
# A world is an ordered set of templates for each kind of part

The rosters of a world are tables by name, while registrations are asked for, and removed, by
template. Seen from outside they are simpler than that: for each kind of part a list of templates
in which none occurs twice. A `Shelf` is such a pair of lists. `Shelf.move` says what a move makes
of it, from what is declared alone: a declared template that is not there yet goes to the end, a
template that is there is taken out, and everything else leaves the lists as they are.

The two views agree because an entry of a roster stands under the name that its template is declared
with. That declaration is in the catalog, where it never changes while others come.

Main results:

* `Stocked.perform` — a move makes of a world what it makes of its shelf;
* `Stocked.shelved` — a stocked world answers every call as its shelf says;
* `world_keeps_shelf` — a world does so in all of its history, alive or not.
-/

namespace WorldForge

instance (c : Catalog) (k : PartKind) (t : Value) : Decidable (c.Declares k t) :=
  decidable_of_iff ((c.get? t).any (·.isOf k.toTemplateKind) = true) <| by
    rw [Catalog.Declares, Option.any_eq_true]

/-- For each kind of part the templates that are registered in a world, in the order in which they
came: what `components` and `systems` of the world list. It is the specification against which the
tables of a world are measured. -/
abbrev Shelf := PartKind → List Value

namespace Shelf

/-- The shelf with nothing on it. -/
def empty : Shelf := fun _ => []

/-- A template is on a shelf, among the parts of a kind. -/
def Holds (ids : Shelf) (k : PartKind) (t : Value) : Prop := t.key ∈ (ids k).map Value.key

instance (ids : Shelf) (k : PartKind) (t : Value) : Decidable (ids.Holds k t) :=
  inferInstanceAs (Decidable (t.key ∈ (ids k).map Value.key))

/-- Puts a template at the end of the parts of a kind. -/
def put (ids : Shelf) (k : PartKind) (t : Value) : Shelf := Function.update ids k (ids k ++ [t])

/-- Takes a template out of the parts of a kind. -/
def take (ids : Shelf) (k : PartKind) (t : Value) : Shelf :=
  Function.update ids k ((ids k).filter fun s => s.key ≠ t.key)

/-- What a move makes of the shelf of the world at a handle. -/
def move (ids : Shelf) (x : InstanceHandle) (c : Catalog) : Scene.Move → Shelf
  | .register y k t => if y.key = x.key ∧ c.Declares k t ∧ ¬ids.Holds k t then ids.put k t else ids
  | .deregister y k t => if y.key = x.key ∧ ids.Holds k t then ids.take k t else ids
  | .declare .. | .deploy .. | .destroy _ => ids

/-- What several moves make of the shelf of the world at a handle. -/
def after (x : InstanceHandle) : Scene → Shelf → List Scene.Move → Shelf
  | _, ids, [] => ids
  | s, ids, m :: rest => after x (s.perform m) (ids.move x s.catalog m) rest

end Shelf

/-! ## Rosters and shelves -/

section Rosters

variable {c c' : Catalog} {w w' : World} {k : PartKind} {t : Value} {d : Declaration} {ids : Shelf}

/-- Templates that are declared have the same entries when more is declared. -/
theorem Catalog.registrations_of_declare {kind name s : Value} {id : Option Value}
    {given : List Value} (hDeclare : c.declare kind name id = .ok (s, c'))
    (hDeclared : ∀ t ∈ given, c.Declares k t) : c'.registrations given = c.registrations given := by
  refine List.filterMap_congr fun t ht => ?_
  obtain ⟨d, hGet, -⟩ := hDeclared t ht
  rw [hGet, Catalog.get?_of_declare hDeclare hGet]

/-- What is declared as a part of a kind is so after one more declaration. -/
theorem Catalog.Declares.of_declare {kind name s : Value} {id : Option Value}
    (h : c.Declares k t) (hDeclare : c.declare kind name id = .ok (s, c')) : c'.Declares k t := by
  obtain ⟨d, hGet, hKind⟩ := h
  exact ⟨d, Catalog.get?_of_declare hDeclare hGet, hKind⟩

/-- **The tables of a world hold what a shelf lists**: its templates, each under its declared name,
in the same order, and nothing else. -/
structure World.Stocked (c : Catalog) (w : World) (ids : Shelf) : Prop where
  distinct : ∀ k, ((ids k).map Value.key).Nodup
  declared : ∀ k, ∀ t ∈ ids k, c.Declares k t
  entries : ∀ k, (w.roster k).entries = c.registrations (ids k)

namespace World.Stocked

/-- A world that has just been deployed is stocked from the empty shelf. -/
theorem bare (c : Catalog) (h : InstanceHandle) (t : Value) (name : Text) (x : InstanceHandle) :
    (World.bare h t name x).Stocked c .empty where
  distinct _ := List.nodup_nil
  declared _ _ hMem := by cases hMem
  entries k := by cases k <;> rfl

/-- One more declaration leaves a world stocked from the same shelf, as the names of its templates
stay the same. -/
theorem declare {kind name s : Value} {id : Option Value} (h : w.Stocked c ids)
    (hDeclare : c.declare kind name id = .ok (s, c')) : w.Stocked c' ids where
  distinct := h.distinct
  declared k t ht := (h.declared k t ht).of_declare hDeclare
  entries k := by
    rw [h.entries, Catalog.registrations_of_declare hDeclare (h.declared k)]

/-- The templates in a roster are those on the shelf, in the same order. -/
theorem templateKeys (h : w.Stocked c ids) (k : PartKind) :
    w.templateKeys k = (ids k).map Value.key := by
  rw [World.templateKeys, h.entries, Catalog.map_key_registrations (h.declared k)]

/-- A change to one roster is a change to one list. -/
theorem update {given : List Value} (h : w.Stocked c ids)
    (hDistinct : (given.map Value.key).Nodup) (hDeclared : ∀ t ∈ given, c.Declares k t)
    (hEntries : (w'.roster k).entries = c.registrations given)
    (hOther : ∀ j, j ≠ k → w'.roster j = w.roster j) :
    w'.Stocked c (Function.update ids k given) := by
  have hLists : ∀ j, j = k ∧ Function.update ids k given j = given ∨
      j ≠ k ∧ Function.update ids k given j = ids j := by
    intro j
    by_cases hj : j = k
    · subst hj
      exact .inl ⟨rfl, Function.update_self ..⟩
    · exact .inr ⟨hj, Function.update_of_ne hj ..⟩
  -- distinct, declared, entered: each for the kind that has a new list, and for the others
  refine ⟨fun j => ?_, fun j => ?_, fun j => ?_⟩
  all_goals rcases hLists j with ⟨rfl, hList⟩ | ⟨hj, hList⟩ <;> rw [hList]
  · exact hDistinct
  · exact h.distinct j
  · exact hDeclared
  · exact h.declared j
  · exact hEntries
  · rw [hOther j hj, h.entries]

/-- A declared template that is not on the shelf is registered, and goes to the end. -/
theorem register (h : w.Stocked c ids) (hc : c.Consistent) (hW : w.Faithful c)
    (hDeclared : c.Declares k t) (hNew : ¬ids.Holds k t) :
    ∃ d w', w.register c k t = .ok (d, w') ∧ w'.Stocked c (ids.put k t) := by
  obtain ⟨d, hGet, hKind⟩ := hDeclared
  have hFree : (w.roster k).contains d.name.key = false := by
    rw [← Bool.not_eq_true, World.contains_iff_mem_templateKeys hc hW hGet hKind, h.templateKeys]
    exact hNew
  have hDone := World.register_eq_ok_iff.2 ⟨hGet, hKind, hFree, rfl⟩
  have hExtends := World.extends_of_register hDone
  refine ⟨d, _, hDone, h.update ?_ ?_ ?_ ?_⟩
  -- the list with the new template at its end
  · rw [List.map_append, List.nodup_append]
    refine ⟨h.distinct k, List.nodup_singleton _, ?_⟩
    intro i hi j hj hEq
    rw [List.map_singleton, List.mem_singleton] at hj
    rw [hEq, hj] at hi
    exact hNew hi
  · intro s hs
    rcases List.mem_append.1 hs with hOld | hLast
    · exact h.declared k s hOld
    · rw [List.mem_singleton.1 hLast]
      exact ⟨d, hGet, hKind⟩
  · rw [hExtends.entries, h.entries, ofKind_self, Catalog.registrations_append]
  · intro j hj
    rw [World.roster_withRoster, if_neg hj]

/-- No other template is registered. -/
theorem register_refused (h : w.Stocked c ids) (hc : c.Consistent) (hW : w.Faithful c)
    (hNot : ¬(c.Declares k t ∧ ¬ids.Holds k t)) : ∃ e, w.register c k t = .error e := by
  cases hDone : w.register c k t with
  | error e => exact ⟨e, rfl⟩
  | ok a =>
    obtain ⟨hGet, hKind, hFree, -⟩ := World.register_eq_ok_iff.1 hDone
    -- a template on the shelf stands in the roster under its name, which was free
    refine absurd ⟨⟨a.1, hGet, hKind⟩, fun hHeld => ?_⟩ hNot
    rw [Shelf.Holds, ← h.templateKeys,
      ← World.contains_iff_mem_templateKeys hc hW hGet hKind, hFree] at hHeld
    cases hHeld

/-- A template that is on the shelf is taken out, and the others keep their order. -/
theorem deregister (h : w.Stocked c ids) (hW : w.Faithful c) (hHeld : ids.Holds k t) :
    ∃ w', w.deregister k t = .ok w' ∧ w'.Stocked c (ids.take k t) := by
  obtain ⟨s, hs, hKey⟩ := List.mem_map.1 hHeld
  obtain ⟨older, newer, hIds⟩ := List.append_of_mem hs
  obtain ⟨d, hGet, -⟩ := h.declared k s hs
  -- the list without the template is what stands before it, and what stands after it
  have hTake : (ids k).filter (fun s => s.key ≠ t.key) = older ++ newer := by
    have hDistinct := h.distinct k
    rw [hIds, List.map_append, List.map_cons, List.nodup_middle, List.nodup_cons,
      ← List.map_append] at hDistinct
    have hOther : ∀ i ∈ older ++ newer, i.key ≠ t.key := by
      intro i hi hEq
      exact hDistinct.1 (List.mem_map.2 ⟨i, hi, hEq.trans hKey.symm⟩)
    rw [hIds, List.filter_append, List.filter_cons_of_neg (by simp [hKey]), ← List.filter_append,
      List.filter_eq_self]
    intro i hi
    simpa using hOther i hi
  have hEntries : (w.roster k).entries =
      c.registrations older ++ d.registration s :: c.registrations newer := by
    have hSplit : ids k = older ++ ([s] ++ newer) := hIds
    rw [h.entries, hSplit, Catalog.registrations_append, Catalog.registrations_append,
      Catalog.registrations_singleton hGet]
    rfl
  obtain ⟨w', hDone, -, hSame, hOther⟩ := hW.deregister hEntries hKey
  refine ⟨w', hDone, h.update ?_ ?_ ?_ hOther⟩
  · exact (h.distinct k).sublist (List.filter_sublist.map Value.key)
  · exact fun i hi => h.declared k i (List.mem_filter.1 hi).1
  · rw [hTake, hSame, Catalog.registrations_append]

/-- No other template is deregistered. -/
theorem deregister_refused (h : w.Stocked c ids) (hNot : ¬ids.Holds k t) :
    ∃ e, w.deregister k t = .error e := by
  have hNone : w.nameOf? k t = none := by
    rw [World.nameOf?, Option.map_eq_none_iff, List.find?_eq_none]
    intro e he hKey
    refine hNot ?_
    rw [Shelf.Holds, ← h.templateKeys]
    exact List.mem_map.2 ⟨e, he, by simpa using hKey⟩
  exact ⟨_, by rw [World.deregister, hNone]⟩

/-- A name leads to the template on the shelf that is declared with it. -/
theorem resolve_eq_ok_iff (h : w.Stocked c ids) {name : Value} :
    w.resolve k name = .ok t ↔
      t ∈ ids k ∧ ∃ d, c.get? t = some d ∧ d.kind = .kind k ∧ d.name.key = name.key := by
  have hFind : w.resolve k name = .ok t ↔ ∃ r, (w.roster k).find? name.key = some r ∧
      r.template = t := by
    rw [World.resolve]
    cases (w.roster k).find? name.key <;> simp
  rw [hFind]
  constructor
  -- what stands under a name is the entry of a template on the shelf
  · rintro ⟨r, hr, rfl⟩
    have hMem := Table.mem_entries_iff.2 hr
    rw [h.entries, Catalog.mem_registrations] at hMem
    obtain ⟨s, hs, d, hGet, hEntry⟩ := hMem
    obtain ⟨d', hGet', hKind⟩ := h.declared k s hs
    rw [hGet] at hGet'
    cases hGet'
    obtain ⟨hName, rfl⟩ := Prod.ext_iff.1 hEntry
    exact ⟨hs, d, hGet, Declaration.isOf_iff.1 hKind, hName⟩
  · rintro ⟨ht, d, hGet, -, hName⟩
    refine ⟨⟨d.name, t⟩, ?_, rfl⟩
    rw [← Table.mem_entries_iff, h.entries, Catalog.mem_registrations]
    exact ⟨t, ht, d, hGet, by rw [Declaration.registration, hName]⟩

/-- What a roster shows is the shelf, each template by its declared name. -/
theorem value_roster (h : w.Stocked c ids) (k : PartKind) :
    (w.roster k).value =
      .dictionary ((ids k).filterMap fun t => (c.get? t).map fun d => (d.name, t)) := by
  rw [Roster.value, Table.values, h.entries, Catalog.registrations, List.map_map,
    List.map_filterMap]
  congr 2
  funext t
  cases c.get? t <;> rfl

end World.Stocked

end Rosters

/-! ## Ledgers and shelves -/

namespace Ledger

variable {c : Catalog} {l l' : Ledger} {handed : List InstanceHandle} {x y : InstanceHandle}
  {w w' : World} {k : PartKind} {t : Value} {d : Declaration}

/-- A world whose rosters have been changed is found where it was. -/
theorem Sound.world?_putWorld_self (hs : Sound c l handed) (hKnown : l.world? x = some w)
    (hHead : w.SameHead w') : (l.putWorld w').world? x = some w' := by
  rw [world?_putWorld, if_pos (by rw [hHead.handle, (hs.world? hKnown).1])]

/-- Another world is left alone. -/
theorem Sound.world?_putWorld_of_ne (hs : Sound c l handed) (hKnown : l.world? y = some w)
    (hHead : w.SameHead w') (hKey : y.key ≠ x.key) : (l.putWorld w').world? x = l.world? x := by
  rw [world?_putWorld, if_neg]
  rw [hHead.handle, (hs.world? hKnown).1]
  exact hKey.symm

/-- Of two changes to one world the second counts. -/
theorem putWorld_putWorld (hHandle : w'.handle = w.handle) :
    (l.putWorld w').putWorld w = l.putWorld w := by
  have hContains : (l.putWorld w').worlds.contains w.handle.key =
      l.worlds.contains w.handle.key := by
    rw [Bool.eq_iff_iff, Table.contains_iff, Table.contains_iff, keys_putWorld]
  rw [putWorld, hContains]
  cases hLive : l.worlds.contains w.handle.key <;>
    simp [putWorld, hHandle, hLive, Table.insert_insert]

/-- Putting a world back as it was changes nothing. -/
theorem Sound.putWorld_of_known (hs : Sound c l handed) (hKnown : l.world? x = some w) :
    l.putWorld w = l := by
  have hKey := (hs.world? hKnown).1
  -- it is put back among the worlds that it was found among
  by_cases hLive : w.handle.key ∈ l.worlds.keys
  · obtain ⟨v, hFind⟩ := Table.mem_keys_iff.1 hLive
    rw [putWorld_of_mem hLive]
    rw [hKey] at hFind
    rw [world?_of_find? hFind] at hKnown
    cases hKnown
    exact withWorld_of_find? (by rwa [hKey])
  · rw [hKey] at hLive
    rw [world?_of_not_mem hLive] at hKnown
    rw [Ledger.putWorld, hKey, if_neg (by rwa [Table.contains_iff]),
      Table.insert_of_find? _ hKnown]

/-- A ledger registers a part in a world that it knows, be it alive or retired, as the world itself
does. -/
theorem register_of_ok (hKnown : l.world? x = some w) (h : w.register c k t = .ok (d, w')) :
    l.register c x k t = .ok (d, l.putWorld w') := by
  rw [register, hKnown]
  simp only [h]

/-- A ledger refuses to register a part as the world itself refuses it. -/
theorem register_of_error {e : LedgerError} (hKnown : l.world? x = some w)
    (h : w.register c k t = .error e) : l.register c x k t = .error e := by
  rw [register, hKnown]
  simp only [h]

/-- A ledger deregisters a part from a world that it knows, be it alive or retired, as the world
itself does. -/
theorem deregister_of_ok (hKnown : l.world? x = some w) (h : w.deregister k t = .ok w') :
    l.deregister x k t = .ok ((), l.putWorld w') := by
  rw [deregister, hKnown]
  simp only [h]

/-- A ledger refuses to deregister a part as the world itself refuses it. -/
theorem deregister_of_error {e : LedgerError} (hKnown : l.world? x = some w)
    (h : w.deregister k t = .error e) : l.deregister x k t = .error e := by
  rw [deregister, hKnown]
  simp only [h]

/-- **Deregistering right after a registration gives the old ledger back**, and with it the order in
every roster. -/
theorem Sound.deregister_of_register (hs : Sound c l handed)
    (hDone : l.register c x k t = .ok (d, l')) : l'.deregister x k t = .ok ((), l) := by
  obtain ⟨w, w', hKnown, hRegister, rfl⟩ := register_eq_ok hDone
  obtain ⟨hGet, hKind, -⟩ := World.register_eq_ok_iff.1 hRegister
  have hDeclared : c.Declares k t := ⟨d, hGet, hKind⟩
  have hExtends : w.Extends c ([] ++ (k, t) :: []) w' := World.extends_of_register hRegister
  have hFaithful : w'.Faithful c :=
    hExtends.faithful (hs.world? hKnown).2 (by simpa using hDeclared)
  obtain ⟨w₂, hBack, hLeft⟩ := hExtends.deregister hFaithful hDeclared
  -- nothing is left of the registration, so the world is the old one
  obtain rfl := hLeft.eq
  rw [deregister_of_ok (hs.world?_putWorld_self hKnown hExtends.head) hBack,
    putWorld_putWorld hExtends.head.handle, hs.putWorld_of_known hKnown]

end Ledger

namespace Scene

variable {s : Scene} {m : Move} {handed : List InstanceHandle} {x y : InstanceHandle} {w w' : World}
  {k : PartKind} {t : Value} {ids : Shelf}

/-- The ledger knows a world at this handle, alive or destroyed, and its tables hold what the shelf
lists. -/
def Stocked (s : Scene) (x : InstanceHandle) (ids : Shelf) : Prop :=
  ∃ w, s.ledger.world? x = some w ∧ w.Stocked s.catalog ids

/-- A world that a move leaves alone is stocked as before. -/
theorem Stocked.of_world? {l : Ledger} (h : s.Stocked x ids)
    (hSame : l.world? x = s.ledger.world? x) : Scene.Stocked ⟨s.catalog, l⟩ x ids := by
  obtain ⟨w, hKnown, hStocked⟩ := h
  exact ⟨w, hSame.trans hKnown, hStocked⟩

/-- Registering at a handle is registering on the shelf of the world there. -/
theorem Stocked.perform_register (hs : Ledger.Sound s.catalog s.ledger handed)
    (h : s.Stocked x ids) (hKey : y.key = x.key) (k : PartKind) (t : Value) :
    s.catalog.Declares k t ∧ ¬ids.Holds k t ∧
        (s.perform (.register y k t)).Stocked x (ids.put k t) ∨
      ¬(s.catalog.Declares k t ∧ ¬ids.Holds k t) ∧ s.perform (.register y k t) = s := by
  obtain ⟨w, hKnown, hStocked⟩ := h
  have hKnownY : s.ledger.world? y = some w := by rw [Ledger.world?_congr hKey, hKnown]
  have hFaithful := (hs.world? hKnown).2
  -- a part goes in if it is declared and not there yet, and otherwise nothing is done
  by_cases hNew : s.catalog.Declares k t ∧ ¬ids.Holds k t
  · obtain ⟨d, w', hDone, hStocked'⟩ := hStocked.register hs.catalog hFaithful hNew.1 hNew.2
    refine .inl ⟨hNew.1, hNew.2, ?_⟩
    rw [perform_register_of_ok (Ledger.register_of_ok hKnownY hDone)]
    exact ⟨w', hs.world?_putWorld_self hKnown (World.extends_of_register hDone).head, hStocked'⟩
  · obtain ⟨e, hRefused⟩ := hStocked.register_refused hs.catalog hFaithful hNew
    exact .inr ⟨hNew, perform_register_of_error (Ledger.register_of_error hKnownY hRefused)⟩

/-- Deregistering at a handle is deregistering on the shelf of the world there. -/
theorem Stocked.perform_deregister (hs : Ledger.Sound s.catalog s.ledger handed)
    (h : s.Stocked x ids) (hKey : y.key = x.key) (k : PartKind) (t : Value) :
    ids.Holds k t ∧ (s.perform (.deregister y k t)).Stocked x (ids.take k t) ∨
      ¬ids.Holds k t ∧ s.perform (.deregister y k t) = s := by
  obtain ⟨w, hKnown, hStocked⟩ := h
  have hKnownY : s.ledger.world? y = some w := by rw [Ledger.world?_congr hKey, hKnown]
  have hFaithful := (hs.world? hKnown).2
  by_cases hHeld : ids.Holds k t
  · obtain ⟨w', hDone, hStocked'⟩ := hStocked.deregister hFaithful hHeld
    refine .inl ⟨hHeld, ?_⟩
    rw [perform_deregister_of_ok (Ledger.deregister_of_ok hKnownY hDone)]
    exact ⟨w', hs.world?_putWorld_self hKnown (hFaithful.of_deregister hDone).1, hStocked'⟩
  · obtain ⟨e, hRefused⟩ := hStocked.deregister_refused hHeld
    exact .inr ⟨hHeld, perform_deregister_of_error (Ledger.deregister_of_error hKnownY hRefused)⟩

/-- Registering elsewhere leaves the world at a handle alone. -/
theorem Stocked.perform_register_of_ne (hs : Ledger.Sound s.catalog s.ledger handed)
    (h : s.Stocked x ids) (hKey : y.key ≠ x.key) (k : PartKind) (t : Value) :
    (s.perform (.register y k t)).Stocked x ids := by
  cases hRegister : s.ledger.register s.catalog y k t with
  | error e =>
    rw [perform_register_of_error hRegister]
    exact h
  | ok a =>
    rw [perform_register_of_ok hRegister]
    -- what is written is another world
    obtain ⟨v, v', hOther, hDone, hPut⟩ := Ledger.register_eq_ok hRegister
    refine h.of_world? ?_
    rw [hPut]
    exact hs.world?_putWorld_of_ne hOther (World.extends_of_register hDone).head hKey

/-- Deregistering elsewhere leaves the world at a handle alone. -/
theorem Stocked.perform_deregister_of_ne (hs : Ledger.Sound s.catalog s.ledger handed)
    (h : s.Stocked x ids) (hKey : y.key ≠ x.key) (k : PartKind) (t : Value) :
    (s.perform (.deregister y k t)).Stocked x ids := by
  cases hDeregister : s.ledger.deregister y k t with
  | error e =>
    rw [perform_deregister_of_error hDeregister]
    exact h
  | ok a =>
    rw [perform_deregister_of_ok hDeregister]
    obtain ⟨v, v', hOther, hDone, hPut⟩ := Ledger.deregister_eq_ok hDeregister
    refine h.of_world? ?_
    rw [hPut]
    exact hs.world?_putWorld_of_ne hOther ((hs.world? hOther).2.of_deregister hDone).1 hKey

/-- **A move makes of a world what it makes of its shelf.** -/
theorem Stocked.perform (hs : Ledger.Sound s.catalog s.ledger handed) (h : s.Stocked x ids)
    (m : Move) : (s.perform m).Stocked x (ids.move x s.catalog m) := by
  cases m with
  | declare kind name id =>
    cases hDeclare : s.catalog.declare kind name id with
    | error e =>
      rw [Scene.perform, hDeclare]
      exact h
    | ok a =>
      rw [perform_declare_of_ok hDeclare]
      obtain ⟨w, hKnown, hStocked⟩ := h
      exact ⟨w, hKnown, hStocked.declare hDeclare⟩
  | deploy given args =>
    cases hDeploy : s.ledger.deploy s.catalog given (Argument.values args) with
    | error e =>
      rw [Scene.perform, hDeploy]
      exact h
    | ok a =>
      rw [perform_deploy_of_ok hDeploy]
      obtain ⟨w, hKnown, -⟩ := id h
      exact h.of_world? (hs.world?_of_deploy hDeploy hKnown)
  | destroy given =>
    cases hDestroy : s.ledger.destroy given with
    | error e =>
      rw [Scene.perform, hDestroy]
      exact h
    | ok a =>
      rw [perform_destroy_of_ok hDestroy]
      obtain ⟨-, hGone⟩ := Ledger.destroy_eq_ok hDestroy
      refine h.of_world? ?_
      rw [hGone, Ledger.world?_remove]
  -- only calls at the handle of the world itself concern its shelf
  | register y k t =>
    rw [Shelf.move]
    by_cases hKey : y.key = x.key
    · rcases h.perform_register hs hKey k t with ⟨hDeclared, hNew, hDone⟩ | ⟨hNot, hSame⟩
      · rw [if_pos ⟨hKey, hDeclared, hNew⟩]
        exact hDone
      · rw [if_neg fun hAll => hNot hAll.2, hSame]
        exact h
    · rw [if_neg fun hAll => hKey hAll.1]
      exact h.perform_register_of_ne hs hKey k t
  | deregister y k t =>
    rw [Shelf.move]
    by_cases hKey : y.key = x.key
    · rcases h.perform_deregister hs hKey k t with ⟨hHeld, hDone⟩ | ⟨hNot, hSame⟩
      · rw [if_pos ⟨hKey, hHeld⟩]
        exact hDone
      · rw [if_neg fun hAll => hNot hAll.2, hSame]
        exact h
    · rw [if_neg fun hAll => hKey hAll.1]
      exact h.perform_deregister_of_ne hs hKey k t

/-- A history makes of a world what it makes of its shelf. -/
theorem Stocked.after (hReached : Ledger.Reached s.catalog s.ledger handed)
    (h : s.Stocked x ids) (moves : List Move) :
    (s.after moves).Stocked x (Shelf.after x s ids moves) := by
  induction moves generalizing s ids handed with
  | nil => exact h
  | cons m rest ih => exact ih ((s.effect m).reached hReached) (h.perform hReached.sound m)

/-! ## What a world answers -/

/-- **A call does a move exactly under a condition.** Where no planned fault strikes, it succeeds if
the condition holds, and has then done the move. If not, it fails and changes nothing. -/
def Answers (s : Scene) (m : Move) (call : LedgerCall) (y : SiteM Unit) (P : Prop) : Prop :=
  ∀ site : Site, site.ledger = s.ledger → (Fault.meet call site.faults).1 = none →
    (P → ∃ site', y site = .ok () site' ∧ site'.ledger = (s.perform m).ledger) ∧
    (¬P → s.perform m = s ∧ ∃ e site', y site = .error e site' ∧ site'.ledger = s.ledger)

/-- **A world answers as its shelf says.** -/
structure Shelved (s : Scene) (x : InstanceHandle) (ids : Shelf) : Prop where
  /-- No template is on the shelf twice. -/
  distinct : ∀ k, ((ids k).map Value.key).Nodup
  declared : ∀ k, ∀ t ∈ ids k, s.catalog.Declares k t
  register : ∀ k t, s.Answers (.register x k t) (.register k) (Site.register s.catalog x k t)
    (s.catalog.Declares k t ∧ ¬ids.Holds k t)
  deregister : ∀ k t, s.Answers (.deregister x k t) (.deregister k) (Site.deregister x k t)
    (ids.Holds k t)
  /-- A name leads to the template on the shelf that is declared with it, and the rosters show the
  shelf, each template by its declared name. -/
  read : ∃ w, s.ledger.world? x = some w ∧ ∀ k,
    (∀ name t, w.resolve k name = .ok t ↔
      t ∈ ids k ∧ ∃ d, s.catalog.get? t = some d ∧ d.kind = .kind k ∧ d.name.key = name.key) ∧
    (w.roster k).value =
      .dictionary ((ids k).filterMap fun t => (s.catalog.get? t).map fun d => (d.name, t))
  /-- Deregistering right after a registration gives back all that was there, in its order. -/
  undone : ∀ k t d l, s.ledger.register s.catalog x k t = .ok (d, l) →
    l.deregister x k t = .ok ((), s.ledger)

/-- **A registration succeeds exactly if** the template is declared as a part of the kind and is not
on the shelf. The call at the site and the move say the same. -/
theorem Stocked.answers_register (hs : Ledger.Sound s.catalog s.ledger handed)
    (h : s.Stocked x ids) (k : PartKind) (t : Value) :
    s.Answers (.register x k t) (.register k) (Site.register s.catalog x k t)
      (s.catalog.Declares k t ∧ ¬ids.Holds k t) := by
  intro site hLedger hMeet
  obtain ⟨w, hKnown, hStocked⟩ := h
  have hFaithful := (hs.world? hKnown).2
  refine ⟨?_, fun hNot => ?_⟩
  · rintro ⟨hDeclared, hNew⟩
    obtain ⟨d, w', hDone, -⟩ := hStocked.register hs.catalog hFaithful hDeclared hNew
    obtain ⟨hGet, hKind, -⟩ := World.register_eq_ok_iff.1 hDone
    have hRegister := Ledger.register_of_ok hKnown hDone
    -- the declaration is a proper one, so that the call gets as far as the ledger
    have hFlaw : s.catalog.registrationFlaw? k t = none :=
      Catalog.registrationFlaw?_of_kind (hs.catalog.strays t) hGet (Declaration.isOf_iff.1 hKind)
        (hs.catalog.keyed hGet)
    refine ⟨_, Site.register_eq_ok_iff.2
      ⟨hMeet, hs.catalog.fixed hGet, hFlaw, d, _, by rw [hLedger, hRegister], rfl⟩, ?_⟩
    rw [perform_register_of_ok hRegister]
  -- whatever comes before the ledger, the call fails, for the ledger would refuse it
  · obtain ⟨e, hRefused⟩ := hStocked.register_refused hs.catalog hFaithful hNot
    have hRegister := Ledger.register_of_error hKnown hRefused
    refine ⟨by rw [perform_register_of_error hRegister], ?_⟩
    cases hCall : Site.register s.catalog x k t site with
    | ok u site' =>
      obtain ⟨-, -, -, d, l, hDone, -⟩ := Site.register_eq_ok_iff.1 hCall
      rw [hLedger, hRegister] at hDone
      cases hDone
    | error e' site' =>
      obtain rfl := Site.register_eq_error hCall
      exact ⟨e', _, rfl, hLedger⟩

/-- **A deregistration succeeds exactly if** the template is on the shelf among the parts of the
kind. The call at the site and the move say the same. -/
theorem Stocked.answers_deregister (hs : Ledger.Sound s.catalog s.ledger handed)
    (h : s.Stocked x ids) (k : PartKind) (t : Value) :
    s.Answers (.deregister x k t) (.deregister k) (Site.deregister x k t) (ids.Holds k t) := by
  intro site hLedger hMeet
  obtain ⟨w, hKnown, hStocked⟩ := h
  have hCall : Site.deregister x k t site =
      Site.onLedger (fun l => l.deregister x k t) (site.met (.deregister k)) :=
    Site.call_of_none hMeet
  refine ⟨fun hHeld => ?_, fun hNot => ?_⟩
  · obtain ⟨w', hDone, -⟩ := hStocked.deregister (hs.world? hKnown).2 hHeld
    have hDeregister := Ledger.deregister_of_ok hKnown hDone
    refine ⟨{ site.met (.deregister k) with ledger := s.ledger.putWorld w' }, ?_, ?_⟩
    · rw [hCall, Site.onLedger_eq_ok_iff]
      exact ⟨_, (congrArg (fun l => l.deregister x k t) hLedger).trans hDeregister, rfl⟩
    · rw [perform_deregister_of_ok hDeregister]
  -- what is not held is refused, in the error of the site's own telling
  · obtain ⟨e, hRefused⟩ := hStocked.deregister_refused hNot
    have hDeregister := Ledger.deregister_of_error hKnown hRefused
    refine ⟨by rw [perform_deregister_of_error hDeregister], ?_⟩
    cases hEnd : Site.onLedger (fun l => l.deregister x k t) (site.met (.deregister k)) with
    | ok u site' =>
      obtain ⟨l, hDone, -⟩ := Site.onLedger_eq_ok_iff.1 hEnd
      have hOld : s.ledger.deregister x k t = .ok (u, l) := by
        rw [← hLedger]
        exact hDone
      rw [hDeregister] at hOld
      cases hOld
    | error e' site' =>
      obtain ⟨hSame, -⟩ := Site.onLedger_eq_error hEnd
      refine ⟨e', site', by rw [hCall, hEnd], ?_⟩
      rw [hSame]
      exact hLedger

/-- **A stocked world answers as its shelf says**: which templates can be registered and
deregistered, what is found under a name, and what is listed. -/
theorem Stocked.shelved (hs : Ledger.Sound s.catalog s.ledger handed) (h : s.Stocked x ids) :
    s.Shelved x ids where
  distinct := by
    obtain ⟨w, -, hStocked⟩ := h
    exact hStocked.distinct
  declared := by
    obtain ⟨w, -, hStocked⟩ := h
    exact hStocked.declared
  register := h.answers_register hs
  deregister := h.answers_deregister hs
  read := by
    obtain ⟨w, hKnown, hStocked⟩ := h
    exact ⟨w, hKnown, fun k =>
      ⟨fun name t => hStocked.resolve_eq_ok_iff, hStocked.value_roster k⟩⟩
  undone k t d l hDone := hs.deregister_of_register hDone

end Scene

/-- **A world is an ordered set of templates for each kind of part**, from its deployment on and
through every history, whether it is alive or has been destroyed. -/
theorem world_keeps_shelf {s : Scene} {l : Ledger} {handed : List InstanceHandle}
    {given template : Value} {args : List Argument} {name : Text} {executor x : InstanceHandle}
    (hReached : Ledger.Reached s.catalog s.ledger handed)
    (hDeploy : s.ledger.deploy s.catalog given args = .ok ((.world template name executor, x), l))
    (moves : List Scene.Move) :
    let start : Scene := ⟨s.catalog, l⟩
    (start.after moves).Shelved x (Shelf.after x start .empty moves) := by
  intro start
  have hStart : Ledger.Reached start.catalog start.ledger (handed ++ [x]) :=
    .deploy hReached hDeploy
  -- a new world has no parts
  have hStocked : start.Stocked x .empty := by
    obtain ⟨-, hPlace⟩ := Ledger.deploy_eq_ok hDeploy
    rw [Ledger.place_world] at hPlace
    cases hPlace
    refine ⟨.bare s.ledger.allocator.fresh template name executor, ?_, .bare ..⟩
    exact (Ledger.world?_withWorld ..).trans (if_pos rfl)
  exact (hStocked.after hStart moves).shelved (Scene.reached_after hStart moves).sound

/-- A component is registered in a world, and once more after the world has been destroyed and
another component has been declared. Only the first time it is accepted. -/
theorem world_keeps_shelf_pond :
    let fish : Value := .template (.ofInt 3)
    let reed : Value := .template (.ofInt 4)
    let pond : InstanceHandle := .ofInt 0x1001
    let s := (Scene.opening .empty).after
      [.declare (.kind .world) (.str "pond") (some (.template (.ofInt 1))),
       .declare (.kind .executor) (.str "pump") (some (.template (.ofInt 2))),
       .declare (.kind .component) (.str "fish") (some fish),
       .deploy (.template (.ofInt 2)) []]
    let moves : List Scene.Move :=
      [.register pond .component fish, .destroy pond,
       .declare (.kind .component) (.str "reed") (some reed),
       .register pond .component fish, .register pond .component reed]
    ∃ l, s.ledger.deploy s.catalog (.template (.ofInt 1))
        (Argument.values [.str "pond", .handle (.ofInt 0x1000)]) =
        .ok ((.world (.template (.ofInt 1)) "pond" (.ofInt 0x1000), pond), l) ∧
      (Scene.after ⟨s.catalog, l⟩ moves).Shelved pond
        (Shelf.after pond ⟨s.catalog, l⟩ .empty moves) ∧
      Shelf.after pond ⟨s.catalog, l⟩ .empty moves .component = [fish, reed] := by
  intro fish reed pond s moves
  have hReached := Scene.reached_of_opening .empty
    [.declare (.kind .world) (.str "pond") (some (.template (.ofInt 1))),
     .declare (.kind .executor) (.str "pump") (some (.template (.ofInt 2))),
     .declare (.kind .component) (.str "fish") (some fish),
     .deploy (.template (.ofInt 2)) []]
  have hDeploy : s.ledger.deploy s.catalog (.template (.ofInt 1))
      (Argument.values [.str "pond", .handle (.ofInt 0x1000)]) =
        .ok ((.world (.template (.ofInt 1)) "pond" (.ofInt 0x1000), pond), _) := rfl
  exact ⟨_, hDeploy, world_keeps_shelf hReached hDeploy moves, rfl⟩

end WorldForge

import Mathlib.Data.List.Nodup
import WorldForge.Ledger.World
import WorldForge.Proofs.Catalog

/-!
# Rosters and what was registered in them

A world is *faithful* to its catalog when every registration stands under the name that its template
is declared with. In such a world a template stands once in a roster at most, so that removing the
registration of a template removes one entry and closes the gap.

`World.Extends` says that a world is another one in which some parts have been registered, one after
the other. Registering goes one part further, and deregistering takes a part out of the middle:

* `extends_of_register` — a registration goes to the end of its roster;
* `Extends.deregister` — a registration is removed, whatever was registered after it;
* `contains_iff_mem_templateKeys` — a name is taken exactly if its template is in the roster.
-/

namespace WorldForge

/-- A part: of which kind it is, and which template. -/
abbrev Part := PartKind × Value

/-- The templates among parts that are parts of one kind. -/
def ofKind (k : PartKind) (parts : List Part) : List Value :=
  (parts.filter fun p => p.1 = k).map Prod.snd

/-- The entry of a roster under which a declared template is registered. -/
def Declaration.registration (d : Declaration) (given : Value) : Key × Registration :=
  (d.name.key, ⟨d.name, given⟩)

/-- The entries of a roster under which declared templates are registered. -/
def Catalog.registrations (c : Catalog) (ids : List Value) : List (Key × Registration) :=
  ids.filterMap fun t => (c.get? t).map fun d => d.registration t

section Parts

variable {c : Catalog} {k j : PartKind} {t : Value} {d : Declaration} {parts more : List Part}

@[simp] theorem ofKind_append : ofKind k (parts ++ more) = ofKind k parts ++ ofKind k more := by
  simp [ofKind]

@[simp] theorem ofKind_self : ofKind k [(k, t)] = [t] := by
  simp [ofKind]

/-- A part is not listed among those of another kind. -/
theorem ofKind_of_ne (h : j ≠ k) : ofKind j [(k, t)] = [] := by
  simp [ofKind, h.symm]

/-- Templates that are all parts of one kind are listed as they are. -/
theorem ofKind_map_self (k : PartKind) (ids : List Value) :
    ofKind k (ids.map (Prod.mk k)) = ids := by
  simp [ofKind, List.filter_map, Function.comp_def]

/-- Templates that are all parts of one kind leave nothing for another kind. -/
theorem ofKind_map_of_ne (h : j ≠ k) (ids : List Value) :
    ofKind j (ids.map (Prod.mk k)) = [] := by
  simp [ofKind, List.filter_map, Function.comp_def, h.symm]

/-- A template is listed for a kind exactly if it stands among the parts with this kind. -/
theorem mem_ofKind : t ∈ ofKind k parts ↔ (k, t) ∈ parts := by
  simp only [ofKind, List.mem_map, List.mem_filter, decide_eq_true_eq]
  constructor
  · rintro ⟨⟨j, s⟩, ⟨hMem, rfl⟩, rfl⟩
    exact hMem
  · intro hMem
    exact ⟨(k, t), ⟨hMem, rfl⟩, rfl⟩

namespace Catalog

@[simp] theorem registrations_nil : c.registrations [] = [] := rfl

@[simp] theorem registrations_append (ids more : List Value) :
    c.registrations (ids ++ more) = c.registrations ids ++ c.registrations more := by
  simp [registrations]

theorem registrations_singleton (h : c.get? t = some d) :
    c.registrations [t] = [d.registration t] := by
  simp [registrations, h]

/-- The entries of several templates are those of the declared ones among them. -/
theorem mem_registrations {ids : List Value} {e : Key × Registration} :
    e ∈ c.registrations ids ↔ ∃ t ∈ ids, ∃ d, c.get? t = some d ∧ d.registration t = e := by
  simp [registrations]

/-- The entries of declared templates are of these templates, in their order. -/
theorem map_key_registrations {ids : List Value} (h : ∀ t ∈ ids, c.Declares k t) :
    (c.registrations ids).map (fun e => e.2.template.key) = ids.map Value.key := by
  induction ids with
  | nil => rfl
  | cons t rest ih =>
    obtain ⟨d, hGet, -⟩ := h t (.head _)
    have hRest := ih fun s hs => h s (.tail _ hs)
    have hFirst : c.registrations (t :: rest) = d.registration t :: c.registrations rest := by
      simp [registrations, hGet]
    rw [hFirst, List.map_cons, List.map_cons, hRest]
    rfl

end Catalog

end Parts

namespace World

variable {c c' : Catalog} {w w₁ w₂ : World} {k j : PartKind} {t : Value} {d : Declaration}
  {r : Roster} {e : Key × Registration} {older newer : List (Key × Registration)}
  {parts more done kept : List Part}

/-! ## Changing one roster -/

/-- Two worlds agree in all that registering leaves alone. -/
structure SameHead (w w' : World) : Prop where
  handle : w'.handle = w.handle
  template : w'.template = w.template
  name : w'.name = w.name
  executor : w'.executor = w.executor

/-- Two changes of rosters leave what one of them leaves: handle, template, name and executor. -/
theorem SameHead.trans (h : w.SameHead w₁) (h₁ : w₁.SameHead w₂) : w.SameHead w₂ :=
  ⟨h₁.handle.trans h.handle, h₁.template.trans h.template, h₁.name.trans h.name,
    h₁.executor.trans h.executor⟩

/-- To change a roster leaves handle, template, name and executor of a world. -/
theorem sameHead_withRoster (w : World) (k : PartKind) (r : Roster) :
    w.SameHead (w.withRoster k r) := by
  cases k <;> exact ⟨rfl, rfl, rfl, rfl⟩

/-- Worlds that agree in all four fields and in both rosters are the same. -/
theorem SameHead.eq (h : w.SameHead w₁) (hRosters : ∀ k, w₁.roster k = w.roster k) : w₁ = w := by
  obtain ⟨handle, template, name, executor, components, systems⟩ := w
  obtain ⟨handle₁, template₁, name₁, executor₁, components₁, systems₁⟩ := w₁
  obtain ⟨rfl, rfl, rfl, rfl⟩ := h
  obtain rfl : components₁ = components := hRosters .component
  obtain rfl : systems₁ = systems := hRosters .system
  rfl

/-- A registration is accepted exactly if the template is declared as such a part and its name is
free. -/
theorem register_eq_ok_iff :
    w.register c k t = .ok (d, w₁) ↔
      c.get? t = some d ∧ d.isOf k.toTemplateKind = true ∧
        (w.roster k).contains d.name.key = false ∧
        w₁ = w.withRoster k ((w.roster k).insert d.name.key ⟨d.name, t⟩) := by
  rw [register]
  -- the template is looked for first, then its kind is looked at, and then its name
  cases hGet : c.get? t with
  | none => simp
  | some found =>
    by_cases hKind : found.isOf k.toTemplateKind = true
    · by_cases hName : (w.roster k).contains found.name.key = true
      · simp only [hKind, hName, Bool.not_true, Bool.false_eq_true, if_false, if_true]
        constructor
        · intro h
          cases h
        · rintro ⟨hFound, -, hFree, -⟩
          cases hFound
          rw [hName] at hFree
          cases hFree
      · simp only [hKind, hName, Bool.not_true, Bool.false_eq_true, if_false]
        constructor
        · intro h
          cases h
          exact ⟨rfl, hKind, by simpa using hName, rfl⟩
        · rintro ⟨hFound, -, -, rfl⟩
          cases hFound
          rfl
    · simp only [hKind, Bool.not_false, if_true]
      constructor
      · intro h
        cases h
      · rintro ⟨hFound, hFoundKind, -⟩
        cases hFound
        exact absurd hFoundKind hKind

/-! ## Faithful worlds -/

/-- Every registration stands under the name that its template is declared with, in the roster for
the kind that it is declared as. -/
def Faithful (c : Catalog) (w : World) : Prop :=
  ∀ k, ∀ e ∈ (w.roster k).entries, ∃ d, c.get? e.2.template = some d ∧
    d.isOf k.toTemplateKind = true ∧ d.registration e.2.template = e

/-- A world in which nothing is registered tells no name that is not declared. -/
theorem faithful_bare (h : InstanceHandle) (name : Text) (executor : InstanceHandle) :
    (bare h t name executor).Faithful c := by
  intro k e he
  cases k <;> cases he

/-- A world stays faithful when more is declared. -/
theorem Faithful.of_declare {kind name s : Value} {given : Option Value}
    (h : w.Faithful c) (hDeclare : c.declare kind name given = .ok (s, c')) :
    w.Faithful c' := by
  intro k e he
  obtain ⟨d, hGet, hKind, hEntry⟩ := h k e he
  exact ⟨d, Catalog.get?_of_declare hDeclare hGet, hKind, hEntry⟩

/-- The keys of the templates in a roster, in the order of registration. -/
def templateKeys (w : World) (k : PartKind) : List Key :=
  (w.roster k).entries.map fun e => e.2.template.key

/-- **A name is taken exactly if its template is registered.** -/
theorem contains_iff_mem_templateKeys (hC : c.Consistent) (hW : w.Faithful c)
    (hGet : c.get? t = some d) (hKind : d.isOf k.toTemplateKind = true) :
    (w.roster k).contains d.name.key = true ↔ t.key ∈ w.templateKeys k := by
  rw [Table.contains_iff, Table.keys, templateKeys, List.mem_map, List.mem_map]
  constructor
  -- the entry under this name has a template that is declared by it
  · rintro ⟨e, he, hName⟩
    obtain ⟨d', hGet', hKind', hEntry⟩ := hW k e he
    refine ⟨e, he, hC.key_eq_of_name hGet' hGet hKind' hKind ?_⟩
    rw [← hEntry] at hName
    exact hName
  -- the entry of this template stands under the name that it is declared by
  · rintro ⟨e, he, hKey⟩
    obtain ⟨d', hGet', -, hEntry⟩ := hW k e he
    refine ⟨e, he, ?_⟩
    rw [Catalog.get?_congr hKey, hGet] at hGet'
    cases hGet'
    rw [← hEntry]
    rfl

/-- In a faithful world no two entries of a roster have the same template. -/
theorem Faithful.template_ne (h : w.Faithful c)
    (hEntries : (w.roster k).entries = older ++ e :: newer) {e' : Key × Registration}
    (he' : e' ∈ older) : e'.2.template.key ≠ e.2.template.key := by
  intro hKey
  have hMem : e ∈ (w.roster k).entries := by simp [hEntries]
  have hMem' : e' ∈ (w.roster k).entries := by simp [hEntries, he']
  obtain ⟨d, hGet, -, hEntry⟩ := h k e hMem
  obtain ⟨d', hGet', -, hEntry'⟩ := h k e' hMem'
  rw [Catalog.get?_congr hKey, hGet] at hGet'
  cases hGet'
  -- so both stand under the name of one declaration, and a name stands once
  have hName : e'.1 = e.1 := by
    rw [← hEntry, ← hEntry']
    rfl
  have hDistinct := (w.roster k).distinct
  rw [hEntries, List.map_append, List.map_cons, List.nodup_append] at hDistinct
  exact hDistinct.2.2 e'.1 (List.mem_map_of_mem he') e.1 (.head _) hName

/-- Removing a registration takes its entry out and leaves all others in their order. -/
theorem Faithful.deregister (h : w.Faithful c)
    (hEntries : (w.roster k).entries = older ++ e :: newer) (hKey : e.2.template.key = t.key) :
    ∃ w₁, w.deregister k t = .ok w₁ ∧ w.SameHead w₁ ∧ (w₁.roster k).entries = older ++ newer ∧
      ∀ j, j ≠ k → w₁.roster j = w.roster j := by
  -- no older entry has this template, so the search ends at this one
  have hFind : w.nameOf? k t = some e.1 := by
    have hOlder : older.find? (fun e' => e'.2.template.key = t.key) = none := by
      rw [List.find?_eq_none]
      intro e' he'
      have hNe := h.template_ne hEntries he'
      rw [hKey] at hNe
      simpa using hNe
    rw [nameOf?, hEntries, List.find?_append, hOlder]
    simp [hKey]
  -- no other entry has its name, so no other one goes
  have hErase : ((w.roster k).erase e.1).entries = older ++ newer := by
    have hDistinct := (w.roster k).distinct
    show (w.roster k).entries.filter (fun e' => e'.1 ≠ e.1) = older ++ newer
    rw [hEntries, List.map_append, List.map_cons] at hDistinct
    have hOther : ∀ e' ∈ older ++ newer, e'.1 ≠ e.1 := by
      intro e' he' hName
      rw [List.nodup_middle, List.nodup_cons, ← List.map_append] at hDistinct
      exact hDistinct.1 (hName ▸ List.mem_map_of_mem he')
    rw [hEntries, List.filter_append, List.filter_cons_of_neg (by simp), ← List.filter_append,
      List.filter_eq_self]
    intro e' he'
    simpa using hOther e' he'
  refine ⟨w.withRoster k ((w.roster k).erase e.1), ?_, sameHead_withRoster .., ?_, ?_⟩
  · rw [World.deregister, hFind]
  · rw [roster_withRoster, if_pos rfl, hErase]
  · intro j hj
    rw [roster_withRoster, if_neg hj]

/-- Removing a registration changes a roster at most. -/
theorem sameHead_of_deregister (hDone : w.deregister k t = .ok w₁) : w.SameHead w₁ := by
  rw [World.deregister] at hDone
  split at hDone
  · cases hDone
  · cases hDone
    exact sameHead_withRoster ..

/-- A world stays faithful when a registration is removed. -/
theorem Faithful.of_deregister (h : w.Faithful c) (hDone : w.deregister k t = .ok w₁) :
    w.SameHead w₁ ∧ w₁.Faithful c := by
  refine ⟨sameHead_of_deregister hDone, fun j e he => h j e ?_⟩
  rw [World.deregister] at hDone
  split at hDone
  · cases hDone
  · rename_i name hName
    cases hDone
    -- a list becomes shorter, and no other one changes
    rw [roster_withRoster] at he
    split at he
    · rename_i hj
      subst hj
      exact (List.mem_filter.1 he).1
    · exact he

/-! ## Worlds in which parts have been registered -/

/-- A world is another one in which some parts have been registered, one after the other. -/
structure Extends (c : Catalog) (w : World) (parts : List Part) (w' : World) : Prop where
  head : w.SameHead w'
  entries : ∀ k, (w'.roster k).entries = (w.roster k).entries ++ c.registrations (ofKind k parts)

/-- To register nothing leaves the world as it is. -/
theorem Extends.refl (c : Catalog) (w : World) : w.Extends c [] w where
  head := ⟨rfl, rfl, rfl, rfl⟩
  entries k := by simp [ofKind]

/-- Parts that are registered after others come behind them in the rosters. -/
theorem Extends.trans (h : w.Extends c parts w₁) (h₁ : w₁.Extends c more w₂) :
    w.Extends c (parts ++ more) w₂ where
  head := h.head.trans h₁.head
  entries k := by simp [h₁.entries, h.entries]

theorem Extends.eq (h : w.Extends c [] w₁) : w₁ = w := by
  refine h.head.eq fun k => Table.ext_entries ?_
  simpa [ofKind] using h.entries k

/-- A registration goes to the end of its roster. -/
theorem extends_of_register (h : w.register c k t = .ok (d, w₁)) : w.Extends c [(k, t)] w₁ := by
  obtain ⟨hGet, -, hFree, rfl⟩ := register_eq_ok_iff.1 h
  refine ⟨sameHead_withRoster .., fun j => ?_⟩
  rw [roster_withRoster]
  by_cases hj : j = k
  -- the name is free, so it comes last
  · subst hj
    have hNew : d.name.key ∉ (w.roster j).keys := by
      rw [← Table.contains_iff, hFree]
      simp
    rw [if_pos rfl, Table.entries_insert_of_not_mem _ _ hNew, ofKind_self,
      Catalog.registrations_singleton hGet]
    rfl
  · rw [if_neg hj, ofKind_of_ne hj]
    simp

/-- A world to which declared parts are added still tells all names as they are declared. -/
theorem Extends.faithful (h : w.Extends c parts w₁) (hW : w.Faithful c)
    (hParts : ∀ p ∈ parts, c.Declares p.1 p.2) : w₁.Faithful c := by
  intro k e he
  rw [h.entries, List.mem_append] at he
  rcases he with hOld | hNew
  · exact hW k e hOld
  · obtain ⟨t, ht, d, hGet, rfl⟩ := Catalog.mem_registrations.1 hNew
    obtain ⟨d', hGet', hKind⟩ := hParts (k, t) (mem_ofKind.1 ht)
    rw [hGet] at hGet'
    cases hGet'
    exact ⟨d, hGet, hKind, rfl⟩

/-- What has been registered is in the roster of its kind. -/
theorem Extends.templateKeys_eq (h : w.Extends c parts w₁)
    (hParts : ∀ p ∈ parts, c.Declares p.1 p.2) (k : PartKind) :
    w₁.templateKeys k = w.templateKeys k ++ (ofKind k parts).map Value.key := by
  have hDeclared : ∀ t ∈ ofKind k parts, c.Declares k t :=
    fun t ht => hParts (k, t) (mem_ofKind.1 ht)
  rw [templateKeys, h.entries, List.map_append, Catalog.map_key_registrations hDeclared]
  rfl

/-- **Removing the registration of a part leaves the others**, those before it and those after. -/
theorem Extends.deregister (h : w.Extends c (done ++ (k, t) :: kept) w₁) (hW : w₁.Faithful c)
    (hPart : c.Declares k t) :
    ∃ w₂, w₁.deregister k t = .ok w₂ ∧ w.Extends c (done ++ kept) w₂ := by
  obtain ⟨d, hGet, -⟩ := hPart
  -- in the roster of its kind the registration stands between the earlier and the later ones
  have hSplit : ∀ j, ofKind j (done ++ (k, t) :: kept) =
      ofKind j done ++ (ofKind j [(k, t)] ++ ofKind j kept) := by
    intro j
    rw [← ofKind_append, ← ofKind_append]
    rfl
  have hEntries : (w₁.roster k).entries =
      ((w.roster k).entries ++ c.registrations (ofKind k done)) ++
        d.registration t :: c.registrations (ofKind k kept) := by
    rw [h.entries, hSplit, ofKind_self, Catalog.registrations_append, Catalog.registrations_append,
      Catalog.registrations_singleton hGet]
    simp
  obtain ⟨w₂, hDone, hHead, hSame, hOther⟩ := hW.deregister hEntries rfl
  refine ⟨w₂, hDone, h.head.trans hHead, fun j => ?_⟩
  by_cases hj : j = k
  · subst hj
    rw [hSame]
    simp
  · rw [hOther j hj, h.entries, hSplit, ofKind_of_ne hj]
    simp

end World

end WorldForge

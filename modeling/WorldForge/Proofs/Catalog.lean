import WorldForge.Catalog

/-!
# What declaring keeps

A catalog is reached from the empty one by declarations. In such a catalog the two tables answer for
each other: a declaration is found by its id, and the id by the declaration's kind and name. So of
one kind no two ids share a name, and an entry, once made, stays as it is. Whatever finds a
declaration is a key, since whether a value can change shows in its key.

Main results:

* `Reached.consistent` — the two tables of a reached catalog agree;
* `Consistent.key_eq` — declarations of the same kind and name have the same id;
* `get?_of_declare` — what is declared stays declared.
-/

namespace WorldForge

/-- A value is a key exactly if nothing in it can change, and then it is its own key and no other
one. -/
theorem Value.asKey_eq_ok_iff {v : Value} {k : Key} :
    v.asKey = .ok k ↔ v.changeable? = none ∧ v.key = k := by
  rw [Value.asKey]
  split
  · rename_i h
    simp [h]
  · rename_i part h
    simp [h]

/-- Whether a key is that of a value which can change. No such value is ever looked up. -/
def Key.canChange : Key → Bool
  | .list _ | .dictionary _ => true
  | .recipe t x => t.canChange || x.canChange
  | .declaration i n k => i.canChange || (n.canChange || k.canChange)
  | .request n cs ss => n.canChange || (cs.canChange || ss.canChange)
  | .cons first rest => first.canChange || rest.canChange
  | _ => false

mutual

/-- Whether something in a value can change can be told by its key alone. So values with the same
key are keys together, or none of them is. -/
theorem Value.isSome_changeable? : (v : Value) → v.changeable?.isSome = v.key.canChange
  -- only these three kinds of values have other values in them that count for their keys
  | .recipe t x => by
    simp [Value.changeable?, Value.key, Key.canChange, Value.isSome_changeable? t,
      Value.isSome_changeable? x]
  | .declaration i n k => by
    simp [Value.changeable?, Value.key, Key.canChange, Value.isSome_changeable? i,
      Value.isSome_changeable? n, Value.isSome_changeable? k]
  | .request n cs ss => by
    simp [Value.changeable?, Value.key, Key.canChange, Value.isSome_changeable? n,
      Value.isSome_firstChangeable? cs, Value.isSome_firstChangeable? ss]
  | .null | .bool _ | .int _ | .str _ | .list _ | .dictionary _ | .handles _ | .template _
  | .handle _ | .kind _ | .worldCreated _ | .world .. | .object .. => by
    simp [Value.changeable?, Value.key, Key.canChange, TemplateId.key, InstanceHandle.key]

/-- The same of several values, one after the other: this is what the induction needs where a
request lists its parts. -/
theorem Value.isSome_firstChangeable? :
    (vs : List Value) → (Value.firstChangeable? vs).isSome = (Value.keyOfAll vs).canChange
  | [] => by simp [Value.firstChangeable?, Value.keyOfAll, Key.canChange]
  | v :: rest => by
    simp [Value.firstChangeable?, Value.keyOfAll, Key.canChange, Value.isSome_changeable? v,
      Value.isSome_firstChangeable? rest]

end

/-- Whether a value can change shows in its key. -/
theorem Value.changeable?_congr {v w : Value} (h : v.key = w.key) (hw : w.changeable? = none) :
    v.changeable? = none := by
  rw [← Option.not_isSome_iff_eq_none, Value.isSome_changeable?] at hw ⊢
  rwa [h]

/-- A declaration is of a kind exactly if this kind stands in it, and not just a value that is in
place of one. -/
theorem Declaration.isOf_iff {d : Declaration} {k : TemplateKind} :
    d.isOf k = true ↔ d.kind = .kind k := by
  obtain ⟨id, name, kind⟩ := d
  cases kind <;> simp [Declaration.isOf, Value.kind?]

namespace Catalog

variable {c c' : Catalog} {kind name s t : Value} {id : Option Value} {d e : Declaration}

/-! ## Declaring -/

theorem get?_congr (h : s.key = t.key) : c.get? s = c.get? t := by
  rw [get?, get?, h]

/-- What has come of adding a declaration that was not refused: the catalog has it as its newest
entry, its id was free, and nothing in the id can change. -/
theorem add_eq_ok (h : c.add kind name s = .ok (t, c')) :
    c' = c.enter ⟨t, name, kind⟩ ∧ c.get? t = none ∧ t.changeable? = none := by
  rw [add] at h
  split at h
  · cases h
  · rename_i hKey
    split at h
    · cases h
    · rename_i hNone
      cases h
      exact ⟨rfl, hNone, (Value.asKey_eq_ok_iff.1 hKey).1⟩

/-- A declaration that succeeds finds its id, or enters it where there was none. -/
theorem declare_eq_ok (h : c.declare kind name id = .ok (t, c')) :
    c' = c ∧ c.idOf? kind name = some t ∨
      c' = c.enter ⟨t, name, kind⟩ ∧ c.get? t = none ∧ c.idOf? kind name = none ∧
        name.asKey = .ok name.key ∧ t.changeable? = none := by
  rw [declare] at h
  split at h
  · cases h
  · split at h
    · cases h
    · cases h
    · rename_i kindKey nameKey hKind hName
      have hKey : name.asKey = .ok name.key := by
        rw [Value.asKey_eq_ok_iff] at hName ⊢
        exact ⟨hName.1, rfl⟩
      split at h
      -- the kind and name are declared: the declaration finds their id, or refuses another one
      · rename_i existing hOld
        split at h
        · cases h
          exact .inl ⟨rfl, hOld⟩
        · cases h
      · rename_i hNew
        split at h
        · cases h
        · obtain ⟨hEnter, hFree, hFixed⟩ := add_eq_ok h
          exact .inr ⟨hEnter, hFree, hNew, hKey, hFixed⟩

/-- What is declared stays declared, and stays what it is. -/
theorem get?_of_declare (h : c.declare kind name id = .ok (s, c')) (hGet : c.get? t = some d) :
    c'.get? t = some d := by
  obtain ⟨rfl, -⟩ | ⟨rfl, hFree, -⟩ := declare_eq_ok h
  · exact hGet
  · rw [get?_enter]
    split
    -- the new id was free, so it is not this one
    · rename_i hKey
      rw [get?_congr hKey, hFree] at hGet
      cases hGet
    · exact hGet

/-! ## Reached catalogs -/

/-- The catalogs that come about by declaring. -/
inductive Reached : Catalog → Prop
  | empty : Reached .empty
  | declare {c c' : Catalog} {kind name t : Value} {id : Option Value} (h : Reached c)
      (hDeclare : c.declare kind name id = .ok (t, c')) : Reached c'

/-- The tables of a catalog agree, and ids and names are keys. -/
structure Consistent (c : Catalog) : Prop where
  named : ∀ {t d}, c.get? t = some d →
    d.id.key = t.key ∧ ∃ id, c.idOf? d.kind d.name = some id ∧ id.key = t.key
  keyed : ∀ {t d}, c.get? t = some d → d.name.asKey = .ok d.name.key
  fixed : ∀ {t d}, c.get? t = some d → t.changeable? = none
  strays : ∀ t, c.stray? t = none

/-- In the empty catalog nothing is to be found, so its two tables agree. -/
theorem consistent_empty : Consistent .empty where
  named h := by cases h
  keyed h := by cases h
  fixed h := by cases h
  strays _ := rfl

/-- A new entry of a kind and name that are not declared keeps the tables in agreement. -/
theorem Consistent.enter (h : c.Consistent) (hNew : c.idOf? kind name = none)
    (hKey : name.asKey = .ok name.key) (hFixed : t.changeable? = none) :
    (c.enter ⟨t, name, kind⟩).Consistent where
  named := by
    intro s d hGet
    rw [get?_enter] at hGet
    split at hGet
    · rename_i hSame
      cases hGet
      refine ⟨hSame.symm, t, ?_, hSame.symm⟩
      rw [idOf?_enter, if_pos rfl]
    · obtain ⟨hId, old, hOld, hOldKey⟩ := h.named hGet
      refine ⟨hId, old, ?_, hOldKey⟩
      -- the new kind and name are not those of an older declaration
      have hOther : (d.kind.key, d.name.key) ≠ (kind.key, name.key) := by
        intro hEq
        rw [idOf?, hEq] at hOld
        rw [idOf?, hOld] at hNew
        cases hNew
      rw [idOf?_enter, if_neg hOther, hOld]
  keyed := by
    intro s d hGet
    rw [get?_enter] at hGet
    split at hGet
    · cases hGet
      exact hKey
    · exact h.keyed hGet
  fixed := by
    intro s d hGet
    rw [get?_enter] at hGet
    split at hGet
    · rename_i hSame
      exact Value.changeable?_congr hSame hFixed
    · exact h.fixed hGet
  strays := h.strays

/-- **The tables of a reached catalog agree.** -/
theorem Reached.consistent (h : Reached c) : c.Consistent := by
  induction h with
  | empty => exact consistent_empty
  -- a declaration changes nothing, or enters what had not been declared
  | declare _ hDeclare ih =>
    obtain ⟨rfl, -⟩ | ⟨rfl, -, hNew, hKey, hFixed⟩ := declare_eq_ok hDeclare
    · exact ih
    · exact ih.enter hNew hKey hFixed

/-- Declarations of the same kind and name are one, and have the same id. -/
theorem Consistent.key_eq (h : c.Consistent) (hs : c.get? s = some d) (ht : c.get? t = some e)
    (hKind : d.kind.key = e.kind.key) (hName : d.name.key = e.name.key) : s.key = t.key := by
  obtain ⟨-, i, hi, hiKey⟩ := h.named hs
  obtain ⟨-, j, hj, hjKey⟩ := h.named ht
  -- the two are looked up in one place, so what is found there is one id
  rw [idOf?, hKind, hName] at hi
  rw [idOf?, hi] at hj
  cases hj
  rw [← hiKey, hjKey]

/-! ## What a catalog lists -/

/-- **A catalog lists declarations**: both tables hold them in the same order, one table by their
ids and the other by their kinds and names. -/
structure Lists (c : Catalog) (ds : List Declaration) : Prop where
  byId : c.byId.entries = ds.map fun d => (d.id.key, d)
  byName : c.byName.entries = ds.map fun d => ((d.kind.key, d.name.key), d.id)
  named : ∀ d ∈ ds, d.name.isNothing = false

namespace Lists

variable {ds : List Declaration}

/-- By an id a catalog gives a declaration exactly if this is listed under the id. The list is what
proofs go by, where the program looks into a table. -/
theorem get?_iff (h : c.Lists ds) : c.get? t = some d ↔ d ∈ ds ∧ d.id.key = t.key := by
  rw [get?, ← Table.mem_entries_iff, h.byId, List.mem_map]
  constructor
  · rintro ⟨e, hMem, hEq⟩
    obtain ⟨hKey, rfl⟩ := Prod.mk.inj hEq
    exact ⟨hMem, hKey⟩
  · rintro ⟨hMem, hKey⟩
    exact ⟨d, hMem, by rw [hKey]⟩

/-- By a kind and a name a catalog gives an id exactly if a declaration with this kind and name is
listed under it. -/
theorem idOf?_iff (h : c.Lists ds) : c.idOf? kind name = some t ↔
    ∃ d ∈ ds, d.id = t ∧ d.kind.key = kind.key ∧ d.name.key = name.key := by
  rw [idOf?, ← Table.mem_entries_iff, h.byName, List.mem_map]
  constructor
  · rintro ⟨d, hMem, hEq⟩
    obtain ⟨hKeys, hId⟩ := Prod.mk.inj hEq
    obtain ⟨hKind, hName⟩ := Prod.mk.inj hKeys
    exact ⟨d, hMem, hId, hKind, hName⟩
  · rintro ⟨d, hMem, hId, hKind, hName⟩
    exact ⟨d, hMem, by rw [hId, hKind, hName]⟩

/-- The size of a catalog counts its declarations, one for each. -/
theorem length_eq (h : c.Lists ds) : ds.length = c.size := by
  rw [size, Table.size, h.byId, List.length_map]

theorem nodup_ids (h : c.Lists ds) : (ds.map fun d => d.id.key).Nodup := by
  have hKeys := c.byId.distinct
  rwa [h.byId, List.map_map] at hKeys

/-- No two declarations that are listed have both the same kind and the same name. -/
theorem nodup_names (h : c.Lists ds) : (ds.map fun d => (d.kind.key, d.name.key)).Nodup := by
  have hKeys := c.byName.distinct
  rwa [h.byName, List.map_map] at hKeys

/-- A new entry is listed last. -/
theorem enter (h : c.Lists ds) (hFree : c.get? t = none) (hNew : c.idOf? kind name = none)
    (hName : name.isNothing = false) :
    (c.enter ⟨t, name, kind⟩).Lists (ds ++ [⟨t, name, kind⟩]) where
  byId := by
    rw [Catalog.enter, Table.entries_insert_of_not_mem _ _ (Table.find?_eq_none_iff.1 hFree),
      h.byId, List.map_append]
    rfl
  byName := by
    rw [Catalog.enter, Table.entries_insert_of_not_mem _ _ (Table.find?_eq_none_iff.1 hNew),
      h.byName, List.map_append]
    rfl
  named := by
    intro d hMem
    -- the entry goes to the end of both tables, as its id and its name are new
    rcases List.mem_append.1 hMem with hOld | hLast
    · exact h.named d hOld
    · obtain rfl := List.mem_singleton.1 hLast
      exact hName

end Lists

/-- What is declared has a name. -/
theorem isNothing_of_declare (h : c.declare kind name id = .ok (t, c')) :
    name.isNothing = false := by
  rw [declare] at h
  split at h
  · cases h
  · rename_i hName
    exact Bool.not_eq_true _ ▸ hName

/-- **A reached catalog lists what has been declared.** Both of its tables are made of one list of
declarations, to which each declaration that is entered is added at the end. What the catalog
answers can be read off this list. -/
theorem Reached.exists_lists (h : Reached c) : ∃ ds, c.Lists ds := by
  induction h with
  | empty => exact ⟨[], rfl, rfl, fun d hMem => by cases hMem⟩
  | declare _ hDeclare ih =>
    obtain ⟨ds, hLists⟩ := ih
    obtain ⟨rfl, -⟩ | ⟨rfl, hFree, hNew, -⟩ := declare_eq_ok hDeclare
    · exact ⟨ds, hLists⟩
    · exact ⟨_, hLists.enter hFree hNew (isNothing_of_declare hDeclare)⟩

/-- **A catalog pairs off** ids with kinds and names: each of its tables is the inverse of the
other. -/
structure Paired (c : Catalog) : Prop where
  /-- The id of a kind and name is the one under which a declaration of this kind and name
  stands. -/
  inverse : ∀ kind name t, (∃ s, c.idOf? kind name = some s ∧ s.key = t.key) ↔
    ∃ d, c.get? t = some d ∧ d.value.key = (Value.declaration t name kind).key
  /-- The id in a declaration is the one that its kind and name find. -/
  recorded : ∀ t d, c.get? t = some d → c.idOf? d.kind d.name = some d.id
  named : ∀ t d, c.get? t = some d → d.name.isNothing = false
  /-- The size of a catalog is the number of its declarations, no two of which share an id, or
  their kind and name. -/
  counted : ∃ ds : List Declaration, ds.length = c.size ∧
    (ds.map fun d => d.id.key).Nodup ∧ (ds.map fun d => (d.kind.key, d.name.key)).Nodup ∧
    ∀ t d, c.get? t = some d ↔ d ∈ ds ∧ d.id.key = t.key

/-- Declarations are the same key exactly if they agree in id, name and kind, each compared as a
key. -/
theorem key_declaration {d e : Declaration} : d.value.key = e.value.key ↔
    d.id.key = e.id.key ∧ d.name.key = e.name.key ∧ d.kind.key = e.kind.key := by
  simp [Declaration.value, Value.key]

/-- **A reached catalog pairs off** ids with kinds and names. -/
theorem Reached.paired (h : Reached c) : c.Paired := by
  obtain ⟨ds, hLists⟩ := h.exists_lists
  -- both tables list the same declarations in the same order, so each answers as the other does
  refine ⟨fun kind name t => ?_, fun t d hGet => ?_, fun t d hGet => ?_, ds, hLists.length_eq,
    hLists.nodup_ids, hLists.nodup_names, fun t d => hLists.get?_iff⟩
  · constructor
    · rintro ⟨s, hId, hKey⟩
      obtain ⟨d, hMem, rfl, hKind, hName⟩ := hLists.idOf?_iff.1 hId
      exact ⟨d, hLists.get?_iff.2 ⟨hMem, hKey⟩,
        key_declaration (e := ⟨t, name, kind⟩).2 ⟨hKey, hName, hKind⟩⟩
    · rintro ⟨d, hGet, hSame⟩
      obtain ⟨hKey, hName, hKind⟩ := key_declaration (e := ⟨t, name, kind⟩).1 hSame
      obtain ⟨hMem, -⟩ := hLists.get?_iff.1 hGet
      exact ⟨d.id, hLists.idOf?_iff.2 ⟨d, hMem, rfl, hKind, hName⟩, hKey⟩
  · obtain ⟨hMem, -⟩ := hLists.get?_iff.1 hGet
    exact hLists.idOf?_iff.2 ⟨d, hMem, rfl, rfl, rfl⟩
  · exact hLists.named d (hLists.get?_iff.1 hGet).1

/-! ## The outcome of a declaration -/

section Outcome

variable {k : TemplateKind} {n : Text} {asked : Option TemplateId}

/-- The id that a declaration asks for: the given one, else the derived one. A name without bytes
has no derived one. -/
def wantedId (k : TemplateKind) (n : Text) :
    Option TemplateId → Except Text.EncodingError TemplateId
  | some t => .ok t
  | none => derivedId k.label n

/-- The id for a named template is the one that is asked for, or else the derived one, or the error
that came up when it was derived. -/
theorem idFor_template : idFor (.kind k) (.str n) (asked.map .template) =
    match wantedId k n asked with
    | .error e => .error (.unencodable e)
    | .ok w => .ok (.template w) := by
  cases asked <;> rfl

/-- **An id derives from a name exactly if no surrogate stands in it.** -/
theorem exists_derivedId_iff : (∃ w, derivedId k.label n = .ok w) ↔ n.isWhole = true := by
  rw [← Text.isWhole_append_whole (k.label ++ ":") n, ← Text.encode_eq_ok_iff]
  rw [derivedId, declarationText, Text.append_whole]
  cases (Text.whole (k.label ++ ":") ++ n).encode <;> simp [Except.map]

/-- There is an id to ask for if one is given, and else if one derives from the name. -/
theorem exists_wantedId_iff :
    (∃ w, wantedId k n asked = .ok w) ↔ asked ≠ none ∨ n.isWhole = true := by
  cases asked with
  | some t => simp [wantedId]
  | none => rw [wantedId, exists_derivedId_iff, or_iff_right (fun h => h rfl)]

/-- So there is none exactly if none is given and a surrogate stands in the name. -/
theorem exists_wantedId_error_iff :
    (∃ e, wantedId k n asked = .error e) ↔ asked = none ∧ n.isWhole = false := by
  have hNone : asked = none ∧ n.isWhole = false ↔ ¬∃ w, wantedId k n asked = .ok w := by
    rw [exists_wantedId_iff, not_or, Bool.not_eq_true, Decidable.not_not]
  rw [hNone]
  cases wantedId k n asked <;> simp

/-- Of all texts only the empty one counts as nothing. A text with surrogates in it never does. -/
theorem isNothing_str : (Value.str n).isNothing = true ↔ n = "" := by
  by_cases h : n = ""
  · subst h
    exact iff_of_true rfl rfl
  · simp [Value.isNothing, h]

/-- Every template of a catalog is of one of the kinds. -/
def Sorted (c : Catalog) : Prop := ∀ t d, c.get? t = some d → ∃ k, d.kind = .kind k

/-- Where a declaration with a kind is entered, all of them are declared with kinds still. -/
theorem Sorted.enter {id name : Value} (h : c.Sorted) : (c.enter ⟨id, name, .kind k⟩).Sorted := by
  intro t d hGet
  rw [get?_enter] at hGet
  split at hGet
  · cases hGet
    exact ⟨k, rfl⟩
  · exact h t d hGet

/-- What the declaration of a template with a name comes to. -/
theorem declare_of_named (hName : n ≠ "") :
    c.declare (.kind k) (.str n) (asked.map .template) =
      match c.idOf? (.kind k) (.str n) with
      | some existing =>
        if asked.all (·.key = existing.key) then .ok (existing, c)
        else .error (.alreadyDeclared (.kind k) (.str n) existing)
      | none =>
        match wantedId k n asked with
        | .error e => .error (.unencodable e)
        | .ok w => c.add (.kind k) (.str n) (.template w) := by
  have hNamed : ¬ (Value.str n).isNothing = true := fun h => hName (isNothing_str.1 h)
  rw [declare, if_neg hNamed, Value.asKey_kind, Value.asKey_str, idFor_template]
  -- an id that is asked for matters only where the name is declared already; else it is the one
  -- that is wanted
  cases c.idOf? (.kind k) (.str n) with
  | some existing =>
    have hAll : (asked.map Value.template).all (·.key = existing.key) =
        asked.all (·.key = existing.key) := by
      cases asked <;> simp
    simp only [hAll]
    rfl
  | none => cases wantedId k n asked <;> rfl

/-- A declaration without a name is refused before anything else is looked at, and whichever id it
asks for. -/
theorem declare_of_nameless : c.declare kind (.str "") id = .error .emptyName := by
  rw [declare, if_pos (isNothing_str.2 rfl)]

/-- **When a declaration under an id is added**: exactly if the id is free. It is the newest entry
then, and its id is given back. -/
theorem add_template_eq_ok_iff {w : TemplateId} :
    c.add kind name (.template w) = .ok (t, c') ↔
      t = .template w ∧ c.get? t = none ∧ c' = c.enter ⟨t, name, kind⟩ := by
  -- an id can always be looked up, so the only obstacle is that it is taken
  rw [add, Value.asKey_template]
  dsimp only
  constructor
  · intro h
    split at h
    · cases h
    · rename_i hFree
      cases h
      exact ⟨rfl, hFree, rfl⟩
  · rintro ⟨rfl, hFree, rfl⟩
    rw [hFree]

/-- **When the declaration of a template succeeds**: it has a name, and is declared under the id
that it is given, if it is given any, or is not declared, and there is an id for it, which is free.
-/
theorem declare_template_eq_ok_iff :
    c.declare (.kind k) (.str n) (asked.map .template) = .ok (t, c') ↔ n ≠ "" ∧
      ((c.idOf? (.kind k) (.str n) = some t ∧ (∀ s ∈ asked, s.key = t.key) ∧ c' = c) ∨
        (c.idOf? (.kind k) (.str n) = none ∧ (∃ w, wantedId k n asked = .ok w ∧ t = .template w) ∧
          c.get? t = none ∧ c' = c.enter ⟨t, .str n, .kind k⟩)) := by
  by_cases hName : n = ""
  · subst hName
    rw [declare_of_nameless]
    exact iff_of_false (fun h => by cases h) fun h => h.1 rfl
  rw [declare_of_named hName]
  cases hId : c.idOf? (.kind k) (.str n) with
  | none =>
    cases hWanted : wantedId k n asked with
    | error e => simp
    | ok w => simp [hName, add_template_eq_ok_iff]
  | some existing =>
    -- the name is declared already, and the id that is asked for has to be the same
    have hAll : asked.all (·.key = existing.key) = true ↔ ∀ s ∈ asked, s.key = existing.key := by
      cases asked <;> simp
    dsimp only
    split
    · rename_i hSame
      constructor
      · intro h
        cases h
        exact ⟨hName, .inl ⟨rfl, hAll.1 hSame, rfl⟩⟩
      · rintro ⟨-, ⟨ht, -, rfl⟩ | ⟨ht, -⟩⟩
        · cases ht
          rfl
        · cases ht
    · rename_i hOther
      refine iff_of_false (fun h => by cases h) ?_
      rintro ⟨-, ⟨ht, hSame, -⟩ | ⟨ht, -⟩⟩
      · cases ht
        exact hOther (hAll.2 hSame)
      · cases ht

/-- **An id is to be derived and there is none**: the template is new, comes without an id, and a
surrogate stands in its name. -/
def Underivable (c : Catalog) (k : TemplateKind) (n : Text) (asked : Option TemplateId) : Prop :=
  c.idOf? (.kind k) (.str n) = none ∧ asked = none ∧ n.isWhole = false

/-- Without an id to derive, that is what the refusal tells. -/
theorem declare_of_underivable (hName : n ≠ "") (h : c.Underivable k n asked) :
    ∃ e, c.declare (.kind k) (.str n) (asked.map .template) = .error (.unencodable e) := by
  obtain ⟨hNew, hWanted⟩ := h
  obtain ⟨e, hNone⟩ := (exists_wantedId_error_iff (k := k)).2 hWanted
  rw [declare_of_named hName, hNew, hNone]
  exact ⟨e, rfl⟩

/-- Any other refusal of a template with a name tells of what has been declared. -/
theorem kind_of_declare_template {e : CatalogError} (hSorted : c.Sorted) (hName : n ≠ "")
    (hDerivable : ¬c.Underivable k n asked)
    (h : c.declare (.kind k) (.str n) (asked.map .template) = .error e) : e.kind = .badState := by
  rw [declare_of_named hName] at h
  split at h
  · split at h
    · cases h
    · cases h
      rfl
  · rename_i hNew
    cases hWanted : wantedId k n asked with
    | error e' => exact absurd ⟨hNew, exists_wantedId_error_iff.1 ⟨e', hWanted⟩⟩ hDerivable
    | ok w =>
      -- the id is taken, and who has it can be told if it was declared as one of the kinds
      rw [hWanted] at h
      dsimp only at h
      rw [add, Value.asKey_template] at h
      dsimp only at h
      split at h
      · rename_i owner hOwner
        obtain ⟨k', hKind⟩ := hSorted _ _ hOwner
        rw [hKind] at h
        cases h
        rfl
      · cases h

end Outcome

/-! ## Declared parts -/

/-- A template is declared as a part of a kind. -/
def Declares (c : Catalog) (k : PartKind) (given : Value) : Prop :=
  ∃ d, c.get? given = some d ∧ d.isOf k.toTemplateKind = true

/-- Parts of one kind that are declared under the same name are one template. -/
theorem Consistent.key_eq_of_name {k : TemplateKind} (h : c.Consistent) (hs : c.get? s = some d)
    (ht : c.get? t = some e) (hd : d.isOf k = true) (he : e.isOf k = true)
    (hName : d.name.key = e.name.key) : s.key = t.key := by
  refine h.key_eq hs ht ?_ hName
  rw [Declaration.isOf_iff.1 hd, Declaration.isOf_iff.1 he]

end Catalog

end WorldForge

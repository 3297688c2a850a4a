/-!
# Tables that remember their order

A `Table` maps keys to values and lists them in the order in which the keys came in. Writing a
key that is present replaces its value where it stands; a new key goes to the end; removing a
key closes the gap. No key occurs twice, and the type says so.

* `find?_insert`, `find?_erase` — what a look-up sees after a write and after a removal;
* `keys_insert_of_not_mem`, `keys_erase` — what the order of the keys is then.
-/

namespace WorldForge

/-- Two filters of a list may be applied in either order. -/
theorem filter_comm {α : Type} (p q : α → Bool) (l : List α) :
    (l.filter p).filter q = (l.filter q).filter p := by
  rw [List.filter_filter, List.filter_filter]
  exact List.filter_congr fun a _ => Bool.and_comm _ _

/-- Pairs of a key and a value in the order of arrival, at most one for each key. -/
structure Table (κ ν : Type) where
  /-- The pairs, oldest first. -/
  entries : List (κ × ν)
  /-- No key occurs twice. -/
  distinct : (entries.map Prod.fst).Nodup

namespace Table

variable {κ ν : Type}

/-- Two tables with the same pairs in the same order are the same table. -/
theorem ext_entries {s t : Table κ ν} (h : s.entries = t.entries) : s = t := by
  cases s
  cases t
  cases h
  rfl

/-- The table without entries. -/
def empty : Table κ ν := ⟨[], List.nodup_nil⟩

instance : Inhabited (Table κ ν) := ⟨empty⟩

/-- The keys, oldest first. -/
def keys (t : Table κ ν) : List κ := t.entries.map Prod.fst

/-- The values, in the order of their keys. -/
def values (t : Table κ ν) : List ν := t.entries.map Prod.snd

/-- The number of entries. -/
def size (t : Table κ ν) : Nat := t.entries.length

variable [DecidableEq κ]

/-- The value stored under a key. -/
def find? (t : Table κ ν) (k : κ) : Option ν := t.entries.lookup k

/-- Whether a key is present. -/
def contains (t : Table κ ν) (k : κ) : Bool := (t.find? k).isSome

/-- Stores `v` under `k`: in place when `k` is present, else at the end. -/
def write (k : κ) (v : ν) : List (κ × ν) → List (κ × ν)
  | [] => [(k, v)]
  | e :: rest => if e.1 = k then (k, v) :: rest else e :: write k v rest

/-- A write adds its own key to the keys, and no other one. -/
theorem mem_keys_write {k j : κ} {v : ν} {l : List (κ × ν)} :
    j ∈ (write k v l).map Prod.fst ↔ j = k ∨ j ∈ l.map Prod.fst := by
  induction l with
  | nil => simp [write]
  | cons e rest ih =>
    by_cases h : e.1 = k
    · simp [write, h]
    · simp only [write, h, if_false, List.map_cons, List.mem_cons, ih]
      constructor
      · rintro (h | h | h) <;> simp [h]
      · rintro (h | h | h) <;> simp [h]

/-- Writing keeps the keys of a list apart. This is what makes `insert` possible on tables. -/
theorem nodup_write {k : κ} {v : ν} {l : List (κ × ν)} (hl : (l.map Prod.fst).Nodup) :
    ((write k v l).map Prod.fst).Nodup := by
  induction l with
  | nil => simp [write]
  | cons e rest ih =>
    obtain ⟨hNew, hRest⟩ := List.nodup_cons.1 hl
    by_cases h : e.1 = k
    -- the key is written where it stands, so the keys are as before
    · subst h
      simpa [write] using ⟨by simpa using hNew, hRest⟩
    · simp only [write, h, if_false, List.map_cons]
      refine List.nodup_cons.2 ⟨?_, ih hRest⟩
      rw [mem_keys_write]
      rintro (h' | h')
      · exact h h'
      · exact hNew h'

/-- Stores a value under a key. -/
def insert (t : Table κ ν) (k : κ) (v : ν) : Table κ ν :=
  ⟨write k v t.entries, nodup_write t.distinct⟩

/-- Removes a key. -/
def erase (t : Table κ ν) (k : κ) : Table κ ν :=
  ⟨t.entries.filter fun e => e.1 ≠ k,
    t.distinct.sublist (List.filter_sublist.map Prod.fst)⟩

/-- The table that a list of writes leaves behind, the writes made from left to right. -/
def ofList (l : List (κ × ν)) : Table κ ν := l.foldl (fun t e => t.insert e.1 e.2) empty

/-! ## Look-ups -/

/-- A look-up sees the first pair if the keys agree, and otherwise looks among the rest. The library
states this with a comparison by `==`. -/
theorem lookup_cons_eq_ite (k j : κ) (v : ν) (l : List (κ × ν)) :
    ((k, v) :: l).lookup j = if j = k then some v else l.lookup j := by
  by_cases h : j = k
  · simp [h]
  · simp [List.lookup_cons, h, beq_eq_false_iff_ne.2 h]

/-- A look-up after a write sees what has been written under its key, and under every other key what
was there before. -/
theorem lookup_write (k j : κ) (v : ν) (l : List (κ × ν)) :
    (write k v l).lookup j = if j = k then some v else l.lookup j := by
  induction l with
  | nil => exact lookup_cons_eq_ite k j v []
  | cons e rest ih =>
    obtain ⟨i, u⟩ := e
    by_cases hi : i = k
    -- the key is written where it stands
    · subst hi
      simp only [write, if_true, lookup_cons_eq_ite]
      split <;> rfl
    · simp only [write, hi, if_false, lookup_cons_eq_ite, ih]
      by_cases hj : j = i
      · subst hj
        simp [hi]
      · simp [hj]

/-- A look-up after a removal finds nothing under the key that is gone, and under every other key
what was there before. -/
theorem lookup_filter_ne (k j : κ) (l : List (κ × ν)) :
    (l.filter fun e => e.1 ≠ k).lookup j = if j = k then none else l.lookup j := by
  induction l with
  | nil => simp
  | cons e rest ih =>
    obtain ⟨i, u⟩ := e
    by_cases hi : i = k
    · subst hi
      by_cases hj : j = i
      · simpa [hj] using ih
      · simpa [lookup_cons_eq_ite, hj] using ih
    · by_cases hj : j = i
      · subst hj
        simp [hi]
      · simpa [lookup_cons_eq_ite, hi, hj] using ih

/-- Where only some keys are kept, those are found as before. -/
theorem lookup_filter_of_pos (p : κ → Bool) {k : κ} (hk : p k = true) (l : List (κ × ν)) :
    (l.filter fun e => p e.1).lookup k = l.lookup k := by
  induction l with
  | nil => rfl
  | cons e rest ih =>
    obtain ⟨i, u⟩ := e
    by_cases hi : p i = true
    · simp only [List.filter_cons, hi, if_true, List.lookup_cons, ih]
    -- what is left out has another key
    · have hNe : k ≠ i := by
        rintro rfl
        exact hi hk
      simp [hi, ih, lookup_cons_eq_ite, hNe]

/-- A write of a key that passes a filter can be done before the filter or after it. This holds
whether the key is new or not. -/
theorem filter_write_of_pos (p : κ → Bool) {k : κ} (hk : p k = true) (v : ν) (l : List (κ × ν)) :
    (write k v l).filter (fun e => p e.1) = write k v (l.filter fun e => p e.1) := by
  induction l with
  | nil => simp [write, hk]
  | cons e rest ih =>
    by_cases he : e.1 = k
    · simp [write, he, hk]
    · by_cases hp : p e.1 = true
      · simp [write, he, hp, ih]
      · simp [write, he, hp, ih]

/-- A write of a key that does not pass a filter is not seen behind it. -/
theorem filter_write_of_neg (p : κ → Bool) {k : κ} (hk : p k = false) (v : ν) (l : List (κ × ν)) :
    (write k v l).filter (fun e => p e.1) = l.filter fun e => p e.1 := by
  induction l with
  | nil => simp [write, hk]
  | cons e rest ih =>
    by_cases he : e.1 = k
    · simp [write, he, hk]
    · by_cases hp : p e.1 = true
      · simp [write, he, hp, ih]
      · simp [write, he, hp, ih]

@[simp] theorem find?_empty (k : κ) : (empty : Table κ ν).find? k = none := rfl

/-- A write is seen under its own key, and nowhere else. -/
theorem find?_insert (t : Table κ ν) (k j : κ) (v : ν) :
    (t.insert k v).find? j = if j = k then some v else t.find? j :=
  lookup_write k j v t.entries

@[simp] theorem find?_insert_self (t : Table κ ν) (k : κ) (v : ν) :
    (t.insert k v).find? k = some v := by
  simp [find?_insert]

/-- What is found under one key does not depend on writes under others. -/
theorem find?_insert_of_ne (t : Table κ ν) {k j : κ} (v : ν) (h : j ≠ k) :
    (t.insert k v).find? j = t.find? j := by
  simp [find?_insert, h]

/-- A removal is seen under its own key, and nowhere else. -/
theorem find?_erase (t : Table κ ν) (k j : κ) :
    (t.erase k).find? j = if j = k then none else t.find? j :=
  lookup_filter_ne k j t.entries

@[simp] theorem find?_erase_self (t : Table κ ν) (k : κ) : (t.erase k).find? k = none := by
  simp [find?_erase]

/-- What is found under one key does not depend on removals under others. -/
theorem find?_erase_of_ne (t : Table κ ν) {k j : κ} (h : j ≠ k) :
    (t.erase k).find? j = t.find? j := by
  simp [find?_erase, h]

/-! ## Keys and their order -/

/-- Something is found under a key exactly if the key is there. -/
theorem lookup_isSome_iff {l : List (κ × ν)} {k : κ} :
    (l.lookup k).isSome = true ↔ k ∈ l.map Prod.fst := by
  induction l with
  | nil => simp
  | cons e rest ih =>
    obtain ⟨i, u⟩ := e
    by_cases h : k = i
    · subst h
      simp
    · simp [lookup_cons_eq_ite, h, ih]

/-- `contains` is the question whether a key is there as the program asks it, and `keys` is what
proofs speak of. -/
theorem contains_iff {t : Table κ ν} {k : κ} : t.contains k = true ↔ k ∈ t.keys :=
  lookup_isSome_iff

/-- Nothing is found under a key exactly if the key is not there. -/
theorem find?_eq_none_iff {t : Table κ ν} {k : κ} : t.find? k = none ↔ k ∉ t.keys := by
  rw [← contains_iff, contains]
  cases t.find? k <;> simp

theorem mem_keys_iff {t : Table κ ν} {k : κ} : k ∈ t.keys ↔ ∃ v, t.find? k = some v := by
  rw [← contains_iff, contains, Option.isSome_iff_exists]

/-- An entry is what a look-up of its key finds. -/
theorem mem_entries_iff {t : Table κ ν} {k : κ} {v : ν} :
    (k, v) ∈ t.entries ↔ t.find? k = some v := by
  obtain ⟨l, hl⟩ := t
  show (k, v) ∈ l ↔ l.lookup k = some v
  induction l with
  | nil => simp
  | cons e rest ih =>
    obtain ⟨i, u⟩ := e
    obtain ⟨hNew, hRest⟩ := List.nodup_cons.1 hl
    by_cases h : k = i
    -- the key is that of the first entry, and of no other one
    · subst h
      have hOther : (k, v) ∉ rest := fun hMem => hNew (List.mem_map.2 ⟨(k, v), hMem, rfl⟩)
      simp [hOther, eq_comm]
    · simp [lookup_cons_eq_ite, h, ih hRest]

theorem mem_values_iff {t : Table κ ν} {v : ν} : v ∈ t.values ↔ ∃ k, t.find? k = some v := by
  simp only [values, List.mem_map, Prod.exists, exists_eq_right, mem_entries_iff]

/-- A new key goes to the end. -/
theorem entries_insert_of_not_mem (t : Table κ ν) {k : κ} (v : ν) (h : k ∉ t.keys) :
    (t.insert k v).entries = t.entries ++ [(k, v)] := by
  obtain ⟨l, hl⟩ := t
  simp only [insert, keys] at h ⊢
  clear hl
  induction l with
  | nil => rfl
  | cons e rest ih =>
    have hek : e.1 ≠ k := fun he => h (by simp [he])
    simp only [write, hek, if_false, List.cons_append]
    rw [ih fun hk => h (by simp [hk])]

/-- A new key goes to the end, behind all that have been written before. -/
theorem keys_insert_of_not_mem (t : Table κ ν) {k : κ} (v : ν) (h : k ∉ t.keys) :
    (t.insert k v).keys = t.keys ++ [k] := by
  rw [keys, entries_insert_of_not_mem t v h]
  simp [keys]

/-- A key that is present keeps its place. -/
theorem keys_insert_of_mem (t : Table κ ν) {k : κ} (v : ν) (h : k ∈ t.keys) :
    (t.insert k v).keys = t.keys := by
  obtain ⟨l, hl⟩ := t
  simp only [insert, keys] at h ⊢
  clear hl
  induction l with
  | nil => cases h
  | cons e rest ih =>
    by_cases hek : e.1 = k
    · simp [write, hek]
    · have hRest : k ∈ rest.map Prod.fst := by
        rcases List.mem_cons.1 h with hHead | hTail
        · exact absurd hHead.symm hek
        · exact hTail
      simp [write, hek, ih hRest]

/-- Of two writes under one key the second counts. -/
theorem insert_insert (t : Table κ ν) (k : κ) (u v : ν) :
    (t.insert k u).insert k v = t.insert k v := by
  apply ext_entries
  obtain ⟨l, hl⟩ := t
  show write k v (write k u l) = write k v l
  clear hl
  induction l with
  | nil => simp [write]
  | cons e rest ih => by_cases h : e.1 = k <;> simp [write, h, ih]

/-- Writing what is there changes nothing. -/
theorem insert_of_find? (t : Table κ ν) {k : κ} {v : ν} (h : t.find? k = some v) :
    t.insert k v = t := by
  apply ext_entries
  obtain ⟨l, hl⟩ := t
  change l.lookup k = some v at h
  show write k v l = l
  clear hl
  -- the entry is written where it is found first
  induction l with
  | nil => cases h
  | cons e rest ih =>
    obtain ⟨i, u⟩ := e
    by_cases hi : i = k
    · subst hi
      rw [lookup_cons_eq_ite, if_pos rfl, Option.some.injEq] at h
      simp [write, h]
    · rw [lookup_cons_eq_ite, if_neg (Ne.symm hi)] at h
      simp [write, hi, ih h]

/-- Removing a key leaves the others in their order. -/
theorem keys_erase (t : Table κ ν) (k : κ) : (t.erase k).keys = t.keys.filter (· ≠ k) := by
  obtain ⟨l, hl⟩ := t
  simp only [erase, keys]
  clear hl
  induction l with
  | nil => rfl
  | cons e rest ih =>
    by_cases h : e.1 = k <;> simp [h] at ih ⊢ <;> simpa using ih

/-- Removing a key that is not there changes nothing. -/
theorem erase_of_not_mem (t : Table κ ν) {k : κ} (h : k ∉ t.keys) : t.erase k = t := by
  apply ext_entries
  show t.entries.filter _ = t.entries
  rw [List.filter_eq_self]
  intro e he
  have : e.1 ≠ k := fun hk => h (hk ▸ List.mem_map_of_mem he)
  simpa using this

@[simp] theorem erase_erase (t : Table κ ν) (k : κ) : (t.erase k).erase k = t.erase k := by
  apply erase_of_not_mem
  rw [keys_erase]
  simp

/-- What stands under a key is removed with it. -/
@[simp] theorem erase_insert (t : Table κ ν) (k : κ) (v : ν) :
    (t.insert k v).erase k = t.erase k := by
  apply ext_entries
  show (write k v t.entries).filter _ = t.entries.filter _
  induction t.entries with
  | nil => simp [write]
  | cons e rest ih =>
    by_cases h : e.1 = k
    · simp [write, h]
    · simp only [write, if_neg h, List.filter_cons, ih]

/-- A write under another key may as well be made after the removal. -/
theorem erase_insert_of_ne (t : Table κ ν) {j k : κ} (v : ν) (h : j ≠ k) :
    (t.insert j v).erase k = (t.erase k).insert j v :=
  ext_entries (filter_write_of_pos (fun i => i ≠ k) (by simpa using h) v t.entries)

/-- Two keys may be removed in either order, since what is left keeps its order in any case. -/
theorem erase_comm (t : Table κ ν) (j k : κ) : (t.erase j).erase k = (t.erase k).erase j :=
  ext_entries (filter_comm ..)

/-- Removing the key that was added last gives the table back. -/
theorem erase_insert_of_not_mem (t : Table κ ν) {k : κ} (v : ν) (h : k ∉ t.keys) :
    (t.insert k v).erase k = t := by
  rw [erase_insert, erase_of_not_mem t h]

end Table

end WorldForge

import WorldForge.Proofs.Ledger.Coherence
import WorldForge.Proofs.Realm.Changes

/-!
# The histories of the ledgers of a realm

A realm may have many ledgers, and some of them may deploy from one catalog. For each ledger, a
change of the realm is one of three things: it does not concern the ledger at all, or something has
been declared in its catalog, or moves have been made on it. So in every realm that has come about
by changes from the empty one, each ledger has a history of its own, and further changes only go on
with it.

The catalog of a ledger was there before the ledger, so its number is the lower one.

Main results:

* `Change.goesOn` — a change goes on with the history of every ledger;
* `stable_lawful` — in a realm that has come about by changes, every ledger has a history;
* `stable_goesOn` — the history of a ledger goes on through all changes;
* `stable_known` — a known world stays known, on every ledger, and only its rosters change.
-/

namespace WorldForge.Realm

variable {κ : Type} {r r' : Realm κ} {i j k : Nat} {c : Catalog} {o : LedgerObject}

@[simp] theorem catalog_putCatalog :
    (r.putCatalog k c).catalog i = if i = k then c else r.catalog i := by
  rw [catalog, putCatalog, Table.find?_insert]
  split <;> rfl

@[simp] theorem ledger_putCatalog : (r.putCatalog k c).ledger j = r.ledger j := rfl

@[simp] theorem catalog_putLedger : (r.putLedger k o).catalog i = r.catalog i := rfl

/-- A ledger deploys from a catalog of the realm. -/
theorem scene_of_catalog (h : (r.ledger j).catalog = .object .catalog i) :
    r.scene j = ⟨r.catalog i, (r.ledger j).ledger⟩ := by
  rw [scene, catalogFor, h]
  rfl

/-- The scene of a ledger depends on the ledger and its own catalog, and on nothing else in a
realm. -/
theorem scene_congr (hOwn : (r.ledger j).catalog = .object .catalog i)
    (hCatalog : r'.catalog i = r.catalog i) (hLedger : r'.ledger j = r.ledger j) :
    r'.scene j = r.scene j := by
  rw [scene_of_catalog hOwn, scene_of_catalog (by rw [hLedger]; exact hOwn), hCatalog, hLedger]

/-! ## One change -/

/-- What one change does to a ledger: the ledger keeps its catalog, and its scene is taken
further. -/
structure GoesOn (r : Realm κ) (j i : Nat) (r' : Realm κ) : Prop where
  catalog : (r'.ledger j).catalog = .object .catalog i
  leads : (r.scene j).LeadsTo (r'.scene j)

/-- A change that has nothing to do with a ledger and its catalog goes on with its history by no
move at all. -/
theorem goesOn_of_same (hOwn : (r.ledger j).catalog = .object .catalog i)
    (hCatalog : r'.catalog i = r.catalog i) (hLedger : r'.ledger j = r.ledger j) :
    r.GoesOn j i r' where
  catalog := by
    rw [hLedger]
    exact hOwn
  leads := by
    rw [scene_congr hOwn hCatalog hLedger]
    exact .refl _

/-- **A change goes on with the history of every ledger** that is there. -/
theorem Change.goesOn (h : Change r r') (hOwn : (r.ledger j).catalog = .object .catalog i)
    (hThere : j < r.next) (hOlder : i < j) : r.GoesOn j i r' := by
  cases h with
  | aside hCatalogs hLedgers _ =>
    refine goesOn_of_same hOwn ?_ ?_
    · rw [Realm.catalog, Realm.catalog, hCatalogs]
    · rw [Realm.ledger, Realm.ledger, hLedgers]
  | @declared k c kind name t id hDeclare =>
    by_cases hSame : i = k
    · subst hSame
      refine ⟨hOwn, [.declare kind name id], ?_⟩
      rw [scene_of_catalog hOwn, scene_of_catalog (r := r.putCatalog i c) hOwn]
      simpa using Scene.perform_declare_of_ok hDeclare
    · exact goesOn_of_same hOwn (by simp [hSame]) rfl
  | @moved k l faults hLeads =>
    by_cases hSame : j = k
    · subst hSame
      have hOwn' : ((r.putLedger j ⟨(r.ledger j).catalog, l, faults⟩).ledger j).catalog =
          .object .catalog i := by simpa using hOwn
      refine ⟨hOwn', ?_⟩
      rw [scene_of_catalog hOwn']
      rw [catalogFor, hOwn] at hLeads
      simpa [catalogOf] using hLeads
    · exact goesOn_of_same hOwn rfl (by simp [hSame])
  -- a new object has a number of its own
  | newCatalog =>
    have hOther : i ≠ r.next := by omega
    exact goesOn_of_same hOwn (catalog_putCatalog.trans (if_neg hOther)) rfl
  | newLedger =>
    have hOther : j ≠ r.next := by omega
    exact goesOn_of_same hOwn rfl (ledger_putLedger.trans (if_neg hOther))

/-! ## All changes -/

/-- **A realm is lawful** if it can have come about by changes from the empty one: so have its
catalogs, and every ledger has a history. -/
structure Lawful (r : Realm κ) : Prop where
  catalogs : ∀ i, (r.catalog i).Reached
  /-- A ledger that is not there has no catalog. -/
  absent : ∀ j, r.next ≤ j → (r.ledger j).catalog = .null
  histories : ∀ j i, (r.ledger j).catalog = .object .catalog i → i < j →
    ∃ c moves, c.Reached ∧ (Scene.opening c).after moves = r.scene j

/-- The realm at the start is lawful, as there is no ledger in it and no catalog. -/
theorem lawful_empty : (empty : Realm κ).Lawful where
  catalogs _ := .empty
  absent _ _ := rfl
  histories _ _ hOwn _ := by cases hOwn

/-- A ledger with a catalog is there. -/
theorem Lawful.there (h : r.Lawful) (hOwn : (r.ledger j).catalog = .object .catalog i) :
    j < r.next := by
  by_contra hAbsent
  rw [h.absent j (Nat.le_of_not_lt hAbsent)] at hOwn
  cases hOwn

/-- A history that goes on is a history. -/
theorem Lawful.goesOn (h : r.Lawful) (hOwn : (r.ledger j).catalog = .object .catalog i)
    (hOlder : i < j) (hOn : r.GoesOn j i r') :
    ∃ c moves, c.Reached ∧ (Scene.opening c).after moves = r'.scene j := by
  obtain ⟨c, moves, hReached, hHistory⟩ := h.histories j i hOwn hOlder
  obtain ⟨more, hMore⟩ := hOn.leads
  exact ⟨c, moves ++ more, hReached, by rw [Scene.after_append, hHistory, hMore]⟩

/-- The ledgers of a lawful realm have come about by calls. -/
theorem Lawful.reached (h : r.Lawful) (hOwn : (r.ledger j).catalog = .object .catalog i)
    (hOlder : i < j) :
    ∃ handed, Ledger.Reached (r.catalogFor j) (r.ledger j).ledger handed := by
  obtain ⟨c, moves, hReached, hHistory⟩ := h.histories j i hOwn hOlder
  have hAfter := Scene.reached_of_opening hReached moves
  rw [hHistory] at hAfter
  exact ⟨_, hAfter⟩

/-- **What a change does to any ledger**, whatever it deploys from: it makes moves on it, or it has
just made the ledger. -/
theorem Change.ledger_cases (h : Change r r') (j : Nat) :
    ((r'.ledger j).catalog = (r.ledger j).catalog ∧
      ∃ c moves, ((Scene.mk c (r.ledger j).ledger).after moves).ledger = (r'.ledger j).ledger) ∨
      j = r.next ∧ (r'.ledger j).ledger = .empty ∧ r.next < r'.next := by
  have hSame : r'.ledger j = r.ledger j → (r'.ledger j).catalog = (r.ledger j).catalog ∧
      ∃ c moves, ((Scene.mk c (r.ledger j).ledger).after moves).ledger = (r'.ledger j).ledger :=
    fun hLedger => ⟨by rw [hLedger], .empty, [], by rw [hLedger]; rfl⟩
  -- a ledger that is not the one of the change is as it was
  cases h with
  | aside _ hLedgers _ => exact .inl (hSame (by rw [Realm.ledger, Realm.ledger, hLedgers]))
  | declared => exact .inl (hSame rfl)
  | newCatalog => exact .inl (hSame rfl)
  | @moved k l faults hLeads =>
    refine .inl ?_
    by_cases hk : j = k
    · subst hk
      obtain ⟨moves, hMoves⟩ := hLeads
      rw [ledger_putLedger, if_pos rfl]
      exact ⟨rfl, r.catalogFor j, moves, congrArg Scene.ledger hMoves⟩
    · exact hSame (by rw [ledger_putLedger, if_neg hk])
  | newLedger =>
    by_cases hNew : j = r.next
    · refine .inr ⟨hNew, ?_, Nat.lt_succ_self _⟩
      rw [ledger_putLedger, if_pos hNew]
    · refine .inl (hSame ?_)
      rw [ledger_putLedger, if_neg hNew]
      rfl

/-- A change leaves each catalog a reached one: it takes up one declaration at most. -/
theorem Change.reached (h : Change r r') (hReached : ∀ i, (r.catalog i).Reached) (i : Nat) :
    (r'.catalog i).Reached := by
  cases h with
  | aside hCatalogs _ _ =>
    rw [Realm.catalog, hCatalogs]
    exact hReached i
  | declared hDeclare =>
    rw [catalog_putCatalog]
    split
    · exact .declare (hReached _) hDeclare
    · exact hReached i
  | moved => exact hReached i
  | newCatalog =>
    rw [catalog_putCatalog]
    split
    · exact .empty
    · exact hReached i
  | newLedger => exact hReached i

/-- **What has come about by changes is lawful**, and stays so. -/
theorem stable_lawful : Stable (Lawful (κ := κ)) := by
  intro r r' hChange h
  refine ⟨hChange.reached h.catalogs, fun j hj => ?_, fun j i hOwn hOlder => ?_⟩
  · rcases hChange.ledger_cases j with ⟨hSame, -⟩ | ⟨rfl, -, hNext⟩
    · rw [hSame]
      exact h.absent j (Nat.le_trans hChange.next_le hj)
    · omega
  · rcases hChange.ledger_cases j with ⟨hSame, -⟩ | ⟨rfl, hNew, -⟩
    · rw [hSame] at hOwn
      exact h.goesOn hOwn hOlder (hChange.goesOn hOwn (h.there hOwn) hOlder)
    -- the history of a new ledger begins with its catalog as it is
    · refine ⟨r'.catalog i, [], hChange.reached h.catalogs i, ?_⟩
      rw [scene_of_catalog hOwn, hNew]
      rfl

/-- **The history of a ledger goes on** through all changes. -/
theorem stable_goesOn (r : Realm κ) (hOlder : i < j) :
    Stable fun r' => r'.Lawful ∧ r.GoesOn j i r' := by
  rintro s s' hChange ⟨hLawful, hOn⟩
  have hStep := hChange.goesOn hOn.catalog (hLawful.there hOn.catalog) hOlder
  exact ⟨stable_lawful _ _ hChange hLawful, hStep.catalog, hOn.leads.trans hStep.leads⟩

/-! ## Known worlds -/

/-- **All ledgers are tidy**, also those that deploy from no catalog of the realm. -/
def Tidy (r : Realm κ) : Prop := ∀ j, (r.ledger j).ledger.Tidy

/-- The ledgers of the realm at the start are tidy, as all of them are empty. -/
theorem tidy_empty : (empty : Realm κ).Tidy := fun _ => Ledger.tidy_empty

/-- **No change makes a ledger untidy.** A ledger is moved, or it is a new one. -/
theorem stable_tidy : Stable (Tidy (κ := κ)) := by
  intro r r' hChange hTidy j
  rcases hChange.ledger_cases j with ⟨-, c, moves, hMoves⟩ | ⟨-, hNew, -⟩
  · rw [← hMoves]
    exact Scene.tidy_after (hTidy j) moves
  · rw [hNew]
    exact Ledger.tidy_empty

/-- **A known world stays known** through all changes, and only its rosters change. -/
theorem stable_known (j : Nat) (x : InstanceHandle) (w : World) :
    Stable fun r : Realm κ => r.Tidy ∧ j < r.next ∧
      ∃ w', (r.ledger j).ledger.world? x = some w' ∧ w.SameHead w' := by
  rintro r r' hChange ⟨hTidy, hThere, w₁, hKnown, hHead⟩
  refine ⟨stable_tidy _ _ hChange hTidy, Nat.lt_of_lt_of_le hThere hChange.next_le, ?_⟩
  rcases hChange.ledger_cases j with ⟨-, c, moves, hMoves⟩ | ⟨hNew, -, -⟩
  · obtain ⟨w', hKnown', hHead'⟩ := Scene.known_after (s := ⟨c, (r.ledger j).ledger⟩) (hTidy j)
      hKnown moves
    rw [hMoves] at hKnown'
    exact ⟨w', hKnown', hHead.trans hHead'⟩
  · exact absurd hThere (hNew ▸ Nat.lt_irrefl _)

end WorldForge.Realm

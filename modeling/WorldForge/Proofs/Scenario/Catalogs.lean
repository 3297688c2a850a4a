import WorldForge.Proofs.Realm.Service
import WorldForge.Proofs.Scenario.Ledgers

/-!
# Catalogs in a session

Declaring is the only way to change a catalog that is there, and it only ever adds one entry. So
whatever is called in a session, and from wherever, a catalog pairs off ids with kinds and names,
and what it holds it holds for good. Whether a declaration is granted can be told from the catalog
alone. An id that is derived may turn out to be one that was given to another template, and from a
name in which a surrogate stands no id derives at all; then the declaration is refused.

Main results:

* `Catalog.Settles` — what the declaration of a template comes to, in every case;
* `declarations_stand` — catalogs pair off ids with kinds and names in every state of a session,
  keep their entries in all states after it, and settle every declaration by what they hold.
-/

namespace WorldForge

/-! ## What a catalog keeps -/

namespace Catalog

variable {c c' : Catalog} {kind name s t : Value} {id : Option Value} {d : Declaration}

/-- What a catalog holds is held by another one, too. -/
structure Within (c c' : Catalog) : Prop where
  get : ∀ t d, c.get? t = some d → c'.get? t = some d
  idOf : ∀ kind name t, c.idOf? kind name = some t → c'.idOf? kind name = some t

/-- A catalog has all that is declared in itself. -/
theorem Within.refl (c : Catalog) : c.Within c := ⟨fun _ _ h => h, fun _ _ _ h => h⟩

/-- What a catalog still has after some declarations, it has after more of them. -/
theorem Within.trans {c₁ : Catalog} (h : c.Within c₁) (h₁ : c₁.Within c') : c.Within c' :=
  ⟨fun t d hGet => h₁.get t d (h.get t d hGet),
    fun kind name t hId => h₁.idOf kind name t (h.idOf kind name t hId)⟩

/-- A declaration takes nothing away. -/
theorem within_of_declare (h : c.declare kind name id = .ok (s, c')) : c.Within c' := by
  refine ⟨fun t d hGet => get?_of_declare h hGet, fun kind' name' t hId => ?_⟩
  obtain ⟨rfl, -⟩ | ⟨rfl, -, hNew, -⟩ := declare_eq_ok h
  · exact hId
  · rw [idOf?_enter]
    split
    -- the new kind and name had no id, so they are not these
    · rename_i hSame
      rw [idOf?, hSame] at hId
      rw [idOf?, hId] at hNew
      cases hNew
    · exact hId

/-- **A catalog gains one declaration**, and is otherwise as it was. -/
structure Gains (c : Catalog) (d : Declaration) (c' : Catalog) : Prop where
  get : ∀ t, c'.get? t = if t.key = d.id.key then some d else c.get? t
  idOf : ∀ kind name, c'.idOf? kind name =
    if (kind.key, name.key) = (d.kind.key, d.name.key) then some d.id else c.idOf? kind name
  size : c'.size = c.size + 1

/-- A declaration under a free id is gained, and nothing else is. -/
theorem gains_enter (hFree : c.get? d.id = none) : c.Gains d (c.enter d) where
  get := get?_enter c d
  idOf := idOf?_enter c d
  size := by
    rw [Catalog.size, Table.size, enter,
      Table.entries_insert_of_not_mem _ _ (Table.find?_eq_none_iff.1 hFree), List.length_append]
    rfl

end Catalog

namespace Realm

variable {κ : Type} {r : Realm κ} {i : Nat}

/-- To put a catalog back changes nothing, if it is there. -/
theorem putCatalog_same {kind name t : Value} (h : (r.catalog i).idOf? kind name = some t) :
    r.putCatalog i (r.catalog i) = r := by
  have hThere : r.catalogs.find? i = some (r.catalog i) := by
    rw [catalog] at h ⊢
    cases hFind : r.catalogs.find? i with
    | some c => rfl
    | none =>
      rw [hFind] at h
      cases h
  rw [putCatalog, Table.insert_of_find? _ hThere]

/-- **What a catalog holds, it holds for good.** A new object is no catalog that is there. -/
theorem stable_within (r : Realm κ) (i : Nat) :
    Stable fun r' : Realm κ => i < r'.next ∧ (r.catalog i).Within (r'.catalog i) := by
  rintro s s' hChange ⟨hThere, hWithin⟩
  refine ⟨Nat.lt_of_lt_of_le hThere hChange.next_le, ?_⟩
  cases hChange with
  | aside hCatalogs _ _ =>
    rw [catalog, catalog, hCatalogs]
    exact hWithin
  | declared hDeclare =>
    rw [catalog_putCatalog]
    split
    · rename_i hSame
      subst hSame
      exact hWithin.trans (Catalog.within_of_declare hDeclare)
    · exact hWithin
  | moved => exact hWithin
  -- a new catalog comes under a number that no object has had
  | newCatalog =>
    rw [catalog_putCatalog, if_neg (Nat.ne_of_lt hThere)]
    exact hWithin
  | newLedger => exact hWithin

end Realm

/-! ## What a declaration comes to -/

namespace Scenario

variable {κ : Type} {r : Realm κ} {i : Nat} {k : TemplateKind} {n : Text}
  {asked : Option TemplateId}

/-- The arguments of the declaration of a template, which may be given an id. -/
def asking (k : TemplateKind) (n : Text) : Option TemplateId → List Value
  | none => [.str n, .kind k]
  | some t => [.str n, .kind k, .template t]

/-- **What a declaration comes to** in a catalog. It is granted if the template has a name and is
declared under no other id than the one it is given, or is not declared and there is an id for it,
given or derived, which is free; and otherwise it is refused. -/
structure Settles (r : Realm κ) (i : Nat) (k : TemplateKind) (n : Text)
    (asked : Option TemplateId) (call : Act κ Answer) : Prop where
  granted : ∀ a r', call r = .ok a r' ↔ n ≠ "" ∧
    ((∃ t, (r.catalog i).idOf? (.kind k) (.str n) = some t ∧ (∀ s ∈ asked, s.key = t.key) ∧
        a = .value t ∧ r' = r) ∨
      ∃ t, (∃ w, Catalog.wantedId k n asked = .ok w ∧ t = .template w) ∧
        (r.catalog i).idOf? (.kind k) (.str n) = none ∧ (r.catalog i).get? t = none ∧
        a = .value t ∧ r' = r.putCatalog i ((r.catalog i).enter ⟨t, .str n, .kind k⟩))
  /-- There is an id unless one would have to be derived from a name in which a surrogate stands. -/
  wanted : (∃ w, Catalog.wantedId k n asked = .ok w) ↔ asked ≠ none ∨ n.isWhole = true
  /-- The catalog then has one entry more. -/
  gains : ∀ t, (r.catalog i).get? t = none →
    (r.catalog i).Gains ⟨t, .str n, .kind k⟩ ((r.catalog i).enter ⟨t, .str n, .kind k⟩)
  /-- A declaration that is refused changes nothing. A catalog of templates then tells of itself,
  unless it is the name that is missing, or an id that would have to be derived. -/
  refused : ∀ e r', call r = .error e r' →
    r' = r ∧ (n = "" → e.kind = .badValue) ∧
      (n ≠ "" → (r.catalog i).Underivable k n asked → e.kind = .unencodable) ∧
      (n ≠ "" → ¬(r.catalog i).Underivable k n asked → (r.catalog i).Sorted → e.kind = .badState)
  sorted : ∀ a r', call r = .ok a r' → (r.catalog i).Sorted → (r'.catalog i).Sorted

/-- A catalog that is asked to declare a template by its public method does what the call says, with
null for an id that is not given. -/
theorem invoke_declare (run : κ → Act κ Unit) :
    Call.invoke run (.object .catalog i) .declare (asking k n asked) none =
      Call.declare i (.str n) (.kind k) ((asked.map Value.template).getD .null) := by
  cases asked <;> rfl

/-- An id that is handed over as a template is taken as it is, and null stands for none. -/
theorem givenId_template : Call.givenId ((asked.map Value.template).getD .null) =
    asked.map Value.template := by
  cases asked <;> rfl

/-- **The public method comes to the declaration of the catalog**: its error is raised, or the realm
has the catalog that it gives. -/
theorem invoke_declare_eq (run : κ → Act κ Unit) :
    Call.invoke run (.object .catalog i) .declare (asking k n asked) none r =
      match (r.catalog i).declare (.kind k) (.str n) (asked.map .template) with
      | .error e => .error (.catalog e) r
      | .ok (t, c) => .ok (.value t) (r.putCatalog i c) := by
  have hCall := declare_eq n (.kind k) ((asked.map Value.template).getD .null) r i
  rw [Request.declared, givenId_template] at hCall
  exact (congrFun (invoke_declare run) r).trans hCall

/-- **A catalog settles every declaration** by what it holds. -/
theorem settles_declare (run : κ → Act κ Unit) :
    Settles r i k n asked
      (Call.invoke run (.object .catalog i) .declare (asking k n asked) none) where
  granted a r' := by
    rw [invoke_declare_eq]
    constructor
    · intro hEnd
      split at hEnd
      · cases hEnd
      -- what is declared already is given again, and anything else is entered
      · rename_i t c hDeclare
        cases hEnd
        obtain ⟨hName, ⟨hId, hSame, rfl⟩ | ⟨hNew, ht, hFree, rfl⟩⟩ :=
          Catalog.declare_template_eq_ok_iff.1 hDeclare
        · exact ⟨hName, .inl ⟨t, hId, hSame, rfl, Realm.putCatalog_same hId⟩⟩
        · exact ⟨hName, .inr ⟨t, ht, hNew, hFree, rfl, rfl⟩⟩
    · rintro ⟨hName, ⟨t, hId, hSame, rfl, rfl⟩ | ⟨t, ht, hNew, hFree, rfl, rfl⟩⟩
      · rw [Catalog.declare_template_eq_ok_iff.2 ⟨hName, .inl ⟨hId, hSame, rfl⟩⟩]
        dsimp only
        rw [Realm.putCatalog_same hId]
      · rw [Catalog.declare_template_eq_ok_iff.2 ⟨hName, .inr ⟨hNew, ht, hFree, rfl⟩⟩]
  wanted := Catalog.exists_wantedId_iff
  gains t hFree := Catalog.gains_enter hFree
  refused e r' hEnd := by
    rw [invoke_declare_eq] at hEnd
    split at hEnd
    · rename_i e' hDeclare
      cases hEnd
      -- the name is looked at first
      refine ⟨rfl, fun hName => ?_, fun hName hNone => ?_, fun hName hDerivable hSorted =>
        Catalog.kind_of_declare_template hSorted hName hDerivable hDeclare⟩
      · rw [hName, Catalog.declare_of_nameless] at hDeclare
        cases hDeclare
        rfl
      · obtain ⟨e'', hUnencodable⟩ := Catalog.declare_of_underivable hName hNone
        cases hDeclare.symm.trans hUnencodable
        rfl
    · cases hEnd
  sorted a r' hEnd hSorted := by
    rw [invoke_declare_eq] at hEnd
    split at hEnd
    · cases hEnd
    · rename_i t c hDeclare
      cases hEnd
      rw [Realm.catalog_putCatalog, if_pos rfl]
      obtain ⟨rfl, -⟩ | ⟨rfl, -⟩ := Catalog.declare_eq_ok hDeclare
      · exact hSorted
      · exact hSorted.enter

/-! ## Declarations in a session -/

/-- **What is declared in a session stands.** In every state, a catalog pairs off ids with kinds and
names, no later state has lost any of its entries or has another one in their place, and the catalog
settles every declaration. -/
theorem declarations_stand {r : Realm Code} (hLater : Later .empty r) (i : Nat) :
    (r.catalog i).Paired ∧
    (i < r.next → ∀ r', After r r' → (r.catalog i).Within (r'.catalog i)) ∧
    ∀ (run : Code → Act Code Unit) k n asked, Settles r i k n asked
      (Call.invoke run (.object .catalog i) .declare (asking k n asked) none) := by
  refine ⟨((lawful_of_later hLater).catalogs i).paired, fun hThere r' hAfter => ?_,
    fun run k n asked => settles_declare run⟩
  exact ((Realm.stable_within r i).holds hAfter.evolves ⟨hThere, .refl _⟩).2

/-- In the small session two templates are declared, and whatever comes after it, the second one is
an executor that is called an engine. -/
theorem declarations_stand_rehearsal :
    (Rehearsal.closed.catalog 0).Paired ∧ (Rehearsal.closed.catalog 0).size = 2 ∧
    ∀ r', After Rehearsal.closed r' → ∃ d, (r'.catalog 0).get? (.template (.ofInt 2)) = some d ∧
      d.value.key = (Value.declaration (.template (.ofInt 2)) (.str "engine")
        (.kind .executor)).key := by
  obtain ⟨hPaired, hLasts, -⟩ := declarations_stand Rehearsal.later_closed 0
  refine ⟨hPaired, by decide +kernel, fun r' hAfter => ?_⟩
  have hThere : 0 < Rehearsal.closed.next := by decide +kernel
  have hEngine : ((Rehearsal.closed.catalog 0).get? (.template (.ofInt 2))).map (·.value.key) =
      some (Value.declaration (.template (.ofInt 2)) (.str "engine") (.kind .executor)).key := by
    decide +kernel
  obtain ⟨d, hGet, hKey⟩ := Option.map_eq_some_iff.1 hEngine
  exact ⟨d, (hLasts hThere r' hAfter).get _ _ hGet, hKey⟩

/-- **A name that is not empty and not declared can be refused, and not because an id is taken.** In
the small session no template is called by one surrogate; but as this name has no bytes, no id
derives from it, and that is what the refusal tells. -/
theorem surrogate_refused :
    let high : Text := .torn "" ⟨0⟩ ""
    high ≠ "" ∧ (Rehearsal.closed.catalog 0).idOf? (.kind .component) (.str high) = none ∧
    ∃ e, Call.invoke (runCode 0) (.object .catalog 0) .declare (asking .component high none) none
      Rehearsal.closed = .error e Rehearsal.closed ∧ e.kind = .unencodable := by
  intro high
  have hName : high ≠ "" := Text.noConfusion
  have hNew : (Rehearsal.closed.catalog 0).idOf? (.kind .component) (.str high) = none := by
    decide +kernel
  obtain ⟨e, hRefused⟩ := Catalog.declare_of_underivable hName ⟨hNew, rfl, rfl⟩
  refine ⟨hName, hNew, .catalog (.unencodable e), ?_, rfl⟩
  rw [invoke_declare_eq, hRefused]

end Scenario

end WorldForge

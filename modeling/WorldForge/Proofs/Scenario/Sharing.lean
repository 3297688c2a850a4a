import WorldForge.Proofs.Factory.Spawn
import WorldForge.Proofs.Scenario.Catalogs

/-!
# Ledgers that share a catalog

A ledger that is made with a catalog deploys from this very object as long as the session lasts, if
anything has been declared there by then. So whatever is declared through the catalog, or through
any ledger that has it, can be deployed or registered through all of them. A catalog without
declarations counts as nothing, though: a ledger that is made with it gets a new catalog instead,
and the two go separate ways from then on.

Main results:

* `shares_of_own` — what it means for a ledger to have a catalog;
* `atHand_of_declared` — what is declared in the catalog of a ledger can be used there;
* `ledgers_share_declared_catalog` — who shares a catalog, and what they get out of it;
* `empty_catalog_is_not_shared` — a session in which a ledger does not deploy from the catalog that
  it was made with.
-/

namespace WorldForge

namespace Catalog

variable {c c' : Catalog} {k : TemplateKind} {n : Text} {t : Value} {id : Option Value}

/-- What has been declared is there, and of its kind. -/
theorem exists_declared (hReached : c.Reached)
    (hDeclare : c.declare (.kind k) (.str n) id = .ok (t, c')) :
    ∃ d, c'.get? t = some d ∧ d.isOf k = true := by
  have hId : c'.idOf? (.kind k) (.str n) = some t := by
    obtain ⟨rfl, hId⟩ | ⟨rfl, -⟩ := declare_eq_ok hDeclare
    · exact hId
    · rw [idOf?_enter, if_pos rfl]
  obtain ⟨d, hGet, hKey⟩ := ((hReached.declare hDeclare).paired.inverse _ _ t).1 ⟨t, hId, rfl⟩
  obtain ⟨-, -, hKind⟩ := key_declaration (e := ⟨t, .str n, .kind k⟩).1 hKey
  refine ⟨d, hGet, Declaration.isOf_iff.2 ?_⟩
  -- no other value has the key of a kind
  obtain ⟨_, _, kind⟩ := d
  cases kind <;> simp_all [Value.key, TemplateId.key, InstanceHandle.key]

end Catalog

namespace Realm

variable {κ : Type}

/-- A ledger keeps its catalog. -/
theorem stable_ledgerCatalog (j : Nat) (catalog : Value) :
    Stable fun r : Realm κ => j < r.next ∧ (r.ledger j).catalog = catalog := by
  rintro r r' hChange ⟨hThere, hCatalog⟩
  refine ⟨Nat.lt_of_lt_of_le hThere hChange.next_le, ?_⟩
  rcases hChange.ledger_cases j with ⟨hSame, -⟩ | ⟨hNew, -⟩
  · rw [hSame, hCatalog]
  · exact absurd hThere (hNew ▸ Nat.lt_irrefl _)

end Realm

namespace Scenario

open Realm (Evolves)

variable {r r' : Realm Code} {i j : Nat} {k : TemplateKind} {t : Value}

/-! ## Sharing -/

/-- **A ledger shares a catalog**: it gives this object when it is asked for its catalog, it passes
declarations on to it, and it deploys and registers what is declared there. -/
structure Shares (r : Realm Code) (j i : Nat) : Prop where
  older : i < j
  answers : ∀ run, Call.invoke run (.object .ledger j) .catalog [] none r =
    .ok (.value (.object .catalog i)) r
  /-- Whatever is asked of the catalog of the ledger is asked of this catalog. -/
  asks : ∀ run m args,
    (do
      let catalog ← Call.invoke run (.object .ledger j) .catalog [] none
      Call.invoke run catalog.bound m args none) r =
      Call.invoke run (.object .catalog i) m args none r
  declares : ∀ run name kind (id : List Value), id.length ≤ 1 →
    Call.invoke run (.object .ledger j) .declare (name :: kind :: id) none r =
      Call.invoke run (.object .catalog i) .declare (name :: kind :: id) none r
  deploys : r.catalogFor j = r.catalog i

/-- To declare by way of a ledger is to declare in the catalog from which it deploys. -/
theorem declareOn_eq (hOwn : (r.ledger j).catalog = .object .catalog i) (name kind id : Value) :
    Call.declareOn j name kind id r = Call.declare i name kind id r := by
  unfold Call.declareOn
  rw [bind_of_ok (get_eq r), hOwn, Realm.catalogBehind_catalog]

/-- A ledger shares the catalog that it has. -/
theorem shares_of_own (hOwn : (r.ledger j).catalog = .object .catalog i) (hOlder : i < j) :
    Shares r j i := by
  have hAnswer : ∀ run, Call.invoke run (.object .ledger j) .catalog [] none r =
      .ok (.value (.object .catalog i)) r := by
    intro run
    rw [← hOwn]
    rfl
  refine ⟨hOlder, hAnswer, fun run m args => ?_, fun run name kind id hId => ?_, ?_⟩
  · rw [bind_of_ok (hAnswer run)]
    rfl
  · match id, hId with
    | [], _ => exact declareOn_eq hOwn name kind .null
    | [given], _ => exact declareOn_eq hOwn name kind given
  · rw [Realm.catalogFor, hOwn]
    rfl

/-- A ledger that shares a catalog has it for its own. -/
theorem Shares.own (h : Shares r j i) : (r.ledger j).catalog = .object .catalog i := by
  have hAnswer := h.answers fun _ => pure ()
  have hGiven : Call.invoke (fun _ => pure ()) (.object .ledger j) .catalog [] none r =
      .ok (.value (r.ledger j).catalog) r := rfl
  rw [hGiven] at hAnswer
  injection hAnswer with hValue
  injection hValue

/-- **A ledger goes on sharing its catalog**, whatever else becomes of the realm. -/
theorem Shares.evolves (h : Shares r j i) (hThere : j < r.next) (hEvolves : Evolves r r') :
    Shares r' j i :=
  shares_of_own ((Realm.stable_ledgerCatalog j _).holds hEvolves ⟨hThere, h.own⟩).2 h.older

/-! ## Making a ledger -/

/-- A ledger that is made with a catalog has this catalog, if anything is declared there. -/
theorem makeObject_of_declared (faults : List Fault) (hDeclared : (r.catalog i).size ≠ 0) :
    makeObject (.ledger faults) [.object .catalog i] r =
      .ok (.value (.object .ledger r.next))
        (Realm.putLedger r.next ⟨.object .catalog i, .empty, faults ++ []⟩
          { r with next := r.next + 1 }) := by
  have hCounts : ¬r.countsAsNothing (.object .catalog i) = true := by
    simpa [Realm.countsAsNothing, Realm.lengthOf?] using hDeclared
  have hCatalog : ledgerCatalog (.object .catalog i) r = .ok (.object .catalog i) r := by
    unfold ledgerCatalog
    rw [bind_of_ok (get_eq r), if_neg hCounts]
    rfl
  exact bind_of_ok hCatalog

/-- Otherwise it gets a new catalog, since the truth of what is handed over is asked for, and an
empty catalog counts as nothing. What is declared in the one is not found in the other. -/
theorem makeObject_of_empty (faults : List Fault) (hEmpty : (r.catalog i).size = 0) :
    makeObject (.ledger faults) [.object .catalog i] r =
      .ok (.value (.object .ledger (r.next + 1)))
        (Realm.putLedger (r.next + 1) ⟨.object .catalog r.next, .empty, faults ++ []⟩
          { Realm.putCatalog r.next .empty { r with next := r.next + 1 } with
            next := r.next + 2 }) := by
  -- a catalog counts as nothing while it is empty, so that a new one takes its place
  have hCounts : r.countsAsNothing (.object .catalog i) = true := by
    simpa [Realm.countsAsNothing, Realm.lengthOf?] using hEmpty
  have hCatalog : ledgerCatalog (.object .catalog i) r = .ok (.object .catalog r.next)
      (Realm.putCatalog r.next .empty { r with next := r.next + 1 }) := by
    unfold ledgerCatalog
    rw [bind_of_ok (get_eq r), if_pos hCounts]
    rfl
  exact bind_of_ok hCatalog

/-! ## Using what is declared -/

/-- **A template is at hand** on a ledger: it can be deployed there, or registered in any live world
that does not have it yet, whichever it is for. -/
structure AtHand (r : Realm Code) (j : Nat) (k : TemplateKind) (t : Value) : Prop where
  executor : k = .executor → ∀ run, ∃ x r',
    Call.invoke run (.object .ledger j) .deploy [t, .list []] none r = .ok (.value (.handle x)) r'
  world : k = .world → ∀ run (name : Text) h, name ≠ "" →
    (r.ledger j).ledger.isAlive (.handle h) = true →
    (r.ledger j).ledger.liveWorld? (.handle h) = none → ∃ x r',
      Call.invoke run (.object .ledger j) .deploy [t, .list [.str name, .handle h]] none r =
        .ok (.value (.handle x)) r'
  part : ∀ p : PartKind, k = p.toTemplateKind → ∀ run x w,
    (r.ledger j).ledger.dispatcher (.handle x) = .ok w → t.key ∉ w.templateKeys p → ∃ r',
      Call.invoke run (.world j x w.name) (.register p) [t] none r = .ok (.value .null) r'

section

variable {d : Declaration} {handed : List InstanceHandle}

/-- A plan that is accepted is carried out, unless a fault strikes. -/
theorem exists_deployed {args : List Value} {p : Ledger.Plan}
    (hReached : Ledger.Reached (r.catalogFor j) (r.ledger j).ledger handed)
    (hSpare : Fault.Spare (r.ledger j).faults .deploy)
    (hGet : (r.catalogFor j).get? t = some d) (hKind : d.isOf k = true)
    (hPlan : (r.ledger j).ledger.plan (r.catalogFor j) t (Argument.values args) = .ok p)
    (run : Code → Act Code Unit) :
    ∃ x r', Call.invoke run (.object .ledger j) .deploy [t, .list args] none r =
      .ok (.value (.handle x)) r' := by
  have hCatalog := hReached.sound.catalog
  have hFlaw :=
    Catalog.deploymentFlaw?_of_kind (hCatalog.strays t) hGet (Declaration.isOf_iff.1 hKind)
  have hMeet : (Fault.meet .deploy (r.site j).faults).1 = none := by
    have hStill : Fault.Spare (r.site j).faults .deploy := hSpare
    rw [Fault.meet_of_forall_ne hStill]
  obtain ⟨x, l, hDeploy⟩ : ∃ x l, (r.ledger j).ledger.deploy (r.catalogFor j) t
      (Argument.values args) = .ok ((p, x), l) := by
    rw [Ledger.deploy, hPlan]
    exact ⟨_, _, rfl⟩
  have hSite := Site.deploy_eq_ok_iff.2 ⟨hMeet, hCatalog.fixed hGet, hFlaw, p, l, hDeploy, rfl⟩
  -- the same computation as a step of the realm
  have hAct : Act.onSite j (fun c => Site.deployFrom c t (.list args)) r = .ok x (r.closed j _) :=
    Factory.onSite_of_ok hSite
  exact ⟨x, _, bind_of_ok hAct⟩

/-- **What is declared in the catalog of a ledger is at hand there**, as long as no faults are
planned. -/
theorem atHand_of_declared (hReached : Ledger.Reached (r.catalogFor j) (r.ledger j).ledger handed)
    (hSpare : ∀ call, Fault.Spare (r.ledger j).faults call)
    (hGet : (r.catalogFor j).get? t = some d) (hKind : d.isOf k = true) : AtHand r j k t where
  executor := by
    rintro rfl run
    refine exists_deployed (p := .executor t) hReached (hSpare .deploy) hGet hKind ?_ run
    have hDeployable : d.isDeployable = true := by
      rw [Declaration.isDeployable, Declaration.isOf_iff.1 hKind]
      rfl
    -- what is no world takes no arguments
    have hNoWorld : ¬d.isOf .world = true := by
      rw [Declaration.isOf_iff, Declaration.isOf_iff.1 hKind]
      rintro ⟨⟩
    rw [Ledger.plan, Ledger.deployable, hGet]
    simp only [hDeployable, if_true]
    rw [Ledger.checkArguments, if_neg hNoWorld]
    rfl
  world := by
    rintro rfl run name h hName hAlive hFree
    refine exists_deployed (p := .world t name h) hReached (hSpare .deploy) hGet hKind ?_ run
    refine Ledger.plan_eq_ok_iff.2 ⟨⟨d, hGet, hKind⟩, ⟨name, rfl, hName, rfl⟩, ?_, ?_⟩
    · rw [Ledger.liveWorld?, Value.key_handle] at hFree
      rw [Table.contains, hFree]
      rfl
    · rwa [Ledger.isAlive, Value.key_handle] at hAlive
  part := by
    rintro p rfl run x w hWorld hNew
    have hFind := Ledger.dispatcher_eq_ok_iff.1 hWorld
    rw [Value.key_handle] at hFind
    have hFaithful := (hReached.sound.worlds hFind).2
    obtain ⟨s, hRegister⟩ := (Work.register_isOk_iff (s := r.site j) hSpare
      hReached.sound.catalog hFind hFaithful).2 ⟨⟨d, hGet, hKind⟩, hNew⟩
    have hSite := Factory.onSite_of_ok (x := fun c => Site.register c x p t) hRegister
    refine ⟨r.closed j s, ?_⟩
    -- the world that is called is looked up by its handle, and found
    have hInvoke : Call.invoke run (.world j x w.name) (.register p) [t] none r =
        (Act.onSite j (fun c => Site.register c x p t) >>= fun _ => Call.done) r := by
      show Call.onWorld j x (.register p) [t] r = _
      unfold Call.onWorld
      rw [bind_of_ok (get_eq r), Ledger.world?_of_find? hFind]
    rw [hInvoke, bind_of_ok hSite]
    rfl

end

/-- What is declared through a ledger is declared in its catalog. -/
theorem Shares.invoke_declare_eq (h : Shares r j i) (run : Code → Act Code Unit) {n : Text}
    {asked : Option TemplateId} :
    Call.invoke run (.object .ledger j) .declare (asking k n asked) none r =
      Call.invoke run (.object .catalog i) .declare (asking k n asked) none r := by
  cases asked with
  | none => exact h.declares run _ _ [] (by simp)
  | some id => exact h.declares run _ _ [.template id] (by simp)

/-- **Ledgers share a catalog in which something is declared** when they are made with it, from then
on and for good; and whatever template is declared through one of them from then on is at hand on
all the others. With a catalog that has no declarations a ledger does not share that catalog, but a
new one. -/
theorem ledgers_share_declared_catalog (hLater : Later .empty r) (hThere : i < r.next) :
    (∀ faults, (r.catalog i).size ≠ 0 → ∃ r₁,
      makeObject (.ledger faults) [.object .catalog i] r =
        .ok (.value (.object .ledger r.next)) r₁ ∧
      ∀ r', Evolves r₁ r' → Shares r' r.next i) ∧
    (∀ faults, (r.catalog i).size = 0 → ∃ r₁,
      makeObject (.ledger faults) [.object .catalog i] r =
        .ok (.value (.object .ledger (r.next + 1))) r₁ ∧
      ∀ r', Evolves r₁ r' → Shares r' (r.next + 1) r.next) ∧
    ∀ through, (through = .object .catalog i ∨ ∃ j, Shares r j i ∧ through = .object .ledger j) →
      ∀ run k n asked t r₁,
        Call.invoke run through .declare (asking k n asked) none r = .ok (.value t) r₁ →
        ∀ j, Shares r j i → ∀ r', Evolves r₁ r' → (∀ call, Fault.Spare (r'.ledger j).faults call) →
          AtHand r' j k t := by
  refine ⟨fun faults hDeclared => ?_, fun faults hEmpty => ?_, ?_⟩
  · refine ⟨_, makeObject_of_declared faults hDeclared, fun r' hEvolves => ?_⟩
    refine (shares_of_own ?_ hThere).evolves (Nat.lt_succ_self _) hEvolves
    rw [Realm.ledger_putLedger, if_pos rfl]
  · refine ⟨_, makeObject_of_empty faults hEmpty, fun r' hEvolves => ?_⟩
    refine (shares_of_own ?_ (Nat.lt_succ_self _)).evolves (Nat.lt_succ_self _) hEvolves
    rw [Realm.ledger_putLedger, if_pos rfl]
  · intro through hThrough run k n asked t r₁ hDeclare j hShares r' hEvolves hSpare
    have hLawful := lawful_of_later hLater
    -- whoever passes the declaration on, it is made in the catalog
    have hInvoke : Call.invoke run (.object .catalog i) .declare (asking k n asked) none r =
        .ok (.value t) r₁ := by
      rcases hThrough with rfl | ⟨j', hOther, rfl⟩
      · exact hDeclare
      · rwa [hOther.invoke_declare_eq] at hDeclare
    rw [invoke_declare_eq] at hInvoke
    split at hInvoke
    · cases hInvoke
    · rename_i t' c hDone
      cases hInvoke
      obtain ⟨d, hGet, hKind⟩ := Catalog.exists_declared (hLawful.catalogs i) hDone
      have hChange : Realm.Change r (r.putCatalog i c) := .declared hDone
      have hLater' : Evolves r r' := Relation.ReflTransGen.head hChange hEvolves
      have hLawful' := Realm.stable_lawful.holds hLater' hLawful
      have hLast := hShares.evolves (hLawful.there hShares.own) hLater'
      obtain ⟨handed, hReached⟩ := hLawful'.reached hLast.own hLast.older
      refine atHand_of_declared hReached hSpare ?_ hKind
      rw [hLast.deploys]
      refine ((Realm.stable_within _ i).holds hEvolves ⟨hThere, .refl _⟩).2.get _ _ ?_
      rwa [Realm.catalog_putCatalog, if_pos rfl]

/-! ## Ledgers side by side -/

namespace Neighbours

def making (what : Creation) (args : List Arg) (result : String) : Step :=
  .mk (.create what) ⟨args, none, none⟩ (some result) false

def declaring (on name : String) (kind : TemplateKind) (id : Int) : Step :=
  Rehearsal.calling on .declare
    [.value (.str name), .value (.kind kind), .value (.template (.ofInt id))] none

/-- The catalog is object 0, and something is declared in it. -/
def opening : Code := [making .catalog [] "catalog", declaring "catalog" "arena" .world 1]

/-- Two ledgers are made with it, objects 1 and 2. -/
def building : Code :=
  [making (.ledger []) [.name "catalog"] "east", making (.ledger []) [.name "catalog"] "west"]

/-- A ledger is made with a catalog in which nothing is declared; something is declared through the
ledger, and looked up in the catalog. -/
def estranged : Code :=
  [making .catalog [] "catalog", making (.ledger []) [.name "catalog"] "ledger",
    declaring "ledger" "arena" .world 1,
    Rehearsal.calling "catalog" .isDeclared [.value (.template (.ofInt 1))] none]

def opened : Realm Code := playFrom .empty opening

def built : Realm Code := playFrom opened building

/-- The realm with a catalog that has a declaration is a state of a session. -/
theorem later_opened : Later .empty opened := later_playFrom _ _

/-- The realm with two ledgers is a later state of the same session. -/
theorem later_built : Later .empty built := later_opened.trans (later_playFrom _ _)

end Neighbours

/-- What is declared through the ledger in the east can be deployed on the one in the west. -/
theorem ledgers_share_declared_catalog_neighbours :
    (∃ r₁, makeObject (.ledger []) [.object .catalog 0] Neighbours.opened =
        .ok (.value (.object .ledger 1)) r₁ ∧ ∀ r', Evolves r₁ r' → Shares r' 1 0) ∧
    ∃ r₁, Call.invoke (runCode 0) (.object .ledger 1) .declare
        (asking .executor "engine" (some (.ofInt 2))) none Neighbours.built =
        .ok (.value (.template (.ofInt 2))) r₁ ∧
      AtHand r₁ 2 .executor (.template (.ofInt 2)) := by
  have hOpened : 0 < Neighbours.opened.next := by decide +kernel
  have hDeclared : (Neighbours.opened.catalog 0).size ≠ 0 := by decide +kernel
  obtain ⟨hMade, -, -⟩ := ledgers_share_declared_catalog Neighbours.later_opened hOpened
  have hBuilt : 0 < Neighbours.built.next := by decide +kernel
  obtain ⟨-, -, hHand⟩ := ledgers_share_declared_catalog Neighbours.later_built hBuilt
  have hEast : Shares Neighbours.built 1 0 := shares_of_own rfl (by decide)
  have hWest : Shares Neighbours.built 2 0 := shares_of_own rfl (by decide)
  refine ⟨hMade [] hDeclared, _, rfl, ?_⟩
  refine hHand (.object .ledger 1) (.inr ⟨1, hEast, rfl⟩) (runCode 0) .executor "engine"
    (some (.ofInt 2)) (.template (.ofInt 2)) _ rfl 2 hWest _ .refl ?_
  intro call f hMem
  cases hMem

/-- **A catalog without declarations is not shared.** The ledger, which was made with object 0, has
object 1 for its catalog, and object 0 does not know what is declared through the ledger. -/
theorem empty_catalog_is_not_shared :
    let r := playFrom .empty Neighbours.estranged
    r.trace =
      [.step "new TemplateCatalog" (.done (.value (.object .catalog 0))),
       .step "new LocalLedger" (.done (.value (.object .ledger 2))),
       .step "declare" (.done (.value (.template (.ofInt 1)))),
       .step "is_declared" (.done (.value (.bool false)))] ∧
    (r.ledger 2).catalog = .object .catalog 1 ∧
    (r.catalog 1).isDeclared (.template (.ofInt 1)) = true ∧
    (r.catalog 0).isDeclared (.template (.ofInt 1)) = false := by
  exact ⟨rfl, rfl, rfl, rfl⟩

end Scenario

end WorldForge

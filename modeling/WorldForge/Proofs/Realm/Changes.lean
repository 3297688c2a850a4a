import Mathlib.Logic.Relation
import WorldForge.Proofs.Factory.Pieces
import WorldForge.Proofs.Dialogue
import WorldForge.Proofs.Ledger.History
import WorldForge.Realm.Transaction

/-!
# How a realm changes

Whatever is done in a realm, its catalogs and ledgers change in few ways: something is declared in a
catalog, a ledger is taken further by the moves that can be made on it, or a new object comes up.
Everything else that changes leaves both alone. These are the changes of a realm.

A realm *evolves* into another one by any number of changes. Every operation on a realm makes it
evolve, if the code does that it runs on the way. Nothing else has to be known of that code. A
condition that no change can break is *stable*: it holds in everything that a realm evolves into.

This is one way to go onward from realm to realm, and there are others, which look at transactions
too. They differ only in what the operations of transactions do to them (`Transacts`). All other
operations lead onward by any of them (`Onward`).

Main results:

* `Operation.follows_work` — the work of an operation takes the ledger further, and pays for what it
  does;
* `onward_onSite` — what is done on the site of a ledger leads onward, if the ledger is only taken
  further;
* `converses_emit`, `converses_commit`, `converses_rollback` — what runs foreign code on the way
  goes onward between that code;
* `alike_act` — every operation of a factory is alike for code that is alike;
* `Stable.holds` — what is stable holds in everything that a realm evolves into.
-/

namespace WorldForge

variable {κ : Type}

/-! ## Records -/

/-- Whether an entry of a trace tells of a new recipe in force. -/
def Entry.isSetting : Entry → Bool
  | log r => r.isSetting
  | _ => false

/-! ## Sites -/

namespace Site

variable {c : Catalog} {l : Ledger}

/-- **What is done on a site** that had the ledger `l` and no records: moves on the ledger. No
record tells of a recipe. -/
structure Follows (c : Catalog) (l : Ledger) (s : Site) : Prop where
  leads : Scene.LeadsTo ⟨c, l⟩ ⟨c, s.ledger⟩
  records : ∀ r ∈ s.log, r.isSetting = false

/-- A site on which nothing has been done yet. -/
theorem follows_opened (c : Catalog) (l : Ledger) (faults : List Fault) :
    (opened l faults).Follows c l :=
  ⟨.refl _, fun _ hMem => by cases hMem⟩

/-- Planned faults do not matter to what has been done. -/
theorem Follows.withFaults (s : Site) (faults : List Fault) (hs : s.Follows c l) :
    { s with faults }.Follows c l :=
  ⟨hs.leads, hs.records⟩

/-- One move more takes the ledger further. -/
theorem Follows.move {s : Site} {l' : Ledger} (hs : s.Follows c l) (m : Scene.Move)
    (hMove : (Scene.mk c s.ledger).perform m = ⟨c, l'⟩) : { s with ledger := l' }.Follows c l :=
  ⟨hs.leads.trans ⟨[m], hMove⟩, hs.records⟩

/-- A record that tells of no recipe may be written on a site at any time. -/
theorem keeps_report {r : LogRecord} (hRecord : r.isSetting = false) :
    Keeps (Follows c l) (report r) := by
  refine leads_modify fun s hs => ⟨hs.leads, fun r' hMem => ?_⟩
  rcases List.mem_append.1 hMem with hOld | hNew
  · exact hs.records r' hOld
  · obtain rfl := List.mem_singleton.1 hNew
    exact hRecord

/-- A deployment at a site is a move on its ledger, or it fails and leaves the ledger as it was. -/
theorem keeps_deploy (given : Value) (args : List Argument) :
    Keeps (Follows c l) (deploy c given args) := by
  refine (keeps_callBy Follows.withFaults fun s a l' hs hDeploy => ?_).bind fun a =>
    (keeps_report ?_).bind fun _ => leads_pure _
  -- what is deployed with strangers is deployed without them, too
  · obtain ⟨vs, hValues⟩ := Ledger.exists_values_of_deploy hDeploy
    exact hs.move (.deploy given vs) (Scene.perform_deploy_of_ok hValues)
  · cases a.1 <;> rfl

/-- Arguments that are handed over as one value are read first, and then it is a deployment like
others. -/
theorem keeps_deployFrom (given args : Value) : Keeps (Follows c l) (deployFrom c given args) := by
  rw [deployFrom]
  split
  · exact keeps_deploy given _
  -- the template is looked at, and nothing is deployed
  · refine (keeps_callBy Follows.withFaults fun s a l' hs hLooked => ?_).bind fun _ =>
      leads_throw _
    cases hFound : Ledger.deployable c given with
    | error e =>
      rw [hFound] at hLooked
      cases hLooked
    | ok d =>
      rw [hFound] at hLooked
      cases hLooked
      exact hs

/-- A destruction at a site is a move on its ledger, or it fails and leaves the ledger as it was. -/
theorem keeps_destroy (given : Value) : Keeps (Follows c l) (destroy given) := by
  refine (keeps_callBy Follows.withFaults fun s a l' hs hDestroy => ?_).bind fun _ =>
    keeps_report rfl
  exact hs.move (.destroy given) (Scene.perform_destroy_of_ok hDestroy)

/-- A registration at a site is a move on its ledger, or it fails and leaves the ledger as it
was. -/
theorem keeps_register (x : InstanceHandle) (k : PartKind) (given : Value) :
    Keeps (Follows c l) (register c x k given) := by
  refine (keeps_callBy Follows.withFaults fun s d l' hs hRegister => ?_).bind fun _ =>
    keeps_report rfl
  exact hs.move (.register x k given) (Scene.perform_register_of_ok hRegister)

/-- A deregistration at a site is a move on its ledger, or it fails and leaves the ledger as it
was. -/
theorem keeps_deregister (x : InstanceHandle) (k : PartKind) (given : Value) :
    Keeps (Follows c l) (deregister x k given) := by
  refine (keeps_meetFaults Follows.withFaults _).bind fun _ =>
    keeps_onLedger fun s a l' hs hDeregister => ?_
  exact hs.move (.deregister x k given) (Scene.perform_deregister_of_ok hDeregister)

/-- To undo an entry of a journal is to destroy an instance or to deregister a part, and so a
move. -/
theorem keeps_undo (u : Undo) : Keeps (Follows c l) u.run := by
  cases u with
  | destroy h => exact keeps_destroy _
  | deregister x k t => exact keeps_deregister x k t

/-- **Undoing a whole journal** only makes moves on the ledger, whatever its entries raise on the
way. -/
theorem keeps_undoAll (journal : List Undo) : Keeps (Follows c l) (Undo.runAll journal) :=
  Alike.unwind (fun _ => keeps_report rfl) keeps_undo journal

end Site

/-! ## Work -/

/-- A purse becomes another one by paying for steps. -/
abbrev Purse.Pays : Purse → Purse → Prop := Relation.ReflTransGen fun p q => p.payStep = .ok q

/-- **What is done at a workbench** is moves on the ledger `l`, and the purse `p` pays for steps. -/
abbrev Work.Follows (c : Catalog) (l : Ledger) (p : Purse) : Workbench → Prop :=
  Workbench.Has (Site.Follows c l) p.Pays

/-- **Every piece of work** takes the ledger further, and pays for what it does. -/
theorem Work.invariant_follows (c : Catalog) (recipe : Recipe) (name? : Option Value) (l : Ledger)
    (p : Purse) : Work.Invariant c recipe name? (Site.Follows c l) p.Pays where
  faults := Site.Follows.withFaults
  reports _ := Site.keeps_report
  deploys _ _ := Site.keeps_deploy _ _
  registers := Site.keeps_register
  pays _ _ hPays hPay := hPays.tail hPay

/-- **However the work of an operation comes out**, it is moves on the ledger that the purse has
paid for. -/
theorem Operation.follows_work {o : Operation} {recipe : Recipe} {r : Realm κ} {j : Nat} {p : Purse}
    {res : Except Error o.Result} {b : Workbench}
    (hWork : ends (o.work recipe (r.catalogFor j)) ⟨r.site j, p, []⟩ = (res, b)) :
    Work.Follows (r.catalogFor j) (r.ledger j).ledger p b := by
  have hStart : Work.Follows (r.catalogFor j) (r.ledger j).ledger p ⟨r.site j, p, []⟩ :=
    ⟨Site.follows_opened .., .refl⟩
  have hKept := (o.keeps_work (Work.invariant_follows _ recipe ..)).holds hStart
  rw [hWork] at hKept
  exact hKept

/-! ## What only looks -/

section Looking

variable {R B : Realm κ → Realm κ → Prop} [Std.Refl R] [Trans R R R]

/-- To look whether a transaction is open changes nothing. -/
theorem Transaction.leads_whileOpen (i : Nat) :
    Leads R B (whileOpen i : Act κ (Transaction κ)) := by
  unfold whileOpen
  refine .get fun r => ?_
  dsimp only
  split
  · exact leads_throw _
  · exact leads_pure _

theorem Transaction.leads_pending (i : Nat) : Leads R B (pending i : Act κ Nat) :=
  .get fun _ => leads_pure _

/-- To look at how much a budget has spent changes nothing. -/
theorem Factory.leads_spent (p : Purse) (budget : Value) :
    Leads R B (Factory.spent p budget : Act κ Int) := by
  unfold Factory.spent
  split
  · exact .get fun _ => leads_pure _
  · exact leads_release _

end Looking

/-! ## Changes -/

namespace Realm

/-- A ledger of a realm with the catalog that it deploys from. -/
def scene (r : Realm κ) (j : Nat) : Scene := ⟨r.catalogFor j, (r.ledger j).ledger⟩

/-- **The changes of a realm**, as far as its catalogs and ledgers go. -/
inductive Change : Realm κ → Realm κ → Prop
  | aside {r r' : Realm κ} (hCatalogs : r'.catalogs = r.catalogs)
      (hLedgers : r'.ledgers = r.ledgers) (hNext : r.next ≤ r'.next) : Change r r'
  | declared {r : Realm κ} {i : Nat} {c : Catalog} {kind name t : Value} {id : Option Value}
      (hDeclare : (r.catalog i).declare kind name id = .ok (t, c)) : Change r (r.putCatalog i c)
  /-- A ledger is taken further. Its planned faults are no part of what it holds. -/
  | moved {r : Realm κ} {j : Nat} {l : Ledger} {faults : List Fault}
      (hLeads : (r.scene j).LeadsTo ⟨r.catalogFor j, l⟩) :
      Change r (r.putLedger j ⟨(r.ledger j).catalog, l, faults⟩)
  | newCatalog {r : Realm κ} : Change r (putCatalog r.next .empty { r with next := r.next + 1 })
  | newLedger {r : Realm κ} {catalog : Value} {faults : List Fault} :
      Change r (putLedger r.next ⟨catalog, .empty, faults⟩ { r with next := r.next + 1 })

/-- A change never takes an object away, so the next number only moves upwards. -/
theorem Change.next_le {r r' : Realm κ} (h : Change r r') : r.next ≤ r'.next := by
  cases h with
  | aside _ _ hNext => exact hNext
  | declared => exact Nat.le_refl _
  | moved => exact Nat.le_refl _
  | newCatalog => exact Nat.le_succ _
  | newLedger => exact Nat.le_succ _

/-- A realm evolves into another one by changes. -/
abbrev Evolves : Realm κ → Realm κ → Prop := Relation.ReflTransGen Change

/-- A condition is stable if no change breaks it. -/
def Stable (V : Realm κ → Prop) : Prop := ∀ r r', Change r r' → V r → V r'

/-- What is stable holds in everything that a realm evolves into. -/
theorem Stable.holds {V : Realm κ → Prop} (hV : Stable V) {r r' : Realm κ} (h : Evolves r r')
    (hr : V r) : V r' := by
  induction h with
  | refl => exact hr
  | tail _ hChange ih => exact hV _ _ hChange ih

/-! ## Ways onward -/

/-- **A calm change** has nothing to do with transactions, budgets and factories, and tells of no
recipe. -/
structure Calm (r r' : Realm κ) : Prop where
  transactions : r'.transactions = r.transactions
  budgets : ∀ k, r'.budget k = r.budget k
  factories : ∀ i, r'.factory i = r.factory i
  trace : ∃ entries, r'.trace = r.trace ++ entries ∧ ∀ e ∈ entries, e.isSetting = false

/-- **An ordinary way onward**: whatever is done in a realm leads onward by it, apart from what is
done with transactions, from charges to budgets, and from what factories are asked to do. -/
class Ordinary (R : Realm κ → Realm κ → Prop) : Prop where
  refl : ∀ r, R r r
  trans : ∀ {r r₁ r'}, R r r₁ → R r₁ r' → R r r'
  calm : ∀ {r r'}, Change r r' → Calm r r' → R r r'
  newBudget : ∀ (r : Realm κ) b, R r (putBudget r.next b { r with next := r.next + 1 })
  newFactory : ∀ (r : Realm κ) f, f.configuration = .blank →
    R r (putFactory r.next f { r with next := r.next + 1 })
  /-- A factory that is made from settings may be set up from the beginning. -/
  newFactorySetUp : ∀ (r : Realm κ) f recipe, f.configuration = .holding recipe →
    R r (putFactory r.next f
      { r.appendTrace [.log (.configured recipe)] with next := r.next + 1 })

/-- **An attentive way onward** looks at budgets and factories, too. Whatever is done in a realm,
apart from its transactions, leads onward by it: what is ordinary, and what is listed here. -/
class Attentive (R : Realm κ → Realm κ → Prop) : Prop extends Ordinary R where
  administers : ∀ {r r' : Realm κ} {i} {a : Factory.Administration}, a.act i r = .ok () r' → R r r'
  charges : ∀ {r : Realm κ} {k n b}, (r.budget k).charge n = .ok b → R r (r.putBudget k b)
  /-- The work of an operation is done, and paid for. -/
  works : ∀ {r : Realm κ} {i j : Nat} {o : Operation} {recipe : Recipe} {p : Purse}
      {res : Except Error o.Result} {b : Workbench},
    (r.factory i).ledger = .object .ledger j → (r.factory i).configuration = .holding recipe →
    o.purse (r.factory i) r = .ok p r →
    ends (o.work recipe (r.catalogFor j)) ⟨r.site j, p, []⟩ = (res, b) →
    R r ((r.closed j b.site).kept b.purse o.budget)

/-- **A way onward**: whatever is done in a realm, apart from its transactions, leads onward by it.
-/
class Onward (R : Realm κ → Realm κ → Prop) : Prop where
  refl : ∀ r, R r r
  trans : ∀ {r r₁ r'}, R r r₁ → R r₁ r' → R r r'
  change : ∀ {r r'}, Change r r' → r'.transactions = r.transactions → R r r'

section

variable {R : Realm κ → Realm κ → Prop}

instance [Ordinary R] : Std.Refl R := ⟨Ordinary.refl⟩

instance [Ordinary R] : Trans R R R := ⟨Ordinary.trans⟩

/-- A way onward that looks at catalogs and ledgers alone need not be attentive to anything else. -/
instance [Onward R] : Attentive R where
  refl := Onward.refl
  trans := Onward.trans
  calm hChange hCalm := Onward.change hChange hCalm.transactions
  administers {r r' i a} h := by
    rcases a.act_outcome i r with ⟨e, -, hError⟩ | ⟨recipe, -, hDone⟩
    · rw [hError] at h
      cases h
    · rw [hDone] at h
      cases h
      exact Onward.change (.aside rfl rfl (Nat.le_refl _)) rfl
  charges _ := Onward.change (.aside rfl rfl (Nat.le_refl _)) rfl
  newBudget _ _ := Onward.change (.aside rfl rfl (Nat.le_succ _)) rfl
  newFactory _ _ _ := Onward.change (.aside rfl rfl (Nat.le_succ _)) rfl
  newFactorySetUp _ _ _ _ := Onward.change (.aside rfl rfl (Nat.le_succ _)) rfl
  works {r i j o recipe p res b} _ _ _ hWork := by
    have hMoved : Change r (r.putLedger j ⟨(r.ledger j).catalog, b.site.ledger, b.site.faults⟩) :=
      .moved (Operation.follows_work hWork).site.leads
    obtain ⟨budgets, hKept⟩ := (r.closed j b.site).kept_eq b.purse o.budget
    rw [hKept]
    exact Onward.trans (Onward.change hMoved rfl)
      (Onward.change (.aside rfl rfl (Nat.le_refl _)) rfl)

end

instance : Onward (Evolves (κ := κ)) where
  refl _ := .refl
  trans h h' := h.trans h'
  change h _ := .single h

variable {R B : Realm κ → Realm κ → Prop} {run run' : κ → Act κ Unit} {α : Type} {i : Nat}

section Small

variable [Ordinary R]

/-! ## Small steps -/

/-- What of a realm ways onward look at, names and the smaller objects apart. -/
def gist (r : Realm κ) :=
  (r.next, r.catalogs, r.ledgers, r.transactions, r.budgets, r.factories, r.trace)

/-- What only gets the next number and leaves the gist of the realm as it is leads onward. -/
theorem onward_of_gist {r r' : Realm κ} {n : Nat} (hNext : r.next ≤ n)
    (hGist : r'.gist = ({ r with next := n } : Realm κ).gist) : R r r' := by
  simp only [gist, Prod.mk.injEq] at hGist
  obtain ⟨rfl, hCatalogs, hLedgers, hTransactions, hBudgets, hFactories, hTrace⟩ := hGist
  refine Ordinary.calm (.aside hCatalogs hLedgers hNext) ⟨hTransactions, fun k => ?_, fun i => ?_,
    [], by rw [hTrace, List.append_nil], fun _ hMem => by cases hMem⟩
  · rw [budget, budget, hBudgets]
  · rw [factory, factory, hFactories]

/-- Whatever leaves the gist of a realm as it is leads onward. -/
theorem onward_modify {g : Realm κ → Realm κ} (hGist : ∀ r, (g r).gist = r.gist) :
    Leads R B (modify g : Act κ Unit) :=
  leads_modify fun r => onward_of_gist (Nat.le_refl _) (hGist r)

/-- What is written behind the trace leads onward, if it tells of no recipe. -/
theorem onward_appendTrace {entries : List Entry} (hEntries : ∀ e ∈ entries, e.isSetting = false)
    (r : Realm κ) : R r (r.appendTrace entries) :=
  Ordinary.calm (.aside rfl rfl (Nat.le_refl _))
    ⟨rfl, fun _ => rfl, fun _ => rfl, entries, rfl, hEntries⟩

/-- One entry for the trace leads onward, if it tells of no recipe. -/
theorem onward_note {e : Entry} (hEntry : e.isSetting = false) :
    Leads R B (Act.note e : Act κ Unit) := by
  refine leads_modify fun r => onward_appendTrace (fun e' hMem => ?_) r
  rw [List.mem_singleton.1 hMem]
  exact hEntry

/-- A record for the trace leads onward, if it tells of no recipe. -/
theorem onward_report {r : LogRecord} (hRecord : r.isSetting = false) :
    Leads R B (Act.report r : Act κ Unit) :=
  onward_note hRecord

/-- A new object of the smaller ones leads onward. -/
theorem onward_add {put : Nat → α → Realm κ → Realm κ} (a : α)
    (hGist : ∀ i r, (put i a r).gist = r.gist) : Leads R B (Realm.add put a) :=
  leads_of_forall fun r => onward_of_gist (Nat.le_succ _)
    (hGist r.next { r with next := r.next + 1 })

theorem onward_addCatalog : Leads R B (Realm.add putCatalog .empty : Act κ Nat) :=
  leads_of_forall fun _ => Ordinary.calm .newCatalog
    ⟨rfl, fun _ => rfl, fun _ => rfl, [], (List.append_nil _).symm, fun _ hMem => by cases hMem⟩

theorem onward_addLedger (catalog : Value) (faults : List Fault) :
    Leads R B (Realm.add putLedger ⟨catalog, .empty, faults⟩ : Act κ Nat) :=
  leads_of_forall fun _ => Ordinary.calm .newLedger
    ⟨rfl, fun _ => rfl, fun _ => rfl, [], (List.append_nil _).symm, fun _ hMem => by cases hMem⟩

/-- A new budget leads onward, as it gets a number that no older budget has. -/
theorem onward_addBudget (b : Budget) : Leads R B (Realm.add putBudget b : Act κ Nat) :=
  leads_of_forall fun r => Ordinary.newBudget r b

/-- A new factory leads onward, as long as it has no recipe yet. -/
theorem onward_addFactory {f : Factory} (hBlank : f.configuration = .blank) :
    Leads R B (Realm.add putFactory f : Act κ Nat) :=
  leads_of_forall fun r => Ordinary.newFactory r f hBlank

/-- To close a site behind moves on its ledger leads onward. -/
theorem onward_closed {r : Realm κ} {s : Site}
    (hFollows : s.Follows (r.catalogFor i) (r.ledger i).ledger) : R r (r.closed i s) := by
  have hMoved : Change r (r.putLedger i ⟨(r.ledger i).catalog, s.ledger, s.faults⟩) :=
    .moved hFollows.leads
  have hCalm : Calm r (r.putLedger i ⟨(r.ledger i).catalog, s.ledger, s.faults⟩) :=
    ⟨rfl, fun _ => rfl, fun _ => rfl, [], (List.append_nil _).symm, fun _ hMem => by cases hMem⟩
  refine Ordinary.trans (Ordinary.calm hMoved hCalm) (onward_appendTrace (fun e hMem => ?_) _)
  obtain ⟨record, hRecord, rfl⟩ := List.mem_map.1 hMem
  exact hFollows.records record hRecord

/-- **What is done on the site of a ledger** leads onward, if it takes the ledger further. -/
theorem onward_onSite {x : Catalog → SiteM α}
    (hx : ∀ c l, Keeps (Site.Follows c l) (x c)) : Leads R B (Act.onSite i x) := by
  refine leads_of_forall fun r => ?_
  have hStart : (r.site i).Follows (r.catalogFor i) (r.ledger i).ledger := Site.follows_opened ..
  have hFollows := (hx (r.catalogFor i) (r.ledger i).ledger).holds hStart
  -- what was done is written back, whether it has failed or not
  cases hRun : x (r.catalogFor i) (r.site i) with
  | ok a s =>
    rw [ends_of_ok hRun] at hFollows
    rw [ends_of_ok (Factory.onSite_of_ok hRun)]
    exact onward_closed hFollows
  | error e s =>
    rw [ends_of_error hRun] at hFollows
    rw [ends_of_error (Factory.onSite_of_error hRun)]
    exact onward_closed hFollows

omit [Ordinary R] in
/-- **Administration** leads onward, whether the configuration takes it or not. -/
theorem onward_administration [Attentive R] (a : Factory.Administration) (i : Nat) :
    Leads R B (a.act i : Act κ Unit) := by
  refine leads_of_forall fun r => ?_
  rcases a.act_outcome i r with ⟨e, -, hError⟩ | ⟨recipe, -, hDone⟩
  · rw [ends_of_error hError]
    exact Ordinary.refl r
  · rw [ends_of_ok hDone]
    exact Attentive.administers hDone

/-! ## Sinks -/

/-- What a log or a sink does with an event runs the code of one reaction at most, and by itself
only takes note. -/
theorem converses_emit (i : Nat) (event : Value) :
    Converses R fun run : κ → Act κ Unit => Sink.emit run i event := by
  unfold Sink.emit
  refine .get fun r => ?_
  dsimp only
  refine .bind (converses_of_leads (onward_modify fun _ => rfl)) fun _ => ?_
  refine .optionForM (fun x => ?_) _
  exact (Converses.optionForM converses_code x.code).bind fun _ =>
    converses_of_leads (.optionForM (fun e => leads_throw _) x.error)

/-- To tell whatever stands for a sink of an event starts code at most through the reaction of that
sink. -/
theorem converses_tell (sink event : Value) :
    Converses R fun run : κ → Act κ Unit => Sink.tell run sink event := by
  cases sink with
  | object kind i =>
    cases kind with
    | eventLog => exact converses_emit i event
    | scriptSink => exact converses_emit i event
    | _ => exact converses_of_leads (leads_throw _)
  | _ => exact converses_of_leads (leads_throw _)

/-- To tell a sink of several events is a row of single tellings, with code in each of them. -/
theorem converses_deliver (sink : Value) (events : List Value) :
    Converses R fun run : κ → Act κ Unit => Sink.deliver run sink events := by
  cases sink with
  | null => exact converses_of_leads (leads_pure ())
  | _ => exact .forM (converses_tell _) events

/-- A compensation starts its code, if it has any, and leads nowhere by itself. -/
theorem converses_compensation (x : Compensation κ) :
    Converses R fun run : κ → Act κ Unit => x.perform run := by
  cases x with
  | leaveLabel label => exact converses_of_leads (onward_note rfl)
  | fail kind message => exact converses_of_leads (leads_throw _)
  | run code => exact converses_code code

section Foreign

variable (hRun : ∀ code, Alike R B (run code) (run' code))
include hRun

/-- What is told is the same by two ways to run code that are alike, unless the reaction goes
through a passage. -/
theorem alike_emit (i : Nat) (event : Value) :
    Alike R B (Sink.emit run i event) (Sink.emit run' i event) :=
  (converses_emit i event).alike hRun

/-- Whatever stands for a sink is told the same by two ways to run code that are alike. -/
theorem alike_tell (sink event : Value) :
    Alike R B (Sink.tell run sink event) (Sink.tell run' sink event) :=
  (converses_tell sink event).alike hRun

end Foreign

/-! ## Transactions -/

/-- What becomes of the outcome of a rollback does not depend on any code. -/
theorem leads_afterRollback (e : Error) (outcome : Except Error Unit) :
    Leads R B (match outcome with
      | .ok () => throw e
      | .error (.rollbackFailed failures _) => throw (.rollbackFailed failures (some e))
      | .error other => throw other : Act κ α) := by
  split
  · exact leads_throw _
  · exact leads_throw _
  · exact leads_throw _

section Writing

-- whoever writes transaction i gets onward
variable (hWrite : ∀ r t, R r (putTransaction i t r))
include hWrite

theorem onward_stage (event : Value) : Leads R B (Transaction.stage i event : Act κ Unit) :=
  (Transaction.leads_whileOpen i).bind fun _ => leads_modify fun _ => hWrite _ _

theorem onward_onRollback (e : JournalEntry κ) : Leads R B (Transaction.onRollback i e) :=
  (Transaction.leads_whileOpen i).bind fun _ =>
    .bind (leads_modify fun _ => hWrite _ _) fun _ => onward_report rfl

/-- **A rollback runs code only through its compensations**. By itself it writes the transaction and
reports. -/
theorem converses_rollback :
    Converses R fun run : κ → Act κ Unit => Transaction.rollback run i := by
  unfold Transaction.rollback
  refine (converses_of_leads (Transaction.leads_whileOpen i)).bind fun t =>
    (converses_of_leads (leads_modify fun _ => hWrite _ _)).bind fun _ => ?_
  refine (Converses.unwind (R := R) (fun _ => onward_report rfl)
    (fun e => converses_compensation e.action) t.journal).bind fun failures => ?_
  refine converses_of_leads ?_
  split
  · exact leads_pure ()
  · exact leads_throw _

/-- A rollback after an error runs the same code as any rollback. It only raises something else. -/
theorem converses_rollbackAfter (e : Error) :
    Converses R fun run : κ → Act κ Unit => (Transaction.rollbackAfter run i e : Act κ α) :=
  (converses_rollback hWrite).attempt.bind fun outcome =>
    converses_of_leads (leads_afterRollback e outcome)

/-- **A commit runs code only through its sink**, and through its compensations if the sink
fails. -/
theorem converses_commit : Converses R fun run : κ → Act κ Unit => Transaction.commit run i := by
  unfold Transaction.commit
  refine (converses_of_leads (Transaction.leads_whileOpen i)).bind fun t =>
    (converses_of_leads (leads_modify fun _ => hWrite _ _)).bind fun _ => ?_
  refine (converses_deliver t.sink t.staged).attempt.bind fun outcome => ?_
  cases outcome with
  | ok _ => exact converses_of_leads (leads_modify fun _ => hWrite _ _)
  | error e =>
    exact (converses_of_leads (Transaction.leads_pending i)).bind fun n =>
      (converses_of_leads (onward_report rfl)).bind fun _ => converses_rollbackAfter hWrite e

/-- To leave the block of a transaction is to commit, to roll back, or to do nothing. -/
theorem converses_leave (outcome : Except Error Unit) :
    Converses R fun run : κ → Act κ Unit => Transaction.leave run i outcome := by
  unfold Transaction.leave
  refine .get fun r => ?_
  -- a block leaves its transaction alone if this is over already
  by_cases hClosed : (r.transaction i).closed = true
  · simp only [hClosed, if_true]
    exact converses_of_leads (leads_release outcome)
  · simp only [hClosed]
    cases outcome with
    | ok _ => exact converses_commit hWrite
    | error e =>
      exact (converses_of_leads (Transaction.leads_pending i)).bind fun n =>
        (converses_of_leads (onward_report rfl)).bind fun _ => converses_rollbackAfter hWrite e

/-- A block runs the code of its body, and then that of the ending by which it is left. -/
theorem converses_within {body : (κ → Act κ Unit) → Act κ Unit} (hBody : Converses R body) :
    Converses R fun run : κ → Act κ Unit => Transaction.within run i (body run) :=
  hBody.attempt.bind fun outcome => converses_leave hWrite outcome

variable (hRun : ∀ code, Alike R B (run code) (run' code))
include hRun

/-- A rollback comes out the same by two ways to run code that are alike, as it runs code only
through compensations. -/
theorem alike_rollback :
    Alike R B (Transaction.rollback run i) (Transaction.rollback run' i) :=
  (converses_rollback hWrite).alike hRun

/-- A commit comes out the same by two ways to run code that are alike. -/
theorem alike_commit : Alike R B (Transaction.commit run i) (Transaction.commit run' i) :=
  (converses_commit hWrite).alike hRun

end Writing

/-- What is raised after a rollback depends on the rollback alone. -/
theorem alike_rollbackAfter
    (hRollback : Alike R B (Transaction.rollback run i) (Transaction.rollback run' i)) (e : Error) :
    Alike R B (Transaction.rollbackAfter run i e : Act κ α)
      (Transaction.rollbackAfter run' i e) :=
  hRollback.attempt.bind fun outcome => leads_afterRollback e outcome

end Small

/-- **A way onward through transactions**: it is also the way of those who make transactions and use
them. -/
class Transacts (R B : Realm κ → Realm κ → Prop) : Prop extends Attentive R where
  begins : ∀ sink, Leads R B (Realm.add putTransaction (.begun sink))
  stages : ∀ i event, Leads R B (Transaction.stage i event)
  enters : ∀ i e, Leads R B (Transaction.onRollback i e)
  rollsBack : ∀ {run run' : κ → Act κ Unit}, (∀ code, Alike R B (run code) (run' code)) →
    ∀ i, Alike R B (Transaction.rollback run i) (Transaction.rollback run' i)
  commits : ∀ {run run' : κ → Act κ Unit}, (∀ code, Alike R B (run code) (run' code)) →
    ∀ i, Alike R B (Transaction.commit run i) (Transaction.commit run' i)

/-- Transactions are no catalogs and no ledgers. -/
theorem evolves_putTransaction (r : Realm κ) (t : Transaction κ) :
    Evolves r (putTransaction i t r) :=
  .single (.aside rfl rfl (Nat.le_refl _))

/-- Whoever writes transactions in passing gets onward through them. -/
theorem Transacts.of_writes [Attentive R] (hWrite : ∀ r i t, R r (putTransaction i t r))
    (hBegin : ∀ r t, R r (putTransaction r.next t { r with next := r.next + 1 })) :
    Transacts R B where
  begins _ := leads_of_forall fun r => hBegin r _
  stages i event := onward_stage (fun r => hWrite r i) event
  enters i e := onward_onRollback (fun r => hWrite r i) e
  rollsBack hRun i := alike_rollback (fun r => hWrite r i) hRun
  commits hRun i := alike_commit (fun r => hWrite r i) hRun

instance : Transacts Evolves B :=
  .of_writes (fun r _ t => evolves_putTransaction r t) fun _ _ =>
    .single (.aside rfl rfl (Nat.le_succ _))

section Blocks

variable [Transacts R B] (hRun : ∀ code, Alike R B (run code) (run' code))
include hRun

/-- A block is left the same by two ways to run code that are alike. -/
theorem alike_leave (i : Nat) (outcome : Except Error Unit) :
    Alike R B (Transaction.leave run i outcome) (Transaction.leave run' i outcome) := by
  unfold Transaction.leave
  refine .get fun r => ?_
  split
  · exact leads_release outcome
  · split
    · exact Transacts.commits hRun i
    · exact (Transaction.leads_pending i).bind fun n =>
        (onward_report rfl).bind fun _ => alike_rollbackAfter (Transacts.rollsBack hRun i) _

/-- A block comes out the same by two ways to run code that are alike, if its body does. -/
theorem alike_within (i : Nat) {body body' : Act κ Unit} (hBody : Alike R B body body') :
    Alike R B (Transaction.within run i body) (Transaction.within run' i body') :=
  hBody.attempt.bind fun outcome => alike_leave hRun i outcome

end Blocks

/-! ## Factories -/

section Factories

variable [Ordinary R]

/-- When a factory gives up an operation, it undoes the journal on its ledger and reports, so this
leads onward. -/
theorem onward_abandon (f : Factory) (journal : List Undo) (e : Error) :
    Leads R B (f.abandon journal e : Act κ α) := by
  refine Alike.bind ?_ fun _ => leads_throw _
  unfold Factory.undoAll
  split
  · exact onward_onSite fun c l => Site.keeps_undoAll journal
  · exact leads_pure _

/-- When an operation has succeeded, what is left to do is a record of it. -/
theorem onward_farewell (p : Purse) (o : Operation) (a : o.Result) :
    Leads R B (o.farewell p a : Act κ o.Result) := by
  have hSpawn : ∀ name (parts more : List Value) budget (h : InstanceHandle),
      Leads R B (do
        let used ← Factory.spent p budget
        Act.report (.worldSpawned name h parts.length more.length used)
        return h : Act κ InstanceHandle) := fun _ _ _ budget h =>
    (Factory.leads_spent p budget).bind fun _ => (onward_report rfl).bind fun _ => leads_pure h
  cases o with
  | spawn name components systems budget => exact hSpawn _ _ _ _ _
  | request given budget =>
    cases given with
    | request name components systems => exact hSpawn _ _ _ _ _
    | _ => exact leads_pure a
  | deploy name => exact leads_pure a
  | registerAll world components systems budget => exact leads_pure ()

/-- A purse that has not paid is kept without a difference. -/
theorem onward_kept {r : Realm κ} {p : Purse} {budget : Value}
    (hSame : ∀ k, budget = .object .budget k → p = .budget (r.budget k)) :
    R r (r.kept p budget) := by
  -- what is put back is what was there
  by_cases hBudget : ∃ k, budget = .object .budget k
  · obtain ⟨k, rfl⟩ := hBudget
    rw [hSame k rfl]
    refine Ordinary.calm (.aside rfl rfl (Nat.le_refl _)) ⟨rfl, fun m => ?_, fun _ => rfl, [],
      (List.append_nil _).symm, fun _ hMem => by cases hMem⟩
    show (r.putBudget k (r.budget k)).budget m = _
    rw [budget_putBudget]
    split
    · rename_i hm
      rw [hm]
    · rfl
  · rw [kept_of_ne (fun k hk => hBudget ⟨k, hk⟩)]
    exact Ordinary.refl r

/-- **How a factory concludes an operation**: it tells its sink of the events, where code may run,
or undoes the journal, where none runs. -/
theorem converses_conclude (f : Factory) (journal : List Undo) (outcome : Except Error α)
    (events : α → List Value) :
    Converses R fun run : κ → Act κ Unit => Factory.conclude run f journal outcome events := by
  cases outcome with
  | error e =>
    exact (converses_of_leads (onward_report rfl)).bind fun _ =>
      converses_of_leads (onward_abandon f journal e)
  | ok a =>
    refine (converses_deliver f.sink (events a)).attempt.bind fun told => ?_
    cases told with
    | ok _ => exact converses_of_leads (leads_pure a)
    | error e =>
      exact (converses_of_leads (onward_report rfl)).bind fun _ =>
        converses_of_leads (onward_abandon f journal e)

omit [Ordinary R] in
/-- The work of an operation leads onward. -/
theorem onward_begun [Attentive R] {o : Operation} {i j : Nat} {r r₁ : Realm κ} {recipe : Recipe}
    {p : Purse} {res : Except Error o.Result} {b : Workbench}
    (hLedger : (r.factory i).ledger = .object .ledger j)
    (hRecipe : (r.factory i).configuration = .holding recipe)
    (hPurse : o.purse (r.factory i) r = .ok p r)
    (hWork : ends (o.work recipe (r.catalogFor j)) ⟨r.site j, p, []⟩ = (res, b))
    (h : o.Begun j r p b r₁) : R r r₁ := by
  cases h with
  | kept => exact Attentive.works hLedger hRecipe hPurse hWork
  | closed _ => exact onward_closed (Operation.follows_work hWork).site
  | idle _ _ => exact Ordinary.refl r

omit [Ordinary R] in
/-- **Every operation of a factory** is alike for code that is alike. -/
theorem alike_act [Attentive R] (hRun : ∀ code, Alike R B (run code) (run' code)) (o : Operation)
    (i : Nat) : Alike R B (o.act run i) (o.act run' i) := by
  intro r
  have hBegins := o.act_cases (F := R r) i r (fun _ => Ordinary.refl r)
    (fun _ _ hSame => onward_kept hSame)
    (fun r₁ e hTo => Ordinary.trans hTo
      (onward_appendTrace (by simp [Entry.isSetting, LogRecord.isSetting]) r₁))
    onward_begun
  rcases hBegins with ⟨e, r₁, hLeads, hAct⟩ | ⟨r₁, journal, res, p, hLeads, hAct⟩
  · rw [ends_of_error (hAct run), hAct run, hAct run']
    exact ⟨hLeads, .inl rfl⟩
  -- from the realm that the work has left, the two ends are compared
  · have hEnd : Alike R B
        (Factory.conclude run (r.factory i) journal res o.events >>= o.farewell p)
        (Factory.conclude run' (r.factory i) journal res o.events >>= o.farewell p) :=
      ((converses_conclude (r.factory i) journal res o.events).alike hRun).bind fun a =>
        onward_farewell p o a
    exact hEnd.before hLeads (hAct run) (hAct run')

end Factories

end Realm

end WorldForge

import WorldForge.Proofs.Ledger.Lodging
import WorldForge.Proofs.Factory.Work
import WorldForge.Proofs.Parallel

/-!
# Work beside lodgers

What a ledger answers, lodgers do not change (`Ledger.Beside`), as long as no fault is planned and
none of them is named. So they do not change what comes of a factory's work either: it stops at the
same error or at none, the same has been paid, and the same has to be undone.

* `Site.parallel_deploy`, `Site.parallel_destroy`, … — the calls of a site;
* `Work.parallel_makeWorld`, `Work.parallel_registerParts` — the work of a factory;
* `Undo.parallel_runAll` — and its undoing.
-/

namespace WorldForge

variable {α : Type} {φ : Shift} {lodgers : Ledger.Lodgers}

/-! ## Sites -/

/-- A site beside another one: so are the ledgers, and no fault is planned for either. -/
structure Site.Beside (φ : Shift) (lodgers : Ledger.Lodgers) (s t : Site) : Prop where
  ledger : s.ledger.Beside φ lodgers t.ledger
  faults : s.faults = [] ∧ t.faults = []

/-- Computations on sites that lie beside each other. -/
abbrev Site.Parallel [Renumbers α] (φ : Shift) (lodgers : Ledger.Lodgers) (x y : SiteM α) : Prop :=
  WorldForge.Parallel φ.number (Site.Beside φ lodgers) x y

namespace Site

variable {c : Catalog} {v : Value}

/-- Records may differ, as sites that lie beside each other are not compared by them. -/
theorem parallel_report (d d' : LogRecord) : Site.Parallel φ lodgers (report d) (report d') :=
  parallel_modify fun _ _ h => ⟨h.ledger, h.faults⟩

/-- Where no faults are planned on either site, every call passes on both. -/
theorem parallel_meetFaults (call : LedgerCall) :
    Site.Parallel φ lodgers (meetFaults call) (meetFaults call) := by
  intro s t h
  obtain ⟨hs, ht⟩ := h.faults
  -- where no fault is planned, none is met, and nothing is counted
  have hIdle : ∀ u : Site, u.faults = [] → meetFaults call u = .ok () u := by
    rintro ⟨l, faults, log⟩ rfl
    rfl
  rw [ends_of_ok (hIdle s hs), ends_of_ok (hIdle t ht)]
  exact ⟨rfl, h⟩

/-- An operation of the ledger comes out the same on both sites, up to the numbers of handles, if it
does so on all ledgers that lie beside each other. -/
theorem parallel_onLedger [Renumbers α] {op op' : Ledger → Except LedgerError (α × Ledger)}
    (hOp : ∀ l m, l.Beside φ lodgers m → Ledger.ComesOut φ lodgers (op l) (op' m)) :
    Site.Parallel φ lodgers (onLedger op) (onLedger op') := by
  intro s t h
  have hOut := hOp _ _ h.ledger
  rw [ends, ends, onLedger, onLedger]
  generalize op s.ledger = x at hOut ⊢
  generalize op' t.ledger = y at hOut ⊢
  cases hOut with
  | refused e => exact ⟨rfl, h⟩
  | accepted a hBeside => exact ⟨rfl, hBeside, h.faults⟩

/-- A call by a value is refused in both for the same flaw. -/
theorem parallel_callBy [Renumbers α] {key key' : Value} {flaw? : Option Error}
    {op op' : Ledger → Except LedgerError (α × Ledger)} (call : LedgerCall)
    (hKey : key.changeable? = key'.changeable?)
    (hFlaw : ∀ e, flaw? = some e → renumber φ.number e = e)
    (hOp : ∀ l m, l.Beside φ lodgers m → Ledger.ComesOut φ lodgers (op l) (op' m)) :
    Site.Parallel φ lodgers (callBy key flaw? call op) (callBy key' flaw? call op') := by
  refine (parallel_meetFaults call).bind fun _ => ?_
  rw [Value.asKey, Value.asKey, hKey]
  -- it is refused for its key, for a flaw of the template, or by the ledgers themselves
  cases key'.changeable? with
  | some part => exact parallel_throw rfl
  | none =>
    cases flaw? with
    | some e => exact parallel_throw (hFlaw e rfl).symm
    | none => exact parallel_onLedger hOp

/-- What is wrong with a template has nothing to do with an instance. -/
theorem renumber_deploymentFlaw {g : Int → Int} {e : Error}
    (h : c.deploymentFlaw? v = some e) : renumber g e = e := by
  obtain ⟨v, feature, rfl⟩ := Catalog.deploymentFlaw_cases h
  rfl

/-- What is wrong with a template that is to be registered has nothing to do with an instance, so
renumbering leaves it alone. -/
theorem renumber_registrationFlaw {g : Int → Int} {k : PartKind} {e : Error}
    (h : c.registrationFlaw? k v = some e) : renumber g e = e := by
  rcases Catalog.registrationFlaw_cases h with ⟨v, feature, rfl⟩ | ⟨refusal, rfl⟩ <;> rfl

/-! ### The calls by name -/

/-- Deployments from the same template run in parallel, if the handles among their arguments go over
into each other. -/
theorem parallel_deploy (c : Catalog) (given : Value) (args : List Value) :
    Site.Parallel φ lodgers
      (deploy c given (Argument.values (Ledger.renumberArguments φ.number args)))
      (deploy c given (Argument.values args)) :=
  (parallel_callBy .deploy rfl (fun _ => renumber_deploymentFlaw)
    fun _ _ h => h.deploy c given args).bind fun _ =>
      (parallel_report _ _).bind fun _ => parallel_pure rfl

/-- Destructions run in parallel for handles that go over into each other. Lodgers have no part in
either. -/
theorem parallel_destroy (v : Value) :
    Site.Parallel φ lodgers (destroy (renumber φ.number v)) (destroy v) :=
  (parallel_callBy .destroy v.changeable?_renumber (fun _ h => by cases h)
    fun _ _ h => h.destroy v).bind fun _ => parallel_report _ _

/-- Worlds are looked up in parallel by handles that go over into each other. -/
theorem parallel_dispatcher (v : Value) :
    Site.Parallel φ lodgers (dispatcher (renumber φ.number v)) (dispatcher v) := by
  refine parallel_callBy .dispatcher v.changeable?_renumber (fun _ h => by cases h) ?_
  intro l m h
  rw [h.dispatcher]
  cases m.dispatcher v with
  | error e => exact .refused e
  | ok w => exact .accepted w h

/-- A part is registered in parallel in worlds whose handles go over into each other. -/
theorem parallel_register (c : Catalog) (x : InstanceHandle) (k : PartKind) (given : Value) :
    Site.Parallel φ lodgers (register c (renumber φ.number x) k given) (register c x k given) :=
  (parallel_callBy (.register k) rfl (fun _ => renumber_registrationFlaw)
    fun _ _ h => h.register c x k given).bind fun _ => parallel_report _ _

/-- A registration is removed in parallel from worlds whose handles go over into each other. -/
theorem parallel_deregister (x : InstanceHandle) (k : PartKind) (given : Value) :
    Site.Parallel φ lodgers (deregister (renumber φ.number x) k given) (deregister x k given) :=
  (parallel_meetFaults (.deregister k)).bind fun _ =>
    parallel_onLedger fun _ _ h => h.deregister x k given

end Site

/-- Undoing a journal leaves lodgers alone, too. -/
theorem Undo.parallel_runAll (journal : List Undo) :
    Site.Parallel φ lodgers (runAll (renumber φ.number journal)) (runAll journal) := by
  refine Parallel.unwind Site.parallel_report (fun u => ?_) journal
  cases u with
  | destroy h => exact Site.parallel_destroy (.handle h)
  | deregister x k t => exact Site.parallel_deregister x k t

/-! ## Work -/

/-- A workbench beside another one: the same has been paid, and the same has to be undone. -/
structure Workbench.Beside (φ : Shift) (lodgers : Ledger.Lodgers) (b d : Workbench) : Prop where
  site : b.site.Beside φ lodgers d.site
  purse : b.purse = d.purse
  journal : b.journal = renumber φ.number d.journal

/-- Work on workbenches that lie beside each other. -/
abbrev Work.Parallel [Renumbers α] (φ : Shift) (lodgers : Ledger.Lodgers) (x y : Work α) : Prop :=
  WorldForge.Parallel φ.number (Workbench.Beside φ lodgers) x y

namespace Work

/-- What runs in parallel on the sites does so on the workbenches around them, where purses and
journals have to agree. -/
theorem parallel_onSite [Renumbers α] {x y : SiteM α} (h : Site.Parallel φ lodgers x y) :
    Work.Parallel φ lodgers (onSite x) (onSite y) := by
  intro b d hb
  obtain ⟨hSame, hSite⟩ := h _ _ hb.site
  rw [ends_onSite, ends_onSite]
  exact ⟨hSame, hSite, hb.purse, hb.journal⟩

/-- Records of the work may differ as well. -/
theorem parallel_report (d d' : LogRecord) : Work.Parallel φ lodgers (report d) (report d') :=
  parallel_onSite (Site.parallel_report d d')

/-- Entries that go over into each other keep the journals in step. -/
theorem parallel_enter (u : Undo) :
    Work.Parallel φ lodgers (enter (renumber φ.number u)) (enter u) :=
  (parallel_modify fun _ _ h => ⟨h.site, h.purse, congrArg _ h.journal⟩).bind fun _ =>
    parallel_report _ _

/-- As the purses are the same, a step is paid from both or from none. -/
theorem parallel_payStep : Work.Parallel φ lodgers payStep payStep := by
  intro b d h
  -- what a purse raises names no instance
  have hError : ∀ e, d.purse.payStep = .error e → renumber φ.number e = e := by
    intro e he
    cases hp : d.purse with
    | budget q =>
      rw [hp, Purse.payStep] at he
      split at he <;> cases he
      rfl
    | other v =>
      rw [hp] at he
      cases he
      rfl
  rw [ends, ends, payStep, payStep, h.purse]
  cases hPay : d.purse.payStep with
  | ok p => exact ⟨rfl, h.site, rfl, h.journal⟩
  | error e => exact ⟨congrArg Except.error (hError e hPay).symm, h⟩

/-- There is no handle in the number of steps used, so renumbering leaves it alone. -/
theorem renumber_used (g : Int → Int) (p : Purse) : p.used = renumber g p.used := by
  cases p <;> rfl

/-- Worlds are deployed in parallel by recipes that go over into each other, whatever lodges
beside. -/
theorem parallel_deployWorld (c : Catalog) (recipe : Recipe) (name : Value) :
    Work.Parallel φ lodgers (deployWorld c (renumber φ.number recipe) name)
      (deployWorld c recipe name) := by
  have hDeploy : Work.Parallel φ lodgers _ _ :=
    parallel_onSite (Site.parallel_deploy c recipe.template [name, .handle recipe.executor])
  refine (hDeploy.wrapping .ledger ?_).bind fun h => ?_
  · exact fun _ => rfl
  · exact (parallel_enter (.destroy h)).bind fun _ =>
      (parallel_report _ _).bind fun _ => parallel_pure rfl

/-- A part is paid, registered and journaled in parallel. -/
theorem parallel_registerPart (c : Catalog) (x : InstanceHandle) (k : PartKind) (given : Value) :
    Work.Parallel φ lodgers (registerPart c (renumber φ.number x) k given)
      (registerPart c x k given) := by
  refine parallel_payStep.bind fun _ => ?_
  have hRegister : Work.Parallel φ lodgers _ _ :=
    parallel_onSite (Site.parallel_register c x k given)
  refine (hRegister.wrapping .ledger ?_).bind fun _ => ?_
  · exact fun _ => rfl
  refine (parallel_enter (.deregister x k given)).bind fun _ => ?_
  -- the report tells of what has been paid
  refine Parallel.get fun b d h => ?_
  rw [h.purse]
  exact (parallel_release (renumber_used φ.number d.purse)).bind fun _ => parallel_report _ _

/-- The parts of one kind are registered in parallel, up to the first error, which comes at the same
part on both sides. -/
theorem parallel_registerEach (c : Catalog) (x : InstanceHandle) (k : PartKind) (parts : Value) :
    Work.Parallel φ lodgers (registerEach c (renumber φ.number x) k parts)
      (registerEach c x k parts) := by
  rw [registerEach, registerEach, Value.items]
  cases parts.items? with
  | none => exact parallel_throw rfl
  | some items => exact Parallel.forM (fun given => parallel_registerPart c x k given) items

/-- **Registrations of parts run in parallel**: the world is looked up, and then come the components
and the systems. -/
theorem parallel_registerParts (c : Catalog) (world components systems : Value) :
    Work.Parallel φ lodgers (registerParts c (renumber φ.number world) components systems)
      (registerParts c world components systems) := by
  have hWorld : Work.Parallel φ lodgers _ _ := parallel_onSite (Site.parallel_dispatcher world)
  refine (hWorld.wrapping .ledger ?_).bind fun w => ?_
  · exact fun _ => rfl
  · exact (parallel_registerEach c w.handle .component components).bind fun _ =>
      parallel_registerEach c w.handle .system systems

/-- **Worlds are made in parallel** by recipes that go over into each other: the work of a spawn
does not notice lodgers. -/
theorem parallel_makeWorld (c : Catalog) (recipe : Recipe) (name : Value)
    (components systems : List Value) :
    Work.Parallel φ lodgers (makeWorld c (renumber φ.number recipe) name components systems)
      (makeWorld c recipe name components systems) := by
  refine (parallel_deployWorld c recipe name).bind fun h => ?_
  have hParts : Work.Parallel φ lodgers _ _ :=
    parallel_registerParts c (.handle h) (.list components) (.list systems)
  refine (hParts.wrapping .registration ?_).bind fun _ => ?_
  · exact fun _ => rfl
  · exact parallel_pure rfl

end Work

end WorldForge

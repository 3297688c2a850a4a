import WorldForge.Proofs.Realm.Arrival
import WorldForge.Proofs.Realm.Histories
import WorldForge.Scenario.Call

/-!
# Serving requests

Whoever has a factory, its ledger and its log can declare, deploy, destroy and look at instances,
administer the factory, have it make worlds or register parts, and read the log (`Request`). A run
of requests is served one after the other, and each of them is answered or refused.

Main results:

* `Request.parallel_answer` — what is asked on premises that lie beside each other is answered
  alike, if no lodger is named;
* `InOrder.answer`, `InOrder.serve` — what one request keeps in order that names only instances that
  were given out, and what a run of such requests keeps.
-/

namespace WorldForge

variable {κ : Type} {run : κ → Act κ Unit} {p : Premises} {r r' : Realm κ}
  {handed : List InstanceHandle} {φ : Shift} {lodgers : Ledger.Lodgers}

/-! ## Requests -/

/-- What can be asked on the premises of a factory. -/
inductive Request where
  | declare (name : Text) (kind id : Value)
  | deploy (template : Value) (args : List Value)
  | destroy (given : Value)
  | lookAt (world : Value)
  | administer (a : Factory.Administration)
  | operate (o : Operation)
  | readLog

/-- What is given for an answer. -/
inductive Reply where
  | done
  | declared (id : Value)
  /-- A new instance. -/
  | gave (h : InstanceHandle)
  /-- A world with its tables. -/
  | world (w : World)
  | events (events : List Value)

/-- The answer of an operation. -/
def Operation.reply : (o : Operation) → o.Result → Reply
  | .spawn .., h | .request .., h | .deploy _, h => .gave h
  | .registerAll .., _ => .done

namespace Request

/-- Answers a request. -/
def answer (run : κ → Act κ Unit) (p : Premises) : Request → Act κ Reply
  | declare name kind id => do
    match ← Scenario.Call.declareOn p.ledger (.str name) kind id with
    | .value id => return .declared id
    | .dump _ => return .done
  | deploy template args => do
    return .gave (← Act.onSite p.ledger fun c => Site.deploy c template (Argument.values args))
  | destroy given => do
    Act.onSite p.ledger fun _ => Site.destroy given
    return .done
  | lookAt world => do return .world (← Act.onSite p.ledger fun _ => Site.dispatcher world)
  | administer a => do
    a.act p.factory
    return .done
  | operate o => do return o.reply (← o.act run p.factory)
  | readLog => do return .events ((← get).eventsAt p)

/-- What is handed over to pay for a request. -/
def budget : Request → Value
  | operate o => o.budget
  | _ => .null

/-- The instances that a request names. -/
def instances : Request → List InstanceHandle
  | deploy _ args => args.tail.flatMap Value.instances
  | destroy given => given.instances
  | lookAt world => world.instances
  | administer (.setUp template executor) => template.instances ++ executor.instances
  | administer (.setExecutor executor) => executor.instances
  | administer (.setTemplate template) => template.instances
  | operate (.registerAll world ..) => world.instances
  | declare .. | operate _ | readLog => []

end Request

/-- The instances that are given with an answer. -/
def Reply.given : Except Error Reply → List InstanceHandle
  | .ok (.gave h) => [h]
  | _ => []

/-- Serves a run of requests: what becomes of each of them, and the realm in the end. -/
def serve (run : κ → Act κ Unit) (p : Premises) :
    List Request → Realm κ → List (Except Error Reply) × Realm κ
  | [], r => ([], r)
  | q :: rest, r =>
    let first := ends (q.answer run p) r
    let later := serve run p rest first.2
    (first.1 :: later.1, later.2)

/-- **Requests name only what was given out**: those that are known in the beginning, and those that
were given with an answer before. -/
def NamesGiven (run : κ → Act κ Unit) (p : Premises) (known : List InstanceHandle) :
    List Request → Realm κ → Prop
  | [], _ => True
  | q :: rest, r =>
    (∀ x ∈ q.instances, x ∈ known) ∧
      NamesGiven run p (known ++ Reply.given (ends (q.answer run p) r).1) rest
        (ends (q.answer run p) r).2

instance decidableNamesGiven : (known : List InstanceHandle) → (qs : List Request) →
    (r : Realm κ) → Decidable (NamesGiven run p known qs r)
  | _, [], _ => .isTrue trivial
  | known, q :: rest, r =>
    have := decidableNamesGiven (known ++ Reply.given (ends (q.answer run p) r).1) rest
      (ends (q.answer run p) r).2
    inferInstanceAs (Decidable (_ ∧ _))

/-! ## Renumbering -/

instance : Renumbers Factory.Administration where
  renumber g := fun
    | .setUp template executor => .setUp (renumber g template) (renumber g executor)
    | .setExecutor executor => .setExecutor (renumber g executor)
    | .setTemplate template => .setTemplate (renumber g template)

instance : Renumbers Operation where
  renumber g := fun
    | .registerAll world components systems budget =>
      .registerAll (renumber g world) components systems budget
    | o => o

instance : Renumbers Request where
  renumber g := fun
    | .deploy template args => .deploy template (Ledger.renumberArguments g args)
    | .destroy given => .destroy (renumber g given)
    | .lookAt world => .lookAt (renumber g world)
    | .administer a => .administer (renumber g a)
    | .operate o => .operate (renumber g o)
    | q => q

instance : Renumbers Reply where
  renumber g := fun
    | .gave h => .gave (renumber g h)
    | .world w => .world (renumber g w)
    | .events events => .events (renumber g events)
    | a => a

/-! ## Answering in parallel -/

section Parallel

variable {p : Outlook} {i : Nat}

/-- What stands behind a catalog is this catalog, however deep one looks. -/
theorem Realm.catalogBehind_catalog (r : Realm κ) (depth i : Nat) :
    r.catalogBehind depth (.object .catalog i) = .ok i := by
  cases depth <;> rfl

/-- What comes of a declaration. -/
def Request.declared (c : Catalog) (name : Text) (kind id : Value) :
    Except CatalogError (Value × Catalog) :=
  c.declare kind (.str name) (Scenario.Call.givenId id)

/-- **What a declaration with a text for its name comes to**: the catalog refuses it, or the realm
has the catalog with one more declaration. -/
theorem declare_eq (name : Text) (kind id : Value) (r : Realm κ) (i : Nat) :
    Scenario.Call.declare i (.str name) kind id r =
      match Request.declared (r.catalog i) name kind id with
      | .error e => .error (.catalog e) r
      | .ok (t, c) => .ok (.value t) (r.putCatalog i c) := by
  by_cases hNothing : (Value.str name).isNothing = true
  -- a catalog refuses such a name, too
  · have hRefused : Request.declared (r.catalog i) name kind id = .error .emptyName := by
      rw [Request.declared, Catalog.declare, if_pos hNothing]
    rw [hRefused]
    unfold Scenario.Call.declare
    have hCounts : r.countsAsNothing (.str name) = true := hNothing
    rw [bind_of_ok (get_eq r), if_pos hCounts]
    rfl
  · have hCounts : ¬r.countsAsNothing (.str name) = true := hNothing
    have hGo : Scenario.Call.declare i (.str name) kind id r =
        (orRaise .catalog (Request.declared (r.catalog i) name kind id) >>= fun done =>
          modify (Realm.putCatalog i done.2) >>= fun _ => Scenario.Call.give done.1) r := by
      unfold Scenario.Call.declare
      rw [bind_of_ok (get_eq r), if_neg hCounts]
      rfl
    rw [hGo]
    cases Request.declared (r.catalog i) name kind id <;> rfl

/-- **A declaration concerns nothing but the catalog.** -/
theorem Request.ends_answer_declare {p : Premises}
    (hCatalog : (r.ledger p.ledger).catalog = .object .catalog i) (name : Text)
    (kind id : Value) :
    ends (answer run p (.declare name kind id)) r =
      match declared (r.catalog i) name kind id with
      | .error e => (.error (.catalog e), r)
      | .ok (t, c) => (.ok (.declared t), r.putCatalog i c) := by
  have hDeclareOn : Scenario.Call.declareOn p.ledger (.str name) kind id r =
      Scenario.Call.declare i (.str name) kind id r := by
    unfold Scenario.Call.declareOn
    rw [bind_of_ok (get_eq r), hCatalog, Realm.catalogBehind_catalog]
  rw [answer, ends_bind, ends, hDeclareOn, declare_eq]
  cases declared (r.catalog i) name kind id <;> rfl

/-- A declaration has the same outcome in both realms, since there are no handles in a catalog. -/
theorem Request.parallel_declare (hCatalog : p.catalog = .object .catalog i) (name : Text)
    (kind id : Value) :
    Act.Parallel φ lodgers p (answer run p.toPremises (.declare name kind id))
      (answer run p.toPremises (.declare name kind id)) := by
  intro r s h
  have hCatalogs : r.catalog i = s.catalog i := by
    rw [Realm.catalog, Realm.catalog, h.catalogs]
  rw [ends_answer_declare (h.catalog.1.trans hCatalog),
    ends_answer_declare (h.catalog.2.trans hCatalog),
    hCatalogs]
  cases declared (s.catalog i) name kind id with
  | error e => exact ⟨rfl, h⟩
  | ok done =>
    refine ⟨rfl, h.site, h.catalog, ?_, h.factory, h.works, h.log, h.budgets⟩
    show r.catalogs.insert i done.2 = s.catalogs.insert i done.2
    rw [h.catalogs]

/-- A configuration is set up with a renumbered executor as it is with the executor itself. -/
theorem Configuration.setUp_renumber (g : Int → Int) (c : Configuration)
    (template executor : Value) :
    (renumber g c).setUp (renumber g template) (renumber g executor) =
      renumber g (c.setUp template executor) := by
  obtain ⟨_ | recipe⟩ := c
  · cases template with
    | template id => cases executor <;> rfl
    | _ => rfl
  · rfl

/-- A configuration takes a renumbered executor as it takes the executor itself. -/
theorem Configuration.setExecutor_renumber (g : Int → Int) (c : Configuration)
    (executor : Value) :
    (renumber g c).setExecutor (renumber g executor) = renumber g (c.setExecutor executor) := by
  obtain ⟨_ | recipe⟩ := c
  · rfl
  · cases executor <;> rfl

/-- A template has no handle in it, so only the executor that is in force already is renumbered. -/
theorem Configuration.setTemplate_renumber (g : Int → Int) (c : Configuration)
    (template : Value) :
    (renumber g c).setTemplate (renumber g template) = renumber g (c.setTemplate template) := by
  obtain ⟨_ | recipe⟩ := c
  · rfl
  · cases template <;> rfl

/-- An administrative call is accepted in both realms or refused in both, and leaves recipes that
correspond. -/
theorem Factory.parallel_administration (a : Factory.Administration) :
    Act.Parallel φ lodgers p ((renumber φ.number a).act p.factory : Act κ Unit)
      (a.act p.factory) := by
  cases a with
  | setUp template executor =>
    exact (parallel_reconfigure fun c => c.setUp_renumber _ template executor).bind fun _ =>
      Act.parallel_report _ _
  | setExecutor executor =>
    exact (parallel_reconfigure fun c => c.setExecutor_renumber _ executor).bind fun _ =>
      Act.parallel_report _ _
  | setTemplate template =>
    exact (parallel_reconfigure fun c => c.setTemplate_renumber _ template).bind fun _ =>
      Act.parallel_report _ _

/-- **An operation answers the same in both realms**, up to the handle that it gives, if it does not
pay from the budget that is not looked at. -/
theorem Operation.parallel_reply (o : Operation)
    (hBudget : o.budget = .null ∨ o.budget ≠ p.hidden) :
    Act.Parallel φ lodgers p
      (Request.answer run p.toPremises (.operate (renumber φ.number o)))
      (Request.answer run p.toPremises (.operate o)) := by
  cases o with
  | spawn name components systems budget =>
    exact (Factory.parallel_spawn name components systems hBudget).bind fun _ => parallel_pure rfl
  | request given budget =>
    exact (Factory.parallel_spawnRequest given hBudget).bind fun _ => parallel_pure rfl
  | deploy name => exact (Factory.parallel_deploy name).bind fun _ => parallel_pure rfl
  | registerAll world components systems budget =>
    exact (Factory.parallel_registerAll world components systems hBudget).bind fun _ =>
      parallel_pure rfl

/-- What both logs have been told of corresponds, if it did so before. -/
theorem Realm.Beside.eventsAt {s : Realm κ} (h : r.Beside φ lodgers p s)
    (hTold : p.told.1 = renumber φ.number p.told.2) :
    r.eventsAt p.toPremises = renumber φ.number (s.eventsAt p.toPremises) := by
  cases hLog : p.log? with
  | none =>
    rw [Realm.eventsAt, Realm.eventsAt, hLog]
    rfl
  | some k =>
    obtain ⟨events, hr, hs⟩ := h.log k hLog
    rw [eventsAt_eq hLog, eventsAt_eq hLog, hr, hs, renumber_append, hTold]

/-- **What is asked on premises that lie beside each other is answered alike**, if no lodger is
named and no hidden budget is used. -/
theorem Request.parallel_answer (hCatalog : p.catalog = .object .catalog i)
    (hTold : p.told.1 = renumber φ.number p.told.2) (q : Request)
    (hBudget : q.budget = .null ∨ q.budget ≠ p.hidden) :
    Act.Parallel φ lodgers p (answer run p.toPremises (renumber φ.number q))
      (answer run p.toPremises q) := by
  cases q with
  | declare name kind id => exact parallel_declare hCatalog name kind id
  | deploy template args =>
    refine Parallel.bind (Act.parallel_onSite fun c => ?_) fun h => parallel_pure rfl
    exact Site.parallel_deploy c template args
  | destroy given =>
    refine Parallel.bind (Act.parallel_onSite fun c => ?_) fun h => parallel_pure rfl
    exact Site.parallel_destroy given
  | lookAt world =>
    refine Parallel.bind (Act.parallel_onSite fun c => ?_) fun h => parallel_pure rfl
    exact Site.parallel_dispatcher world
  | administer a => exact (Factory.parallel_administration a).bind fun _ => parallel_pure rfl
  | operate o => exact o.parallel_reply hBudget
  | readLog =>
    refine Parallel.get fun r s h => parallel_pure ?_
    exact congrArg Reply.events (h.eventsAt hTold)

end Parallel

/-! ## What one request does -/

/-- **What a request does to the handles that are about.** The ledger is taken further, what is
given is its next handle, the recipe has an executor that is named if it is a new one, and the log
is told of what is given. -/
structure Request.Goes (p : Premises) (named given : List InstanceHandle) (r r' : Realm κ) :
    Prop where
  leads : (r.scene p.ledger).LeadsTo (r'.scene p.ledger)
  fresh : ∀ x ∈ given, x = (r.ledger p.ledger).ledger.allocator.fresh ∧
    x.number < (r'.ledger p.ledger).ledger.allocator.next.toInt
  recipe : ∀ recipe, (r'.factory p.factory).configuration = .holding recipe →
    recipe.executor ∈ named ∨
      ∃ old, (r.factory p.factory).configuration = .holding old ∧ recipe.executor = old.executor
  events : ∀ v ∈ r'.eventsAt p, v ∈ r.eventsAt p ∨ ∃ x ∈ given, v = .worldCreated x

namespace Request

variable {named given : List InstanceHandle} {i k : Nat}

/-- A request that leaves factories and logs alone goes as described if it only takes the ledger
further. -/
theorem goes_of_same (hFactories : r'.factories = r.factories) (hSinks : r'.sinks = r.sinks)
    (hLeads : (r.scene p.ledger).LeadsTo (r'.scene p.ledger))
    (hFresh : ∀ x ∈ given, x = (r.ledger p.ledger).ledger.allocator.fresh ∧
      x.number < (r'.ledger p.ledger).ledger.allocator.next.toInt) :
    Goes p named given r r' where
  leads := hLeads
  fresh := hFresh
  recipe recipe h := by
    rw [Realm.factory, hFactories] at h
    exact .inr ⟨recipe, h, rfl⟩
  events v hMem := by
    have hEvents : r'.eventsAt p = r.eventsAt p := by
      simp only [Realm.eventsAt, Realm.sink, hSinks]
    rw [hEvents] at hMem
    exact .inl hMem

/-- What is made of a result afterwards changes neither the state nor an error. -/
theorem ends_bind_pure {σ α β : Type} (x : EStateM Error σ α) (f : α → β) (s : σ) :
    ends (x >>= fun a => pure (f a)) s = ((ends x s).1.map f, (ends x s).2) := by
  rw [ends_bind]
  rcases ends x s with ⟨_ | _, t⟩ <;> rfl

/-- What is done on the site of the ledger goes as described: it consists of moves, and has nothing
to do with recipe and log. -/
theorem goes_onSite {α : Type} {x : Catalog → SiteM α}
    (hx : ∀ c l, Keeps (Site.Follows c l) (x c))
    (hFresh : ∀ h ∈ given, h = (r.ledger p.ledger).ledger.allocator.fresh ∧ h.number <
      ((ends (Act.onSite p.ledger x) r).2.ledger p.ledger).ledger.allocator.next.toInt) :
    Goes p named given r (ends (Act.onSite p.ledger x) r).2 := by
  have hLeads : (r.scene p.ledger).LeadsTo ((ends (Act.onSite p.ledger x) r).2.scene p.ledger) :=
    (Factory.aside_onSite hx p.factory 0 r).leads
  rw [Act.ends_onSite] at hLeads hFresh ⊢
  exact goes_of_same rfl rfl hLeads hFresh

/-- A deployment that succeeds gives the next handle. -/
theorem fresh_of_deploy {c : Catalog} {template : Value} {args : List Argument} {s s' : Site}
    {h : InstanceHandle} (hDeploy : Site.deploy c template args s = .ok h s') :
    h = s.ledger.allocator.fresh ∧
      h.number < s'.ledger.allocator.next.toInt := by
  obtain ⟨-, -, -, plan, l, hLedger, rfl⟩ := Site.deploy_eq_ok_iff.1 hDeploy
  refine ⟨Ledger.fresh_of_deploy hLedger, ?_⟩
  rw [Ledger.fresh_of_deploy hLedger]
  show _ < l.allocator.next.toInt
  rw [Ledger.allocator_of_deploy hLedger]
  exact Int.lt_succ _

/-- A deployment goes as described, and gives the next handle if it succeeds. -/
theorem goes_deploy (template : Value) (args : List Value) (r : Realm κ) :
    Goes p named (Reply.given (ends (answer run p (.deploy template args)) r).1) r
      (ends (answer run p (.deploy template args)) r).2 := by
  rw [answer, ends_bind_pure]
  refine goes_onSite (fun c l => Site.keeps_deploy template (Argument.values args)) fun h hMem => ?_
  rw [Act.ends_onSite] at hMem ⊢
  cases hDeploy : Site.deploy (r.catalogFor p.ledger) template (Argument.values args)
      (r.site p.ledger) with
  | error e s =>
    rw [ends_of_error hDeploy] at hMem
    cases hMem
  | ok x s =>
    rw [ends_of_ok hDeploy] at hMem ⊢
    obtain rfl := List.mem_singleton.1 hMem
    rw [Realm.ledger_closed]
    exact fresh_of_deploy hDeploy

/-- A new recipe has an executor that the request names, or the one that was in force before. -/
theorem goes_reconfigure {change : Configuration → Except ConfigurationError Recipe}
    (record : Recipe → LogRecord)
    (hChange : ∀ recipe, change (r.factory p.factory).configuration = .ok recipe →
      recipe.executor ∈ named ∨
        ∃ old, (r.factory p.factory).configuration = .holding old ∧
          recipe.executor = old.executor) :
    Goes p named [] r (ends (Factory.reconfigure p.factory change >>= fun x =>
      Act.report (record x)) r).2 := by
  rw [ends_bind, Factory.reconfigure, ends_bind, ends_of_ok (get_eq r)]
  dsimp only
  cases hDone : change (r.factory p.factory).configuration with
  | error e => exact goes_of_same rfl rfl (.refl _) fun x hMem => by cases hMem
  | ok recipe =>
    -- a new recipe is in force, and that is all
    let f : Factory := { r.factory p.factory with configuration := .holding recipe }
    have hFactory : (r.putFactory p.factory f).factory p.factory = f := by
      rw [Realm.factory_putFactory, if_pos rfl]
    refine ⟨.refl _, fun x hMem => (by cases hMem), fun new hNew => ?_, fun v hMem => .inl hMem⟩
    change ((r.putFactory p.factory f).factory p.factory).configuration = _ at hNew
    rw [hFactory] at hNew
    obtain rfl : recipe = new := Option.some.inj (congrArg Configuration.current hNew)
    exact hChange recipe hDone

/-- An administrative call goes as described. It gives no handle and leaves ledger and log alone. -/
theorem goes_administer (a : Factory.Administration) (r : Realm κ) :
    Goes p (administer a).instances (Reply.given (ends (answer run p (.administer a)) r).1) r
      (ends (answer run p (.administer a)) r).2 := by
  have hNone : Reply.given (ends (answer run p (.administer a)) r).1 = [] := by
    rw [answer, ends_bind_pure]
    cases (ends (a.act p.factory) r).1 <;> rfl
  rw [hNone, answer, ends_bind_pure]
  -- a new executor is named by the request, and else the old one stays
  cases a with
  | setUp template executor =>
    refine goes_reconfigure _ fun recipe hDone => .inl ?_
    obtain ⟨-, -, rfl⟩ := Configuration.setUp_eq_ok_iff.1 hDone
    exact List.mem_append_right _ (.head _)
  | setExecutor executor =>
    refine goes_reconfigure _ fun recipe hDone => .inl ?_
    obtain ⟨old, x, -, rfl, rfl⟩ := Configuration.setExecutor_eq_ok_iff.1 hDone
    exact .head _
  | setTemplate template =>
    refine goes_reconfigure _ fun recipe hDone => .inr ?_
    obtain ⟨old, t, hOld, -, rfl⟩ := Configuration.setTemplate_eq_ok_iff.1 hDone
    exact ⟨old, hOld, rfl⟩

/-- An operation that succeeds gives the next handle, if it gives one. -/
theorem fresh_of_course {o : Operation} {j : Nat} {out : Except Error o.Result}
    (h : o.Course run i j r out r') :
    ∀ x ∈ Factory.givenBy o out, x = (r.ledger j).ledger.allocator.fresh := by
  intro x hMem
  cases h with
  | told hDone =>
    obtain ⟨pays, hWork⟩ := hDone.work
    exact (Operation.made_of_work hWork hMem).1
  | _ => cases hMem

/-- An operation that fails gives no reply. -/
theorem answer_operate_of_error {o : Operation} {e : Error}
    (hFails : (ends (o.act run p.factory) r).1 = .error e) :
    ends (answer run p (.operate o)) r = (.error e, (ends (o.act run p.factory) r).2) := by
  rw [answer, ends_bind_pure, hFails]
  rfl

/-- What is given with the answer of an operation is the handle of its world, if it makes one. -/
theorem given_operate (o : Operation) (r : Realm κ) :
    Reply.given (ends (answer run p (.operate o)) r).1 =
      Factory.givenBy o (ends (o.act run p.factory) r).1 := by
  rw [answer, ends_bind_pure]
  cases (ends (o.act run p.factory) r).1 with
  | error e => rfl
  | ok a => cases o <;> rfl

/-- **An operation goes as described**: the ledger is taken further, and the log is told of nothing
but the world that is given. -/
theorem goes_operate (hQuiet : r.Quiet p) (hLog : p.log? = some k) {o : Operation}
    (hBudget : o.budget = .null ∨ ∃ m, o.budget = .object .budget m) :
    Goes p (operate o).instances (Reply.given (ends (answer run p (.operate o)) r).1) r
      (ends (answer run p (.operate o)) r).2 := by
  rw [given_operate, answer, ends_bind_pure]
  have hCourse := Operation.course (o := o) hQuiet.works.1 hBudget run
  have hSink : (r.factory p.factory).sink = .object .eventLog k := by
    rw [hQuiet.works.2, Premises.sink, hLog]
  have hEntered := Factory.entered_of_course hBudget hSink (hQuiet.script k hLog) hCourse
  refine ⟨hEntered.leads, fun x hMem => ⟨fresh_of_course hCourse x hMem, (hEntered.fresh x hMem).2⟩,
    fun recipe hRecipe => ?_, fun v hMem => ?_⟩
  · rw [Realm.factory, hEntered.factories] at hRecipe
    exact .inr ⟨recipe, hRecipe, rfl⟩
  -- an event in the log is an old one, or announces a world that was made
  · rw [Realm.eventsAt_eq hLog, hEntered.log] at hMem
    rw [Realm.eventsAt_eq hLog]
    rcases List.mem_append.1 hMem with hOld | hNew
    · exact .inl hOld
    · obtain ⟨x, hx, rfl⟩ := List.mem_map.1 hNew
      exact .inr ⟨x, hx, rfl⟩

/-- A declaration goes as described: one move on the scene of the ledger, and no handle given. -/
theorem goes_declare (hCatalog : (r.ledger p.ledger).catalog = .object .catalog i) (name : Text)
    (kind id : Value) :
    Goes p [] (Reply.given (ends (answer run p (.declare name kind id)) r).1) r
      (ends (answer run p (.declare name kind id)) r).2 := by
  rw [ends_answer_declare hCatalog]
  cases hDeclare : declared (r.catalog i) name kind id with
  | error e => exact goes_of_same rfl rfl (.refl _) fun x hMem => by cases hMem
  | ok done =>
    -- what is declared is one more move of the history
    obtain ⟨t, c⟩ := done
    refine goes_of_same rfl rfl ⟨[.declare kind (.str name) (Scenario.Call.givenId id)], ?_⟩
      fun x hMem => by cases hMem
    rw [Realm.scene_of_catalog hCatalog, Realm.scene_of_catalog (r := r.putCatalog i c) hCatalog]
    have hDone := Scene.perform_declare_of_ok (s := ⟨r.catalog i, (r.ledger p.ledger).ledger⟩)
      hDeclare
    simpa using hDone

/-- **What a request does**, whatever it is: the ledger goes on with its history, and the handles
that are given are new ones. -/
theorem goes_answer (hQuiet : r.Quiet p) (hLog : p.log? = some k)
    (hCatalog : p.catalog = .object .catalog i) {q : Request}
    (hBudget : q.budget = .null ∨ ∃ m, q.budget = .object .budget m) (run : κ → Act κ Unit) :
    Goes p q.instances (Reply.given (ends (q.answer run p) r).1) r (ends (q.answer run p) r).2 := by
  cases q with
  | declare name kind id => exact goes_declare (hQuiet.catalog.trans hCatalog) name kind id
  | deploy template args => exact goes_deploy template args r
  | destroy given =>
    -- a destruction gives no handle, and neither does a look at a world
    rw [answer, ends_bind_pure]
    refine goes_onSite (fun c l => Site.keeps_destroy given) fun x hMem => ?_
    cases hEnd : (ends (Act.onSite p.ledger fun _ => Site.destroy given) r).1 with
    | _ =>
      rw [hEnd] at hMem
      cases hMem
  | lookAt world =>
    rw [answer, ends_bind_pure]
    refine goes_onSite (fun c l => Site.keeps_dispatcher Site.Follows.withFaults world)
      fun x hMem => ?_
    cases hEnd : (ends (Act.onSite p.ledger fun _ => Site.dispatcher world) r).1 with
    | _ =>
      rw [hEnd] at hMem
      cases hMem
  | administer a => exact goes_administer a r
  | operate o => exact goes_operate hQuiet hLog hBudget
  | readLog => exact goes_of_same rfl rfl (.refl _) fun x hMem => by cases hMem

end Request

/-! ## Premises in order -/

/-- **Premises are in order** as long as all instances that are used were given out there. Such an
instance is known by a number below the next one. -/
structure Realm.InOrder (p : Premises) (known : List InstanceHandle) (r : Realm κ) : Prop where
  quiet : r.Quiet p
  reached : ∃ handed, Ledger.Reached (r.catalogFor p.ledger) (r.ledger p.ledger).ledger handed
  plain : (r.ledger p.ledger).ledger.allocator.fresh.Plain
  below : ∀ x ∈ known, x.Plain ∧ x.number < (r.ledger p.ledger).ledger.allocator.next.toInt
  recipe : ∀ recipe, (r.factory p.factory).configuration = .holding recipe → recipe.executor ∈ known
  events : ∀ v ∈ r.eventsAt p, ∀ x ∈ v.instances, x ∈ known

section Served

variable {known : List InstanceHandle} {i k : Nat} {q : Request} {qs rest : List Request}

/-- Quiet premises stay quiet, since a request is answered in parallel with itself. -/
theorem Realm.Quiet.answer (h : r.Quiet p)
    (hReached : Ledger.Reached (r.catalogFor p.ledger) (r.ledger p.ledger).ledger handed)
    (hCatalog : p.catalog = .object .catalog i) (run : κ → Act κ Unit) (q : Request) :
    (ends (q.answer run p) r).2.Quiet p :=
  (Request.parallel_answer (p := ⟨p, .null, [], []⟩) hCatalog rfl q (em _) r r
    (h.beside_self hReached)).2.quiet.2

/-- **A request that names only known instances leaves the premises in order.** -/
theorem Realm.InOrder.answer (h : r.InOrder p known) (hLog : p.log? = some k)
    (hCatalog : p.catalog = .object .catalog i)
    (hBudget : q.budget = .null ∨ ∃ m, q.budget = .object .budget m)
    (hNamed : ∀ x ∈ q.instances, x ∈ known) (run : κ → Act κ Unit) :
    (ends (q.answer run p) r).2.InOrder p
      (known ++ Reply.given (ends (q.answer run p) r).1) := by
  have hGoes := Request.goes_answer h.quiet hLog hCatalog hBudget run
  obtain ⟨handed, hReached⟩ := h.reached
  refine ⟨h.quiet.answer hReached hCatalog run q, Operation.reached_of_leads hGoes.leads hReached,
    hGoes.leads.plain h.plain, fun x hMem => ?_, fun recipe hRecipe => ?_, fun v hMem x hx => ?_⟩
  -- a handle that is given is the next one, so the ledger has counted past it
  · rcases List.mem_append.1 hMem with hOld | hNew
    · exact ⟨(h.below x hOld).1, Int.lt_of_lt_of_le (h.below x hOld).2 hGoes.leads.next_le⟩
    · obtain ⟨rfl, hBelow⟩ := hGoes.fresh x hNew
      exact ⟨h.plain, hBelow⟩
  -- the recipe has its executor from the request, or from the recipe before
  · rcases hGoes.recipe recipe hRecipe with hMem | ⟨old, hOld, hSame⟩
    · exact List.mem_append_left _ (hNamed _ hMem)
    · rw [hSame]
      exact List.mem_append_left _ (h.recipe old hOld)
  · rcases hGoes.events v hMem with hOld | ⟨y, hy, rfl⟩
    · exact List.mem_append_left _ (h.events v hOld x hx)
    · obtain rfl := List.mem_singleton.1 hx
      exact List.mem_append_right _ hy

/-- **A run of requests that name only known instances leaves the premises in order.** -/
theorem Realm.InOrder.serve (h : r.InOrder p known) (hLog : p.log? = some k)
    (hCatalog : p.catalog = .object .catalog i)
    (hBudgets : ∀ q ∈ qs, q.budget = .null ∨ ∃ m, q.budget = .object .budget m)
    (hNames : NamesGiven run p known qs r) :
    (serve run p qs r).2.InOrder p (known ++ (serve run p qs r).1.flatMap Reply.given) := by
  induction qs generalizing r known with
  | nil =>
    rw [WorldForge.serve, List.flatMap_nil, List.append_nil]
    exact h
  | cons q rest ih =>
    -- each answer adds the handles that it gives to those that may be named
    have hStep := h.answer hLog hCatalog (hBudgets q (.head _)) hNames.1 run
    have hRest := ih hStep (fun q hMem => hBudgets q (.tail _ hMem)) hNames.2
    rw [List.append_assoc] at hRest
    exact hRest

/-! ## One run after another -/

/-- Requests in two rows are served one row after the other, the second one in the realm that the
first one leaves. -/
theorem serve_append (qs rest : List Request) (r : Realm κ) :
    serve run p (qs ++ rest) r =
      ((serve run p qs r).1 ++ (serve run p rest (serve run p qs r).2).1,
        (serve run p rest (serve run p qs r).2).2) := by
  induction qs generalizing r with
  | nil => rfl
  | cons q qs ih =>
    rw [List.cons_append, serve, serve, ih]
    rfl

/-- Each request is answered, be it by an error. -/
theorem length_serve (qs : List Request) (r : Realm κ) :
    (serve run p qs r).1.length = qs.length := by
  induction qs generalizing r with
  | nil => rfl
  | cons q qs ih => exact congrArg (· + 1) (ih _)

/-- Requests in two rows name only what was given out exactly if those of the first row do, and then
those of the second with what the first one has given. -/
theorem namesGiven_append :
    NamesGiven run p known (qs ++ rest) r ↔ NamesGiven run p known qs r ∧
      NamesGiven run p (known ++ (serve run p qs r).1.flatMap Reply.given) rest
        (serve run p qs r).2 := by
  induction qs generalizing r known with
  | nil =>
    rw [serve, List.flatMap_nil, List.append_nil, List.nil_append, NamesGiven, true_and]
  | cons q qs ih =>
    rw [List.cons_append, NamesGiven, NamesGiven, ih, serve, List.flatMap_cons, List.append_assoc,
      and_assoc]

end Served

end WorldForge

import WorldForge.Proofs.Realm.Service

/-!
# Failed spawns can be erased

A run of requests is served on new premises, and one of them was to make a world, but failed. If
this request is left out, all the others are answered as they were, up to the numbers of handles:
where the failed request had used up a handle, those that are given out later are lower by one. The
premises are the same in the end, up to these numbers.

What the failed request leaves of itself is a lodger, which nobody can name: instances are named by
their handles only, and only after they were given out. So from there on the run is served in
parallel with the shorter one, in which the handles are named by their lower numbers.

Main results:

* `serve_beside` — a run that names no lodger is served alike on premises that lie beside each
  other;
* `serve_after_failure` — what comes after a failed spawn is served as if it had not been there;
* `failed_spawn_erased` — so the spawn can be left out of the run.
-/

namespace WorldForge

variable {κ : Type} {run : κ → Act κ Unit} {r r' : Realm κ} {φ : Shift} {g g' : Int → Int}
  {lodgers : Ledger.Lodgers} {known handed : List InstanceHandle} {i k : Nat}

/-! ## There and back -/

namespace Shift

/-- An instance that is no lodger has a number on the other side. -/
theorem renumber_back {x : InstanceHandle} (hOwn : φ.other x.number = false) (hPlain : x.Plain) :
    renumber φ.number (renumber φ.back x) = x := by
  rw [hPlain, renumber_ofInt, renumber_ofInt, φ.number_back _ hOwn]

/-- How the handles behind a later ledger are numbered: if a handle was used up since then, those
that come next have moved up by one. -/
def behind (l l' : Ledger) : Shift :=
  if l'.allocator.next.toInt = l.allocator.next.toInt then .none else .above l.allocator.next.toInt

end Shift

/-- An arrival moves the handles up that come next. -/
theorem Arrival.shift_eq_behind (a : Arrival) (l : Ledger) :
    a.shift l.allocator.next.toInt = .behind l (l.join a) := by
  have hNext := Ledger.number_fresh_join l a
  change (l.join a).allocator.next.toInt = l.allocator.next.toInt + _ at hNext
  rw [Shift.behind, hNext]
  cases a with
  | nothing => exact (if_pos (Int.add_zero _)).symm
  | _ => exact (if_neg (by dsimp only; omega)).symm

/-- A value is restored by the way back if all handles in it are. -/
theorem Value.renumber_renumber {v : Value}
    (h : ∀ x ∈ v.instances, renumber g (renumber g' x) = x) : renumber g (renumber g' v) = v := by
  cases v with
  | handle x => rw [renumber_handle, renumber_handle, h x (.head _)]
  | worldCreated x => rw [renumber_worldCreated, renumber_worldCreated, h x (.head _)]
  | _ => rfl

/-- A list of values is restored by the way back if all handles in it are. -/
theorem renumber_renumber_values {l : List Value}
    (h : ∀ x ∈ l.flatMap Value.instances, renumber g (renumber g' x) = x) :
    renumber g (renumber g' l) = l := by
  induction l with
  | nil => rfl
  | cons v rest ih =>
    rw [renumber_cons, renumber_cons,
      Value.renumber_renumber fun x hMem => h x (List.mem_append_left _ hMem),
      ih fun x hMem => h x (List.mem_append_right _ hMem)]

namespace Request

variable {q : Request}

/-- A request is the same if the instances are that it names. -/
theorem renumber_renumber (h : ∀ x ∈ q.instances, renumber g (renumber g' x) = x) :
    renumber g (renumber g' q) = q := by
  cases q with
  | deploy template args =>
    cases args with
    | nil => rfl
    | cons name rest =>
      show Request.deploy template (name :: renumber g (renumber g' rest)) = _
      rw [renumber_renumber_values (l := rest) h]
  | destroy given => exact congrArg destroy (Value.renumber_renumber h)
  | lookAt world => exact congrArg lookAt (Value.renumber_renumber h)
  -- a recipe has two instances at most, and each setting has its own
  | administer a =>
    cases a with
    | setUp template executor =>
      show administer (.setUp (renumber g (renumber g' template))
        (renumber g (renumber g' executor))) = _
      rw [Value.renumber_renumber fun x hMem => h x (List.mem_append_left _ hMem),
        Value.renumber_renumber fun x hMem => h x (List.mem_append_right _ hMem)]
    | setExecutor executor =>
      exact congrArg (fun v => administer (.setExecutor v)) (Value.renumber_renumber h)
    | setTemplate template =>
      exact congrArg (fun v => administer (.setTemplate v)) (Value.renumber_renumber h)
  | operate o =>
    cases o with
    | registerAll world components systems budget =>
      exact congrArg (fun v => operate (.registerAll v components systems budget))
        (Value.renumber_renumber h)
    | _ => rfl
  | _ => rfl

@[simp] theorem budget_renumber (q : Request) : (renumber g q).budget = q.budget := by
  cases q with
  | operate o => cases o <;> rfl
  | _ => rfl

end Request

/-- What is given with a renumbered answer is what was given with the answer, renumbered. -/
theorem Reply.given_renumber (out : Except Error Reply) :
    given (renumber g out) = renumber g (given out) := by
  rcases out with _ | reply
  · rfl
  · cases reply <;> rfl

/-! ## Serving beside a lodger -/

/-- **A run that names no lodger is served alike** on premises that lie beside each other, if every
instance is named there by the number that it has there. -/
theorem serve_beside {p : Outlook} {x y : Realm κ} {qs : List Request}
    (hCatalog : p.catalog = .object .catalog i) (hLog : p.log? = some k)
    (hTold : p.told.1 = renumber φ.number p.told.2)
    (hBudgets : ∀ q ∈ qs, q.budget = .null ∨ ∃ m, q.budget = .object .budget m)
    (hSeen : ∀ q ∈ qs, q.budget = .null ∨ q.budget ≠ p.hidden)
    (hNames : NamesGiven run p.toPremises known qs x)
    (hOwn : ∀ z ∈ known, φ.other z.number = false) (hOrder : x.InOrder p.toPremises known)
    (hBeside : x.Beside φ lodgers p y) :
    (serve run p.toPremises qs x).1 =
        renumber φ.number (serve run p.toPremises (qs.map (renumber φ.back)) y).1 ∧
      (serve run p.toPremises qs x).2.Beside φ lodgers p
        (serve run p.toPremises (qs.map (renumber φ.back)) y).2 := by
  induction qs generalizing x y known with
  | nil => exact ⟨rfl, hBeside⟩
  | cons q rest ih =>
    -- the request is what the one that is asked there becomes here
    have hSame : renumber φ.number (renumber φ.back q) = q :=
      Request.renumber_renumber fun z hMem =>
        Shift.renumber_back (hOwn z (hNames.1 z hMem)) (hOrder.below z (hNames.1 z hMem)).1
    have hParallel : Act.Parallel φ lodgers p
        (Request.answer run p.toPremises (renumber φ.number (renumber φ.back q)))
        (Request.answer run p.toPremises (renumber φ.back q)) :=
      Request.parallel_answer hCatalog hTold _ (by simpa using hSeen q (.head _))
    rw [hSame] at hParallel
    have hFirst := hParallel x y hBeside
    -- what was given is no lodger either
    have hOwn' : ∀ z ∈ known ++ Reply.given (ends (q.answer run p.toPremises) x).1,
        φ.other z.number = false := by
      intro z hMem
      rcases List.mem_append.1 hMem with hOld | hNew
      · exact hOwn z hOld
      · rw [hFirst.1, Reply.given_renumber] at hNew
        obtain ⟨z', -, rfl⟩ := List.mem_map.1 hNew
        exact Shift.other_renumber z'
    obtain ⟨hAnswers, hEnd⟩ := ih (fun q hMem => hBudgets q (.tail _ hMem))
      (fun q hMem => hSeen q (.tail _ hMem)) hNames.2 hOwn'
      (hOrder.answer hLog hCatalog (hBudgets q (.head _)) hNames.1 run) hFirst.2
    exact ⟨congrArg₂ List.cons hFirst.1 hAnswers, hEnd⟩

/-! ## Leaving a failed request out -/

/-- **Where a run begins**: a new ledger, a factory that has not been set up, and an event log that
has not been told of anything. -/
structure Realm.Opening (p : Premises) (r : Realm κ) : Prop where
  quiet : r.Quiet p
  catalog : (r.catalogFor p.ledger).Reached
  ledger : (r.ledger p.ledger).ledger = .empty
  configuration : (r.factory p.factory).configuration = .blank
  events : r.eventsAt p = []

/-- **The premises of a factory are the same in two realms**, up to the numbers of handles. What is
left over in the first one is a world that has been destroyed before anybody could see it. -/
structure Realm.Shifted (φ : Shift) (p : Premises) (budget : Value) (x y : Realm κ) : Prop where
  fresh : (x.ledger p.ledger).ledger.allocator.fresh =
    renumber φ.number (y.ledger p.ledger).ledger.allocator.fresh
  alive : (x.ledger p.ledger).ledger.allocator.alive =
    renumber φ.number (y.ledger p.ledger).ledger.allocator.alive
  templates : (x.ledger p.ledger).ledger.templates.entries =
    (y.ledger p.ledger).ledger.templates.entries.map (Prod.map (renumber φ.number) id)
  worlds : (x.ledger p.ledger).ledger.worlds.entries =
    renumber φ.number (y.ledger p.ledger).ledger.worlds.entries
  retired : ((x.ledger p.ledger).ledger.retired.entries.filter fun e => !φ.others e.1) =
    renumber φ.number (y.ledger p.ledger).ledger.retired.entries
  catalogs : x.catalogs = y.catalogs
  factory : x.factory p.factory = renumber φ.number (y.factory p.factory)
  events : x.eventsAt p = renumber φ.number (y.eventsAt p)
  budgets : ∀ m, .object .budget m ≠ budget → x.budget m = y.budget m

/-- A run begins in order. -/
theorem Realm.Opening.inOrder {p : Premises} (h : r.Opening p) : r.InOrder p [] := by
  have hReached : Ledger.Reached (r.catalogFor p.ledger) (r.ledger p.ledger).ledger [] := by
    rw [h.ledger]
    exact .new h.catalog
  refine ⟨h.quiet, ⟨[], hReached⟩, ?_, fun x hMem => (by cases hMem), fun recipe hRecipe => ?_,
    fun v hMem => ?_⟩
  · rw [h.ledger]
    rfl
  · rw [h.configuration] at hRecipe
    cases hRecipe
  · rw [h.events] at hMem
    cases hMem

/-- Without lodgers, a table is the other one with its keys renumbered. -/
theorem Table.Beside.entries {ν : Type} {f : ν → ν} {t u : Table Key ν} (h : Beside φ f [] t u) :
    t.entries = u.entries.map (Prod.map (renumber φ.number) f) := by
  rw [← h.own]
  symm
  rw [List.filter_eq_self]
  intro e he
  simpa using List.filter_eq_nil_iff.1 h.lodgers e he

/-- Where no lodger is alive, the premises are the same. -/
theorem Realm.Beside.shifted {p : Outlook} {x y : Realm κ} (h : x.Beside φ lodgers p y)
    (hTold : p.told.1 = renumber φ.number p.told.2) (hAlive : lodgers.alive = [])
    (hTemplates : lodgers.templates = []) (hWorlds : lodgers.worlds = []) :
    x.Shifted φ p.toPremises p.hidden y := by
  have hLedger : (x.ledger p.ledger).ledger.Beside φ lodgers (y.ledger p.ledger).ledger :=
    h.site.ledger
  have hTemplates' := hLedger.templates
  have hWorlds' := hLedger.worlds
  rw [hTemplates] at hTemplates'
  rw [hWorlds] at hWorlds'
  refine ⟨hLedger.fresh, ?_, hTemplates'.entries, hWorlds'.entries, hLedger.retired.own, h.catalogs,
    h.factory, h.eventsAt hTold, h.budgets⟩
  rw [← hLedger.alive]
  symm
  rw [List.filter_eq_self]
  intro z hz
  simpa using List.filter_eq_nil_iff.1 (hLedger.lodging.trans hAlive) z hz

/-- What has arrived without being given is not alive. -/
theorem Arrival.lodgers_of_not_given {a : Arrival} (h : a.given = []) :
    a.lodgers.alive = [] ∧ a.lodgers.templates = [] ∧ a.lodgers.worlds = [] := by
  cases a with
  | made t w => cases h
  | _ => exact ⟨rfl, rfl, rfl⟩

section Erasure

variable {p : Premises} {before later : List Request} {o : Operation} {e : Error}

/-- **What is served after an operation that was to make a world and failed** is served as if it had
never been asked for. -/
theorem serve_after_failure {r₁ : Realm κ} (hOrder : r₁.InOrder p known) (hLog : p.log? = some k)
    (hCatalog : p.catalog = .object .catalog i) (hMakes : ∀ a : o.Result, o.made a ≠ [])
    (hBudget : o.budget = .null ∨ ∃ m, o.budget = .object .budget m)
    (hFails : (ends (o.act run p.factory) r₁).1 = .error e)
    (hBudgets : ∀ q ∈ later, q.budget = .null ∨ ∃ m, q.budget = .object .budget m)
    (hOwn : ∀ q ∈ later, q.budget = .null ∨ q.budget ≠ o.budget)
    (hNames : NamesGiven run p known later (ends (o.act run p.factory) r₁).2) :
    let r₂ := (ends (o.act run p.factory) r₁).2
    let φ := Shift.behind (r₁.ledger p.ledger).ledger (r₂.ledger p.ledger).ledger
    let long := serve run p later r₂
    let short := serve run p (later.map (renumber φ.back)) r₁
    long.1 = renumber φ.number short.1 ∧ long.2.Shifted φ p o.budget short.2 := by
  intro r₂ φ long short
  obtain ⟨handed, hReached⟩ := hOrder.reached
  -- the failed operation leaves an arrival that was not given
  obtain ⟨a, hGiven, hVisited⟩ := Operation.exists_arrival hOrder.quiet hReached hBudget hMakes run
  have hNone : a.given = [] := by
    rw [← hGiven, hFails]
    rfl
  have hShift : a.shift (r₁.ledger p.ledger).ledger.allocator.next.toInt = φ := by
    show _ = Shift.behind _ (r₂.ledger p.ledger).ledger
    rw [hVisited.ledger]
    exact a.shift_eq_behind _
  have hBeside := hVisited.beside hOrder.quiet hReached
  rw [hShift] at hBeside
  -- whoever is known is older than that
  have hOlder : ∀ z ∈ known, φ.number z.number = z.number ∧ φ.other z.number = false := by
    intro z hMem
    rw [← hShift]
    exact ⟨Arrival.number_of_lt (hOrder.below z hMem).2,
      Arrival.other_of_lt (hOrder.below z hMem).2⟩
  have hTold : r₂.eventsAt p = renumber φ.number (r₁.eventsAt p) := by
    rw [hVisited.eventsAt_of_not_given hLog hNone]
    exact (renumber_values_eq_self fun v hv z hz => (hOlder z (hOrder.events v hv z hz)).1).symm
  have hOrder₂ : r₂.InOrder p (known ++ Reply.given (.error e)) := by
    have hAnswer := hOrder.answer (q := .operate o) hLog hCatalog hBudget (fun z hMem => ?_) run
    · rwa [Request.answer_operate_of_error hFails] at hAnswer
    -- an operation that makes a world does not name one
    · cases o with
      | registerAll => exact absurd rfl (hMakes ())
      | _ => cases hMem
  rw [show known ++ Reply.given (.error e) = known from List.append_nil _] at hOrder₂
  obtain ⟨hAnswers, hEnd⟩ := serve_beside hCatalog hLog hTold hBudgets hOwn hNames
    (fun z hMem => (hOlder z hMem).2) hOrder₂ hBeside
  obtain ⟨hAlive, hTemplates, hWorlds⟩ := Arrival.lodgers_of_not_given hNone
  exact ⟨hAnswers, hEnd.shifted hTold hAlive hTemplates hWorlds⟩

/-- **Failed spawns can be erased from history.** A run of requests begins on new premises, and
names only what was given out in it. Some operation is to make a world, but fails, and its budget is
not used later on. Without it, all the others succeed or fail as they did, with the same answers and
errors, and the premises are the same in the end, up to the numbers of handles. -/
theorem failed_spawn_erased (hOpening : r.Opening p) (hLog : p.log? = some k)
    (hCatalog : p.catalog = .object .catalog i)
    (hBudgets : ∀ q ∈ before ++ .operate o :: later,
      q.budget = .null ∨ ∃ m, q.budget = .object .budget m)
    (hNames : NamesGiven run p [] (before ++ .operate o :: later) r)
    (hMakes : ∀ a : o.Result, o.made a ≠ [])
    (hFails : (ends (o.act run p.factory) (serve run p before r).2).1 = .error e)
    (hOwn : ∀ q ∈ later, q.budget = .null ∨ q.budget ≠ o.budget) :
    let r₁ := (serve run p before r).2
    let r₂ := (ends (o.act run p.factory) r₁).2
    let φ := Shift.behind (r₁.ledger p.ledger).ledger (r₂.ledger p.ledger).ledger
    let long := serve run p (before ++ .operate o :: later) r
    let short := serve run p (before ++ later.map (renumber φ.back)) r
    (∃ first rest, first.length = before.length ∧ short.1 = first ++ rest ∧
        long.1 = first ++ .error e :: renumber φ.number rest) ∧
      long.2.Shifted φ p o.budget short.2 := by
  intro r₁ r₂ φ long short
  rw [namesGiven_append] at hNames
  have hOrder : r₁.InOrder p _ := hOpening.inOrder.serve hLog hCatalog
    (fun q hMem => hBudgets q (List.mem_append_left _ hMem)) hNames.1
  have hFailed : ends (Request.answer run p (.operate o)) r₁ = (.error e, r₂) :=
    Request.answer_operate_of_error hFails
  -- an operation that has failed gives no handle, so nothing new can be named after it
  have hNames₂ := hNames.2.2
  rw [hFailed, show Reply.given (.error e) = [] from rfl, List.append_nil] at hNames₂
  obtain ⟨hAnswers, hShifted⟩ := serve_after_failure hOrder hLog hCatalog hMakes
    (hBudgets (.operate o) (List.mem_append_right _ (.head _))) hFails
    (fun q hMem => hBudgets q (List.mem_append_right _ (.tail _ hMem))) hOwn hNames₂
  have hLong : long = ((serve run p before r).1 ++ .error e :: (serve run p later r₂).1,
      (serve run p later r₂).2) := by
    show serve run p _ _ = _
    rw [serve_append, serve, hFailed]
  have hShort : short = _ := serve_append before (later.map (renumber φ.back)) r
  rw [hLong, hShort]
  refine ⟨⟨_, _, length_serve before r, rfl, ?_⟩, hShifted⟩
  rw [hAnswers]

/-- The arena before anything has been deployed. -/
def Arena.opening : Realm Empty :=
  let r : Realm Empty := { Realm.empty with next := 5 }
  (((r.putCatalog 0 catalog).putLedger 1 ⟨.object .catalog 0, .empty, []⟩).putSink 2
    ⟨[], []⟩).putFactory 4 ⟨.object .ledger 1, .object .eventLog 2, .null, .blank⟩

/-- Between two worlds, one is requested that is to have the same component twice. Its handle is
never seen, so the second world can do without the gap, whatever is done with it. -/
theorem failed_spawn_erased_arena :
    let p : Premises := ⟨4, 1, .object .catalog 0, some 2⟩
    let before : List Request := [.deploy (.template Arena.engine) [],
      .administer (.setUp (.template Arena.world) (.handle (.ofInt 0x1000))),
      .operate (.spawn (.str "pit") [Arena.health, Arena.speed] [Arena.physics] .null)]
    let o : Operation := .spawn (.str "cave") [Arena.health, Arena.health] [] .null
    let later : List Request := [.operate (.deploy (.str "den")),
      .operate (.registerAll (.handle (.ofInt 0x1003)) (.list [Arena.speed]) (.list []) .null),
      .destroy (.handle (.ofInt 0x1001)), .lookAt (.handle (.ofInt 0x1003)), .readLog]
    let r₁ := (serve Empty.elim p before Arena.opening).2
    let r₂ := (ends (o.act Empty.elim p.factory) r₁).2
    let φ := Shift.behind (r₁.ledger p.ledger).ledger (r₂.ledger p.ledger).ledger
    let long := serve Empty.elim p (before ++ .operate o :: later) Arena.opening
    let short := serve Empty.elim p (before ++ later.map (renumber φ.back)) Arena.opening
    φ.back 0x1003 = 0x1002 ∧
      long.1.map Except.isOk = [true, true, true, false, true, true, true, true, true] ∧ ∃ e,
      (∃ first rest, first.length = before.length ∧ short.1 = first ++ rest ∧
          long.1 = first ++ .error e :: renumber φ.number rest) ∧
        long.2.Shifted φ p o.budget short.2 := by
  intro p before o later r₁ r₂ φ long short
  have hOpening : Arena.opening.Opening p := by
    refine ⟨⟨rfl, rfl, ⟨rfl, rfl⟩, fun k hk => ?_⟩, Arena.reached_catalog, rfl, rfl, rfl⟩
    cases hk
    rfl
  have hBudgets : ∀ q ∈ before ++ .operate o :: later,
      q.budget = .null ∨ ∃ m, q.budget = .object .budget m := by
    simp [before, later, o, Request.budget, Operation.budget]
  have hOwn : ∀ q ∈ later, q.budget = .null ∨ q.budget ≠ o.budget := by
    simp [later, Request.budget, Operation.budget]
  have hMakes : ∀ a : o.Result, o.made a ≠ [] := fun _ => List.cons_ne_nil _ _
  -- the second of its parts is the first one again
  obtain ⟨e, hFails⟩ : ∃ e, (ends (o.act Empty.elim p.factory) r₁).1 = .error e := by
    have hRefused : (ends (o.act Empty.elim p.factory) r₁).1.isOk = false := by decide +kernel
    cases hOut : (ends (o.act Empty.elim p.factory) r₁).1 with
    | error e => exact ⟨e, rfl⟩
    | ok h =>
      rw [hOut] at hRefused
      cases hRefused
  exact ⟨by decide +kernel, by decide +kernel, e,
    failed_spawn_erased hOpening rfl rfl hBudgets (by decide +kernel) hMakes hFails hOwn⟩

end Erasure

end WorldForge

import WorldForge.Proofs.Factory.OwnSteps
import WorldForge.Proofs.Realm.Deeds
import WorldForge.Proofs.Scenario.Changes
import WorldForge.Proofs.Settings.Fields

/-!
# From settings to factories

A factory can be made of settings, which any library may have read that keeps to its documentation.
If a field offends, nothing is made, and the error tells of the fields that do. Otherwise the
factory has what the settings say: it is set up if they have both identifiers, and the number of
steps is its own. To make it leaves everything else alone, the ledger and the sink as well, whatever
they are.

Its recipe may change afterwards. Its ledger, its sink and its number of steps never do, whatever is
done in a session. So they say in all later states what the factory can pay for itself.

Main results:

* `Realm.Lasts` — what of a factory lasts, by whichever steps;
* `perform_configuring` — what comes of a step that makes a factory of settings;
* `factory_of_settings` — when there is such a factory, what it has, and what it can pay for from
  then on.
-/

namespace WorldForge

/-! ## What lasts -/

/-- What a factory works with, its recipe apart: ledger, sink and number of steps. -/
def Factory.means (f : Factory) : Value × Value × Value := (f.ledger, f.sink, f.stepBudget)

namespace Realm

variable {κ : Type}

/-- **Factories keep what they work with.** -/
structure Lasts (r r' : Realm κ) : Prop where
  next_le : r.next ≤ r'.next
  means : ∀ i < r.next, (r'.factory i).means = (r.factory i).means

variable {r r' : Realm κ}

/-- Factories last where none of them is written. -/
theorem lasts_of_factories (hNext : r.next ≤ r'.next) (hFactories : r'.factories = r.factories) :
    Lasts r r' where
  next_le := hNext
  means i _ := by rw [factory, factory, hFactories]

/-- A new factory is none of those that are there already. -/
theorem lasts_newFactory (r : Realm κ) (f : Factory) (entries : List Entry) :
    Lasts r (putFactory r.next f { r.appendTrace entries with next := r.next + 1 }) where
  next_le := Nat.le_succ _
  means i hi := by
    rw [factory_putFactory, if_neg (Nat.ne_of_lt hi)]
    rfl

instance : Attentive (Lasts (κ := κ)) where
  refl r := lasts_of_factories (Nat.le_refl _) rfl
  trans h h' := ⟨h.next_le.trans h'.next_le, fun i hi =>
    (h'.means i (Nat.lt_of_lt_of_le hi h.next_le)).trans (h.means i hi)⟩
  calm hChange hCalm := ⟨hChange.next_le, fun i _ => by rw [hCalm.factories i]⟩
  newBudget r b := lasts_of_factories (Nat.le_succ _) rfl
  newFactory r f _ := by
    have hNew := lasts_newFactory r f []
    rwa [show r.appendTrace [] = r by rw [appendTrace, List.append_nil]] at hNew
  newFactorySetUp r f recipe _ := lasts_newFactory r f _
  -- a new recipe is no part of the means
  administers {r r' i a} h := by
    rcases a.act_outcome i r with ⟨e, -, hError⟩ | ⟨recipe, -, hDone⟩
    · cases h.symm.trans hError
    · cases h.symm.trans hDone
      refine ⟨Nat.le_refl _, fun m _ => ?_⟩
      show ((r.putFactory i { r.factory i with configuration := .holding recipe }).factory m).means
        = _
      rw [factory_putFactory]
      split
      · rename_i hm
        rw [hm]
        rfl
      · rfl
  charges _ := lasts_of_factories (Nat.le_refl _) rfl
  works {r i j o recipe p res b} _ _ _ _ := by
    obtain ⟨budgets, hKept⟩ := (r.closed j b.site).kept_eq b.purse o.budget
    rw [hKept]
    exact lasts_of_factories (Nat.le_refl _) rfl

instance {B : Realm κ → Realm κ → Prop} : Transacts Lasts B :=
  .of_writes (fun _ _ _ => lasts_of_factories (Nat.le_refl _) rfl)
    fun _ _ => lasts_of_factories (Nat.le_succ _) rfl

end Realm

namespace Scenario

open Settings (Cause Field Library Problem Reads Report Sources)

variable {r r₁ r₂ : Realm Code} {loaded : Except Report Settings} {t : Settings}
  {ledger sink : Value} {operands : Operands} {inputs : Inputs} {rest : List Value}

/-! ## Making a factory of settings -/

/-- A step that makes a factory of settings, as far as they have loaded. -/
def configuring (loaded : Except Report Settings) (operands : Operands) (result : Option String)
    (throws : Bool) : Step :=
  .mk (.create (.configuredFactory loaded)) operands result throws

/-- **A factory has been made of settings**, and nothing else has been done: it has the ledger, the
sink and the number of steps, and is set up exactly if there are two identifiers, with these. -/
structure Configured (r : Realm Code) (ledger sink : Value) (t : Settings) (r₁ : Realm Code) :
    Prop where
  factory : r₁.factory r.next = .ofSettings ledger sink t
  holds : ∀ recipe, (r₁.factory r.next).configuration = .holding recipe ↔
    ∃ a b, t.worldTemplate = some a ∧ t.executor = some b ∧ recipe = ⟨.ofInt a, .ofInt b⟩
  isSetUp : (r₁.factory r.next).configuration.isSetUp = true ↔
    t.worldTemplate ≠ none ∧ t.executor ≠ none
  rest : ∃ names entries, r₁ = { r with
    next := r.next + 1
    factories := r.factories.insert r.next (.ofSettings ledger sink t)
    names
    trace := r.trace ++ entries }

/-- **A factory works by settings** on the ledger at `j`, whatever recipe it has by now. What is
paid from its own steps raises no error of a bad value, unless the sink does or a fault is planned
for it. And without faults a spawn registers as many parts as there are steps. -/
structure WorksBy (t : Settings) (i j : Nat) (r : Realm Code) : Prop where
  values : (∀ f ∈ (r.ledger j).faults, f.error.within .badValue = false) →
    ∀ (o : Operation) run e r', o.budget = .null → o.act run i r = .error e r' →
      e.within .badValue = true → o.Unheard run i j r e
  spawns : (r.ledger j).faults = [] → ∀ recipe, (r.factory i).configuration = .holding recipe →
    ∀ run name components systems,
      Factory.SpawnsWithin t run i j r recipe name components systems

/-- Settings with both identifiers make a recipe of these. -/
theorem recipe?_eq_some_iff {recipe : Recipe} : t.recipe? = some recipe ↔
    ∃ a b, t.worldTemplate = some a ∧ t.executor = some b ∧ recipe = ⟨.ofInt a, .ofInt b⟩ := by
  obtain ⟨_ | a, _ | b, steps⟩ := t <;>
    simp [Settings.recipe?, Settings.templateId?, Settings.executorHandle?, eq_comm]

/-- Settings give a recipe if they have both the template and the executor, and none if one of them
is missing. -/
theorem isSome_recipe?_iff :
    t.recipe?.isSome = true ↔ t.worldTemplate ≠ none ∧ t.executor ≠ none := by
  obtain ⟨_ | a, _ | b, steps⟩ := t <;>
    simp [Settings.recipe?, Settings.templateId?, Settings.executorHandle?]

/-- What is recorded of settings. -/
def recorded (t : Settings) : List Entry :=
  t.recipe?.toList.map fun recipe => .log (.configured recipe)

/-- **Making a factory of settings that load**: it is recorded, and put in its place. -/
theorem makeObject_of_load (hLoad : loaded = .ok t) (hSink : optional? rest = some sink) :
    makeObject (.configuredFactory loaded) (ledger :: rest) r =
      .ok (.value (.object .factory r.next)) (Realm.putFactory r.next (.ofSettings ledger sink t)
        { r.appendTrace (recorded t) with next := r.next + 1 }) := by
  have hLoaded : (orRaise Error.settings (.ok t) : Act Code Settings) r = .ok t r := rfl
  simp only [makeObject, hSink, hLoad]
  rw [bind_of_ok hLoaded, recorded]
  -- without a recipe there is nothing to record
  cases t.recipe? with
  | none =>
    have hNone : r.appendTrace ([].map fun recipe => .log (.configured recipe)) = r := by
      rw [List.map_nil, Realm.appendTrace, List.append_nil]
    rw [Option.toList_none, hNone]
    rfl
  | some recipe => rfl

/-- Settings that do not load make nothing. -/
theorem makeObject_of_load_error {report : Report} (hLoad : loaded = .error report)
    (hSink : optional? rest = some sink) :
    makeObject (.configuredFactory loaded) (ledger :: rest) r = .error (.settings report) r := by
  simp only [makeObject, hSink, hLoad]
  rfl

/-- A factory has been configured if it is made from the settings under a new number, and nothing
but names and records came with it. -/
theorem configured_of_rest {names : Names} {trace entries : List Entry}
    (h : r₁ = { r with
      next := r.next + 1
      factories := r.factories.insert r.next (.ofSettings ledger sink t)
      names
      trace }) (hTrace : trace = r.trace ++ entries) : Configured r ledger sink t r₁ := by
  have hFactory : r₁.factory r.next = .ofSettings ledger sink t := by
    rw [h, Realm.factory, Table.find?_insert_self]
    rfl
  refine ⟨hFactory, fun recipe => ?_, ?_, names, entries, hTrace ▸ h⟩
  · rw [hFactory, ← recipe?_eq_some_iff]
    exact ⟨fun hHolds => congrArg Configuration.current hHolds, congrArg Configuration.mk⟩
  · rw [hFactory]
    exact isSome_recipe?_iff

section Steps

variable (hInputs : operands.resolve r.names = .ok inputs) (hArgs : inputs.args = ledger :: rest)
  (result : Option String) (throws : Bool) (run : Code → Act Code Unit)
include hInputs hArgs

/-- A step makes its factory, and then it is over. -/
theorem run_configuring :
    (configuring loaded operands result throws).run run r =
      Step.finish (.create (.configuredFactory loaded)) result throws
        (ends (makeObject (.configuredFactory loaded) (ledger :: rest)) r).1
        (ends (makeObject (.configuredFactory loaded) (ledger :: rest)) r).2 := by
  rw [configuring, Step.run, bind_of_ok (get_eq r)]
  simp only [hInputs, Task.perform, hArgs]
  rw [bind_of_ok (attempt_eq _ _)]

/-- **What comes of a step that makes a factory of settings**, if they load. -/
theorem configured_of_load (hSink : optional? rest = some sink) (hLoad : loaded = .ok t) :
    Configured r ledger sink t
      (ends ((configuring loaded operands result throws).run run) r).2 := by
  rw [ends, run_configuring hInputs hArgs, ends_of_ok (makeObject_of_load hLoad hSink)]
  cases result with
  | none => exact configured_of_rest rfl (List.append_assoc ..)
  | some n => exact configured_of_rest rfl (List.append_assoc ..)

/-- **If they do not load**, nothing has happened but that the step tells why. -/
theorem told_of_load_error {report : Report} (hSink : optional? rest = some sink)
    (hLoad : loaded = .error report) :
    (ends ((configuring loaded operands result throws).run run) r).2 =
      r.appendTrace [.step "new WorldFactory.from_settings" (.failed (.settings report))] := by
  rw [ends, run_configuring hInputs hArgs, ends_of_error (makeObject_of_load_error hLoad hSink)]
  cases throws <;> rfl

end Steps

/-! ## Working by settings -/

/-- **Whoever has the means that settings give works by them.** -/
theorem worksBy_of_means {i j : Nat} {handed : List InstanceHandle}
    (hNonneg : ∀ n, t.stepBudget = some n → 0 ≤ n)
    (hMeans : (r.factory i).means = (Factory.ofSettings ledger sink t).means)
    (hLedger : ledger = .object .ledger j)
    (hReached : Ledger.Reached (r.catalogFor j) (r.ledger j).ledger handed) :
    WorksBy t i j r := by
  obtain ⟨rfl, -, hSteps⟩ : (r.factory i).ledger = ledger ∧ (r.factory i).sink = sink ∧
      (r.factory i).stepBudget = (t.stepBudget.map Value.int).getD .null := by
    simpa [Factory.means, Factory.ofSettings] using hMeans
  -- the number of steps is that of the settings, and it is not negative
  have hSpends : Factory.Spends t (r.factory i) := ⟨hSteps, hNonneg⟩
  have hs := hReached.sound
  constructor
  · intro hFaults o run e r' hBudget hFails hBad
    exact Operation.unheard_of_badValue hLedger hs hFaults hSpends.null_or_nonneg (.inl hBudget)
      hFails hBad
  · intro hFaults recipe hRecipe run name components systems
    exact hSpends.spawnsWithin hFaults hs hLedger hRecipe run name components systems

/-- **Nothing of a field depends on the others**: of sources that say the same of it, either both
are reported not to read it, for the same cause, or it has the same value wherever they load. -/
structure Apart {γ : Type} (lib : Library γ) (f : Field) (s s' : Sources γ) : Prop where
  told : ∀ cause : Cause,
    (∃ report, Settings.load lib s = .error report ∧ ⟨f.label, cause⟩ ∈ report.problems) ↔
      ∃ report, Settings.load lib s' = .error report ∧ ⟨f.label, cause⟩ ∈ report.problems
  value : ∀ t t', Settings.load lib s = .ok t → Settings.load lib s' = .ok t' → t.get f = t'.get f

/-- **From settings to factories.** The settings are read by a library that keeps to its
documentation. A field is read from what the sources say of it, and what they say of others does not
matter to it. If a field offends, nothing is made, and all the fields that do are told of. If none
does, the settings are what the fields read as, so a field is set exactly if what decides it is
there and is not null; there is a new factory, and it works by the settings in all later states of
the session. -/
theorem factory_of_settings {γ : Type} {lib : Library γ} (hLib : lib.Lawful)
    (hInputs : operands.resolve r.names = .ok inputs) (hArgs : inputs.args = ledger :: rest)
    (hSink : optional? rest = some sink) (s : Sources γ) (result : Option String) (throws : Bool)
    (depth : Nat) :
    let step := configuring (Settings.load lib s) operands result throws
    let r₁ := (ends (step.run (runCode depth)) r).2
    (∀ (f : Field) (s' : Sources γ), s.Alike lib f s' → Apart lib f s s') ∧
    ((∃ f, s.offends lib f = true) → ∃ report : Report,
      report.problems.map Problem.field =
        (Field.all.filter fun f => s.offends lib f).map Field.label ∧
      r₁ = r.appendTrace [.step "new WorldFactory.from_settings" (.failed (.settings report))]) ∧
    ((∀ f, s.offends lib f = false) → ∃ t, Reads lib s t ∧
      (∀ f, t.get f ≠ none ↔ ∃ g, s.first? lib f = some g ∧ g ≠ lib.null) ∧
      Configured r ledger sink t r₁ ∧
      ∀ r₂, After r₁ r₂ → ∀ j handed, ledger = .object .ledger j →
        Ledger.Reached (r₂.catalogFor j) (r₂.ledger j).ledger handed →
          WorksBy t r.next j r₂) := by
  intro step r₁
  refine ⟨fun f s' hAlike => ⟨hAlike.problem_mem_iff hLib, fun t t' => hAlike.get_eq hLib⟩, ?_,
    fun hNone => ?_⟩
  · rintro ⟨f, hOffends⟩
    cases hLoad : Settings.load lib s with
    | ok t =>
      have hFine := (Settings.exists_load_iff hLib).1 ⟨t, hLoad⟩ f
      cases hFine.symm.trans hOffends
    | error report =>
      exact ⟨report, Settings.fields_of_load_error hLib hLoad,
        told_of_load_error hInputs hArgs result throws (runCode depth) hSink hLoad⟩
  · obtain ⟨t, hLoad⟩ := (Settings.exists_load_iff hLib).2 hNone
    have hReads := Settings.reads_of_load hLib hLoad
    have hConfigured : Configured r ledger sink t r₁ :=
      configured_of_load hInputs hArgs result throws (runCode depth) hSink hLoad
    refine ⟨t, hReads, fun f => hReads.get_ne_none_iff hLib, hConfigured,
      fun r₂ hAfter j handed hLedger hReached => ?_⟩
    -- the factory is there by now, and it keeps what it works with
    have hThere : r.next < r₁.next := by
      obtain ⟨names, entries, hRest⟩ := hConfigured.rest
      rw [hRest]
      exact Nat.lt_succ_self _
    have hLasts : Realm.Lasts r₁ r₂ := hAfter.onward
    have hMeans : (r₂.factory r.next).means = (Factory.ofSettings ledger sink t).means := by
      rw [hLasts.means _ hThere, hConfigured.factory]
    have hNonneg : ∀ n, t.stepBudget = some n → 0 ≤ n := fun n hn =>
      Settings.least_le_of_load (f := .stepBudget) hLib hLoad hn rfl
    exact worksBy_of_means hNonneg hMeans hLedger hReached

/-! ### One step to pay with -/

/-- The arena before there is any factory. -/
def vacant : Realm Code :=
  ((({ Realm.empty with next := 2 } : Realm Code).putCatalog 0 Arena.catalog).putLedger 1
    ⟨.object .catalog 0, Arena.ledger, []⟩)

/-- A plain library: it takes integers and null as they are, and nothing else, and reads no files.
-/
def plainCoerce : Datum → Except Cause (Option Int)
  | .null => .ok none
  | .int n => .ok (some n)
  | _ => .error ⟨"int_type", "Input should be a valid integer"⟩

/-- What the plain library says of a number that is too small. -/
def plainTooSmall (least : Int) : Cause :=
  ⟨"greater_than_equal", "Input should be greater than or equal to " ++ toString least⟩

/-- How the plain library checks a field. -/
def plainCheck (f : Settings.FieldSpec) : Option Datum → Except Problem (Option Int)
  | none => .ok none
  | some g =>
    match plainCoerce g with
    | .error cause => .error ⟨f.name, cause⟩
    | .ok none => .ok none
    | .ok (some n) =>
      match f.least with
      | none => .ok (some n)
      | some least => if least ≤ n then .ok (some n) else .error ⟨f.name, plainTooSmall least⟩

/-- How the plain library checks fields one after the other. -/
def plainCheckAll : List Settings.FieldSpec → (String → Option Datum) →
    Except (List Problem) (String → Option Int)
  | [], _ => .ok fun _ => none
  | f :: fs, given =>
    match plainCheck f (given f.name), plainCheckAll fs given with
    | .ok v, .ok vs => .ok fun name => if name = f.name then v else vs name
    | .ok _, .error problems => .error problems
    | .error p, .ok _ => .error [p]
    | .error p, .error problems => .error (p :: problems)

/-- Whether the plain library takes a name for another: case does not count. -/
def plainSpells : Text → String → Bool
  | .whole s, name => s.toLower = name.toLower
  | .torn .., _ => false

/-- What the plain library finds in an environment: the last of all spellings of a name. -/
def plainEnvironment (environment : List (Text × Text)) (name : String) : Option Text :=
  (environment.filter fun b => plainSpells b.1 name).getLast?.map Prod.snd

/-- What the plain library finds for a name, directly or else in the environment. -/
def plainDeciding (mark : String) (s : Sources Datum) (name : String) : Option Datum :=
  (s.direct? name).or ((plainEnvironment s.environment (mark ++ name)).map .str)

def plainLibrary : Library Datum where
  null := .null
  ofText := .str
  spells := plainSpells
  environment? := plainEnvironment
  file? _ _ _ _ := none
  deciding? := plainDeciding
  coerce := plainCoerce
  tooSmall := plainTooSmall
  check := plainCheck
  checkAll := plainCheckAll
  report _ problems := "\n".intercalate (problems.map fun p => p.field ++ ": " ++ p.cause.message)
  read d s :=
    (plainCheckAll d.fields (plainDeciding d.mark s)).mapError fun problems =>
      ⟨problems, "\n".intercalate (problems.map fun p => p.field ++ ": " ++ p.cause.message)⟩

/-- **The plain library is lawful**, so the laws that are asked for below can be met. -/
theorem lawful_plainLibrary : plainLibrary.Lawful where
  read_eq _ _ := rfl
  deciding_eq mark s name := by
    have hNoFile :
        (s.file.bind fun text => plainLibrary.file? s.environment text mark name) = none := by
      cases s.file <;> rfl
    rw [hNoFile, Option.map_none, Option.or_none]
    rfl
  spells_of_toLower_eq _ _ hSame := decide_eq_true hSame
  environment?_congr name e e' hSame := by
    show plainEnvironment e name = plainEnvironment e' name
    exact congrArg (fun spelt => spelt.getLast?.map Prod.snd) hSame
  coerce_eq_none_iff g := by
    show plainCoerce g = .ok none ↔ g = .null
    cases g <;> simp [plainCoerce]
  check_none _ := rfl
  check_error f g cause h := by
    show plainCheck f (some g) = _
    rw [plainCheck, show plainCoerce g = .error cause from h]
  check_null f g h := by
    show plainCheck f (some g) = _
    rw [plainCheck, show plainCoerce g = .ok none from h]
  check_int f g n h := by
    show plainCheck f (some g) = _
    rw [plainCheck, show plainCoerce g = .ok (some n) from h]
    rfl
  check_nil _ := rfl
  check_cons _ _ _ := rfl

/-- Direct values for all three fields. -/
def direct (steps : Int) : Sources Datum :=
  ⟨[("world_template_id", .int 1), ("executor_handle", .int 0x1000), ("step_budget", .int steps)],
    [], none⟩

/-- One step pays for one part, and for no second one. Of a number of steps below zero nothing is
made. -/
theorem factory_of_settings_vacant :
    let operands : Operands := ⟨[.value (.object .ledger 1)], none, none⟩
    let step (steps : Int) : Step :=
      configuring (Settings.load plainLibrary (direct steps)) operands (some "factory") false
    let made (steps : Int) : Realm Code := (ends ((step steps).run (runCode 0)) vacant).2
    (∃ report : Report, report.problems.map Problem.field = ["step_budget"] ∧ made (-1) =
      vacant.appendTrace [.step "new WorldFactory.from_settings" (.failed (.settings report))]) ∧
    ((made 1).factory 2).configuration = .holding ⟨.ofInt 1, .ofInt 0x1000⟩ ∧
    (∃ x r', Factory.spawn (runCode 0) 2 (.str "pit") [Arena.health] [] .null (made 1) = .ok x r') ∧
    ∃ x r', Factory.spawn (runCode 0) 2 (.str "pit") [Arena.health] [Arena.physics] .null (made 1) =
      .error (.registrationFailed (.str "pit") x (.budget (.exhausted (.number 1) 1))) r' := by
  intro operands step made
  have hInputs : operands.resolve vacant.names = .ok ⟨[.object .ledger 1], .null, none⟩ := rfl
  have hSink : optional? ([] : List Value) = some .null := rfl
  constructor
  · obtain ⟨-, hFails, -⟩ := factory_of_settings lawful_plainLibrary hInputs rfl hSink (direct (-1))
      (some "factory") false 0
    obtain ⟨report, hFields, hEnd⟩ := hFails ⟨.stepBudget, by decide +kernel⟩
    have hOne :
        Field.all.filter (fun f => (direct (-1)).offends plainLibrary f) = [.stepBudget] := by
      decide +kernel
    rw [hOne] at hFields
    exact ⟨report, hFields, hEnd⟩
  · obtain ⟨-, -, hMade⟩ := factory_of_settings lawful_plainLibrary hInputs rfl hSink (direct 1)
      (some "factory") false 0
    have hFit : ∀ f, (direct 1).offends plainLibrary f = false := by
      intro f
      cases f <;> decide +kernel
    obtain ⟨t, hReads, -, hConfigured, hWorks⟩ := hMade hFit
    -- each field is given directly, and reads as the number that is given
    have hField : ∀ f n, (direct 1).first? plainLibrary f = some (.int n) → t.get f = some n := by
      intro f n hFirst
      have hGiven := hReads f
      rw [hFirst] at hGiven
      exact (Except.ok.inj hGiven).symm
    have hTemplate : t.worldTemplate = some 1 := hField .worldTemplate 1 rfl
    have hExecutor : t.executor = some 0x1000 := hField .executor 0x1000 rfl
    have hSteps : t.stepBudget = some 1 := hField .stepBudget 1 rfl
    have hRecipe : ((made 1).factory 2).configuration = .holding ⟨.ofInt 1, .ofInt 0x1000⟩ :=
      (hConfigured.holds _).2 ⟨1, 0x1000, hTemplate, hExecutor, rfl⟩
    -- the ledger and its catalog are those of the arena still
    obtain ⟨names, entries, hRest⟩ := hConfigured.rest
    have hCatalog : (made 1).catalogFor 1 = Arena.catalog := by
      show Realm.catalogFor (ends _ vacant).2 1 = _
      rw [hRest]
      rfl
    have hLedger : (made 1).ledger 1 = ⟨.object .catalog 0, Arena.ledger, []⟩ := by
      show Realm.ledger (ends _ vacant).2 1 = _
      rw [hRest]
      rfl
    have hReached : Ledger.Reached ((made 1).catalogFor 1) ((made 1).ledger 1).ledger
        [Arena.executor] := by
      rw [hCatalog, hLedger]
      exact Arena.reached_ledger
    have hFaults : ((made 1).ledger 1).faults = [] := by rw [hLedger]
    have hSpawns := (hWorks _ .here 1 _ rfl hReached).spawns hFaults _ hRecipe (runCode 0)
      (.str "pit") [Arena.health]
    have hCan : ∀ systems, (∀ q ∈ systems, q = Arena.physics) → (systems.map Value.key).Nodup →
        Work.CanSpawn ((made 1).catalogFor 1) ((made 1).ledger 1).ledger
          ⟨.ofInt 1, .ofInt 0x1000⟩ (.str "pit") [Arena.health] systems .unmetered := by
      intro systems hPhysics hDistinct
      rw [hCatalog, hLedger]
      refine ⟨⟨_, rfl, rfl⟩, ⟨"pit", rfl, by decide⟩, rfl, rfl, ?_, by decide, ?_, hDistinct, ?_⟩
      · exact List.forall_mem_singleton.2 ⟨_, rfl, rfl⟩
      · intro q hq
        rw [hPhysics q hq]
        exact ⟨_, rfl, rfl⟩
      · intro left hLeft
        cases hLeft
    have hOne : t.Affords 1 := by
      intro n hn
      cases hSteps.symm.trans hn
      exact Int.le_refl 1
    have hNobody : ((made 1).factory 2).sink = .null := by
      have hFactory : (made 1).factory 2 = .ofSettings (.object .ledger 1) .null t :=
        hConfigured.factory
      rw [hFactory]
      rfl
    exact ⟨hRecipe, (hSpawns []).exists_ok (.inl hNobody) (hCan [] (by simp) (by simp)) hOne,
      (hSpawns [Arena.physics]).exhausted (hCan _ (by simp) (by simp)) 1 hSteps (by decide)⟩

end Scenario

end WorldForge

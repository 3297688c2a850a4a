import Mathlib.Data.List.Induction
import WorldForge.Proofs.Journal
import WorldForge.Scenario.Call

/-!
# What a configuration keeps

Whoever has a configuration can set it up, set either field of its recipe, and read both. Of a run
of such requests all that counts afterwards is which have been accepted, and that can be told from
the requests alone (`Request.inForce`): the first one that sets the configuration up with a template
and an instance puts a recipe in force, and after it each field is what it was last set to, if
what was handed over was of the field's family.

A request that is refused changes nothing, so no half of a recipe is ever in force. What has been
read is a value, and nothing that is asked later changes it.

Main results:

* `Request.inForce_concat` — what one more request makes of the recipe in force;
* `configuration_consult` — which recipe a run of requests leaves in force;
* `consult_governed` — what is answered after a run of requests, and what is refused with which
  error.
-/

namespace WorldForge.Configuration

open Scenario

/-! ## Requests -/

/-- What can be asked of a configuration. -/
inductive Request where
  | setUp (template executor : Value)
  | setExecutor (executor : Value)
  | setTemplate (template : Value)
  | snapshot
  | getExecutor
  | getTemplate
  | isSetUp

namespace Request

def method : Request → Method
  | setUp .. => .setUp
  | setExecutor _ => .setExecutor
  | setTemplate _ => .setTemplate
  | snapshot => .snapshot
  | getExecutor => .getExecutor
  | getTemplate => .getTemplate
  | isSetUp => .isSetUp

def args : Request → List Value
  | setUp template executor => [template, executor]
  | setExecutor v | setTemplate v => [v]
  | snapshot | getExecutor | getTemplate | isSetUp => []

/-- A request for which a recipe must be in force: either field is set, or something is read. -/
def NeedsRecipe : Request → Prop
  | setUp .. | isSetUp => False
  | setExecutor _ | setTemplate _ | snapshot | getExecutor | getTemplate => True

variable {κ : Type}

/-- Asks a configuration. -/
def ask (run : κ → Act κ Unit) (i : Nat) (q : Request) : Act κ Answer :=
  Call.invoke run (.object .configuration i) q.method q.args none

/-! ## The recipe in force -/

/-- The template that a request sets, if it is one. -/
def template? : Request → Option TemplateId
  | setTemplate (.template t) => some t
  | _ => none

/-- The executor that a request sets, if it is an instance. -/
def executor? : Request → Option InstanceHandle
  | setExecutor (.handle h) => some h
  | _ => none

/-- The recipe that a request sets up, if it names a template and an instance. -/
def recipe? : Request → Option Recipe
  | setUp (.template t) (.handle h) => some ⟨t, h⟩
  | _ => none

/-- **The recipe in force after some requests**: the first that was set up, each of its fields as it
was last set after that. -/
def inForce : List Request → Option Recipe
  | [] => none
  | q :: rest =>
    match q.recipe? with
    | none => inForce rest
    | some first => some
      { template := (rest.filterMap template?).getLastD first.template
        executor := (rest.filterMap executor?).getLastD first.executor }

/-- The recipe in force after one more request. -/
def amend (q : Request) : Option Recipe → Option Recipe
  | none => q.recipe?
  | some recipe => some
    { template := q.template?.getD recipe.template, executor := q.executor?.getD recipe.executor }

/-- What was set last, after one more request, is what this request sets, or else what was set last
before. -/
theorem getLastD_filterMap_concat {α : Type} (f : Request → Option α) (before : List Request)
    (q : Request) (first : α) :
    ((before ++ [q]).filterMap f).getLastD first =
      (f q).getD ((before.filterMap f).getLastD first) := by
  rw [List.filterMap_append]
  cases hLast : f q with
  | none => simp [hLast]
  | some a => simp [hLast]

/-- **One more request** puts a first recipe in force, or sets a field of the one in force. -/
theorem inForce_concat (before : List Request) (q : Request) :
    inForce (before ++ [q]) = q.amend (inForce before) := by
  induction before with
  | nil =>
    simp only [List.nil_append, inForce, amend]
    cases q.recipe? <;> rfl
  | cons first rest ih =>
    rw [List.cons_append, inForce, inForce]
    cases first.recipe? with
    | none => exact ih
    | some recipe => simp only [amend, getLastD_filterMap_concat]

end Request

/-! ## Runs of requests -/

section Runs

variable {κ : Type} {run : κ → Act κ Unit} {i : Nat} {r : Realm κ} {q : Request} {recipe : Recipe}
  {before : List Request}

/-- The realm after some requests. -/
def consult (run : κ → Act κ Unit) (i : Nat) (r : Realm κ) (qs : List Request) : Realm κ :=
  qs.foldl (fun r q => (ends (q.ask run i) r).2) r

/-- A request is refused with an error of a kind and a message, and changes nothing. -/
def Refuses (run : κ → Act κ Unit) (i : Nat) (r : Realm κ) (q : Request) (kind : ErrorKind)
    (message : Text) : Prop :=
  ∃ e, ends (q.ask run i) r = (.error e, r) ∧ e.kind = kind ∧ e.message = message

/-- **A configuration that is not set up** refuses all that needs a recipe, whatever is handed over,
and is set up with a template and an instance. Of two wrong arguments the first is named. -/
structure Unready (run : κ → Act κ Unit) (i : Nat) (r : Realm κ) : Prop where
  isSetUp : ends (Request.isSetUp.ask run i) r = (.ok (.value (.bool false)), r)
  refused : ∀ q : Request, q.NeedsRecipe →
    Refuses run i r q .notInitialized "Factory config is not initialized"
  setUp : ∀ t h, ends ((Request.setUp (.template t) (.handle h)).ask run i) r =
    (.ok (.value .null), r.putConfiguration i (.holding ⟨t, h⟩))
  notTemplate : ∀ v w, (∀ t, v ≠ .template t) →
    Refuses run i r (.setUp v w) .badType ("Expected TemplateId, got " ++ v.typeName)
  notHandle : ∀ t w, (∀ h, w ≠ .handle h) →
    Refuses run i r (.setUp (.template t) w) .badType
      ("Expected InstanceHandle, got " ++ w.typeName)

/-- **A configuration with a recipe in force** gives its fields, cannot be set up again with
whatever arguments, and has either field set to what is of the field's family. -/
structure Ready (run : κ → Act κ Unit) (i : Nat) (r : Realm κ) (recipe : Recipe) : Prop where
  isSetUp : ends (Request.isSetUp.ask run i) r = (.ok (.value (.bool true)), r)
  snapshot : ends (Request.snapshot.ask run i) r = (.ok (.value recipe.value), r)
  executor : ends (Request.getExecutor.ask run i) r = (.ok (.value recipe.executor), r)
  template : ends (Request.getTemplate.ask run i) r = (.ok (.value recipe.template), r)
  setUp : ∀ v w, Refuses run i r (.setUp v w) .alreadyInitialized
    "Factory config is already initialized"
  setExecutor : ∀ h, ends ((Request.setExecutor (.handle h)).ask run i) r =
    (.ok (.value .null), r.putConfiguration i (.holding { recipe with executor := h }))
  notHandle : ∀ v, (∀ h, v ≠ .handle h) →
    Refuses run i r (.setExecutor v) .badType ("Expected InstanceHandle, got " ++ v.typeName)
  setTemplate : ∀ t, ends ((Request.setTemplate (.template t)).ask run i) r =
    (.ok (.value .null), r.putConfiguration i (.holding { recipe with template := t }))
  notTemplate : ∀ v, (∀ t, v ≠ .template t) →
    Refuses run i r (.setTemplate v) .badType ("Expected TemplateId, got " ++ v.typeName)

/-! ### One request -/

/-- What comes of a change: the recipe that is now in force is kept, unless it is refused. -/
def kept (i : Nat) (r : Realm κ) :
    Except ConfigurationError Recipe → Except Error Answer × Realm κ
  | .error e => (.error (.configuration e), r)
  | .ok recipe => (.ok (.value .null), r.putConfiguration i (.holding recipe))

/-- What comes of a question about the recipe in force. -/
def told (r : Realm κ) (about : Recipe → Value) :
    Except ConfigurationError Recipe → Except Error Answer × Realm κ
  | .error e => (.error (.configuration e), r)
  | .ok recipe => (.ok (.value (about recipe)), r)

/-- A question leaves the realm alone. -/
theorem eq_of_told (about : Recipe → Value) (outcome : Except ConfigurationError Recipe) :
    (told r about outcome).2 = r := by
  cases outcome <;> rfl

/-- A configuration that is asked by name does what its own methods do. -/
theorem ask_eq : q.ask run i = Call.onConfiguration i q.method q.args := by
  cases q <;> rfl

/-- A change that is accepted is written to the configuration, and one that is refused leaves it. -/
theorem ends_keep (outcome : Except ConfigurationError Recipe) :
    ends (Call.onConfiguration.keep i outcome) r = kept i r outcome := by
  cases outcome <;> rfl

/-- What is told of the recipe in force is its error if there is none, and changes nothing. -/
theorem ends_tell (about : Recipe → Value) (outcome : Except ConfigurationError Recipe) :
    ends (do Call.give (about (← orRaise .configuration outcome)) : Act κ Answer) r =
      told r about outcome := by
  cases outcome <;> rfl

theorem ends_setUp (v w : Value) : ends ((Request.setUp v w).ask run i) r =
    kept i r ((r.configuration i).setUp v w) := by
  rw [ask_eq]
  exact ends_keep _

theorem ends_setExecutor (v : Value) : ends ((Request.setExecutor v).ask run i) r =
    kept i r ((r.configuration i).setExecutor v) := by
  rw [ask_eq]
  exact ends_keep _

theorem ends_setTemplate (v : Value) : ends ((Request.setTemplate v).ask run i) r =
    kept i r ((r.configuration i).setTemplate v) := by
  rw [ask_eq]
  exact ends_keep _

theorem ends_snapshot : ends (Request.snapshot.ask run i) r =
    told r Recipe.value (r.configuration i).snapshot := by
  rw [ask_eq]
  exact ends_tell ..

theorem ends_getExecutor : ends (Request.getExecutor.ask run i) r =
    told r (fun recipe => recipe.executor) (r.configuration i).snapshot := by
  rw [ask_eq]
  exact ends_tell (fun recipe => .handle recipe.executor) _

theorem ends_getTemplate : ends (Request.getTemplate.ask run i) r =
    told r (fun recipe => recipe.template) (r.configuration i).snapshot := by
  rw [ask_eq]
  exact ends_tell (fun recipe => .template recipe.template) _

theorem ends_isSetUp : ends (Request.isSetUp.ask run i) r =
    (.ok (.value (.bool (r.configuration i).isSetUp)), r) := by
  rw [ask_eq]
  rfl

/-- What is no template is not taken for one, and the error names it. -/
theorem asTemplate_of_ne {v : Value} (h : ∀ t, v ≠ .template t) :
    v.asTemplate = .error (.notTemplate v) := by
  cases v with
  | template t => exact absurd rfl (h t)
  | _ => rfl

/-- What is no instance is not taken for one, and the error names it. -/
theorem asHandle_of_ne {v : Value} (h : ∀ x, v ≠ .handle x) :
    v.asHandle = .error (.notHandle v) := by
  cases v with
  | handle x => exact absurd rfl (h x)
  | _ => rfl

/-- **A blank configuration is not ready**: each request that needs a recipe is refused before its
arguments are looked at. -/
theorem unready_of_blank (h : r.configuration i = .blank) : Unready run i r where
  isSetUp := by
    rw [ends_isSetUp, h]
    rfl
  refused := by
    intro q hNeeds
    refine ⟨.configuration .notSetUp, ?_, rfl, rfl⟩
    cases q with
    | setUp | isSetUp => exact hNeeds.elim
    | setExecutor v =>
      rw [ends_setExecutor, h]
      rfl
    | setTemplate v =>
      rw [ends_setTemplate, h]
      rfl
    | snapshot =>
      rw [ends_snapshot, h]
      rfl
    | getExecutor =>
      rw [ends_getExecutor, h]
      rfl
    | getTemplate =>
      rw [ends_getTemplate, h]
      rfl
  setUp t x := by
    rw [ends_setUp, h]
    rfl
  notTemplate v w hNot := by
    refine ⟨.configuration (.notTemplate v), ?_, rfl, rfl⟩
    rw [ends_setUp, h, setUp, asTemplate_of_ne hNot]
    rfl
  notHandle t w hNot := by
    refine ⟨.configuration (.notHandle w), ?_, rfl, rfl⟩
    rw [ends_setUp, h, setUp, asHandle_of_ne hNot]
    rfl

/-- **A configuration with a recipe is ready**, and each field is set by itself. -/
theorem ready_of_holding (h : r.configuration i = .holding recipe) : Ready run i r recipe where
  isSetUp := by
    rw [ends_isSetUp, h]
    rfl
  snapshot := by
    rw [ends_snapshot, h]
    rfl
  executor := by
    rw [ends_getExecutor, h]
    rfl
  template := by
    rw [ends_getTemplate, h]
    rfl
  setUp v w := by
    refine ⟨.configuration .alreadySetUp, ?_, rfl, rfl⟩
    rw [ends_setUp, h]
    rfl
  setExecutor x := by
    rw [ends_setExecutor, h]
    rfl
  notHandle v hNot := by
    refine ⟨.configuration (.notHandle v), ?_, rfl, rfl⟩
    rw [ends_setExecutor, h, setExecutor, asHandle_of_ne hNot]
    rfl
  setTemplate t := by
    rw [ends_setTemplate, h]
    rfl
  notTemplate v hNot := by
    refine ⟨.configuration (.notTemplate v), ?_, rfl, rfl⟩
    rw [ends_setTemplate, h, setTemplate, asTemplate_of_ne hNot]
    rfl

/-- A request comes to a change that is kept, or else leaves the realm alone. -/
theorem ends_ask_cases (run : κ → Act κ Unit) (i : Nat) (r : Realm κ) (q : Request) :
    (∃ outcome, ends (q.ask run i) r = kept i r outcome) ∨ (ends (q.ask run i) r).2 = r := by
  cases q with
  | setUp v w => exact .inl ⟨_, ends_setUp v w⟩
  | setExecutor v => exact .inl ⟨_, ends_setExecutor v⟩
  | setTemplate v => exact .inl ⟨_, ends_setTemplate v⟩
  | snapshot => exact .inr (by rw [ends_snapshot, eq_of_told])
  | getExecutor => exact .inr (by rw [ends_getExecutor, eq_of_told])
  | getTemplate => exact .inr (by rw [ends_getTemplate, eq_of_told])
  | isSetUp => exact .inr (by rw [ends_isSetUp])

/-- **A request that fails changes nothing.** -/
theorem eq_of_ask_error {e : Error} {r' : Realm κ} (h : ends (q.ask run i) r = (.error e, r')) :
    r' = r := by
  obtain ⟨outcome, hKept⟩ | hSame := ends_ask_cases run i r q
  · rw [h] at hKept
    cases outcome <;> cases hKept
    rfl
  · rw [h] at hSame
    exact hSame

/-- A request gives no name to anything, so what names mean stays the same. -/
theorem names_ask (q : Request) : (ends (q.ask run i) r).2.names = r.names := by
  obtain ⟨outcome, hKept⟩ | hSame := ends_ask_cases run i r q
  · rw [hKept]
    cases outcome <;> rfl
  · rw [hSame]

theorem configuration_put (c : Configuration) : (r.putConfiguration i c).configuration i = c := by
  rw [Realm.configuration, Realm.putConfiguration, Table.find?_insert_self, Option.getD_some]

/-- What a change puts in force. -/
theorem current_kept (outcome : Except ConfigurationError Recipe) :
    ((kept i r outcome).2.configuration i).current =
      outcome.toOption.or (r.configuration i).current := by
  cases outcome with
  | error e => rfl
  | ok recipe =>
    rw [kept, configuration_put]
    rfl

/-- **One request amends the recipe in force**, in the way that the requests alone tell. A request
that is refused amends nothing. -/
theorem current_ask (run : κ → Act κ Unit) (i : Nat) (r : Realm κ) (q : Request) :
    ((ends (q.ask run i) r).2.configuration i).current =
      q.amend (r.configuration i).current := by
  obtain ⟨current, hCurrent⟩ : ∃ c, r.configuration i = ⟨c⟩ := ⟨_, rfl⟩
  cases q with
  | setUp v w =>
    rw [ends_setUp, current_kept, hCurrent]
    cases current with
    | some recipe => rfl
    | none =>
      cases v with
      | template t => cases w <;> rfl
      | _ => rfl
  | setExecutor v =>
    rw [ends_setExecutor, current_kept, hCurrent]
    cases current with
    | none => rfl
    | some recipe => cases v <;> rfl
  | setTemplate v =>
    rw [ends_setTemplate, current_kept, hCurrent]
    cases current with
    | none => rfl
    | some recipe => cases v <;> rfl
  -- nothing is amended by a question
  | snapshot =>
    rw [ends_snapshot, eq_of_told, hCurrent]
    cases current <;> rfl
  | getExecutor =>
    rw [ends_getExecutor, eq_of_told, hCurrent]
    cases current <;> rfl
  | getTemplate =>
    rw [ends_getTemplate, eq_of_told, hCurrent]
    cases current <;> rfl
  | isSetUp =>
    rw [ends_isSetUp, hCurrent]
    cases current <;> rfl

/-! ### Any number of requests -/

/-- One more request is asked in the realm that those before it have left. -/
theorem consult_concat (before : List Request) (q : Request) :
    consult run i r (before ++ [q]) = (ends (q.ask run i) (consult run i r before)).2 :=
  List.foldl_append

/-- Requests give no names, however many of them there are. -/
theorem names_consult (qs : List Request) : (consult run i r qs).names = r.names := by
  induction qs using List.reverseRecOn with
  | nil => rfl
  | append_singleton before q ih => rw [consult_concat, names_ask, ih]

/-- **A run of requests leaves the recipe in force that the requests tell.** -/
theorem configuration_consult (hBlank : r.configuration i = .blank) (before : List Request) :
    (consult run i r before).configuration i = ⟨Request.inForce before⟩ := by
  -- over the requests from the last one on, each of which amends what was in force before it
  induction before using List.reverseRecOn with
  | nil => exact hBlank
  | append_singleton before q ih =>
    have hCurrent := current_ask run i (consult run i r before) q
    rw [ih, ← Request.inForce_concat, ← consult_concat] at hCurrent
    exact congrArg Configuration.mk hCurrent

/-- **A configuration answers by the requests that came before.** Until one of them has set it up,
it is not set up; then it has the recipe in force that they tell. Whatever fails changes nothing.
What a name has been bound to in the meantime, be it a recipe that was read, stays what it is. -/
theorem consult_governed (hBlank : r.configuration i = .blank) (before : List Request) :
    let r' := consult run i r before
    (Request.inForce before = none → Unready run i r') ∧
      (∀ recipe, Request.inForce before = some recipe → Ready run i r' recipe ∧
        ∀ n later, lookUp (consult run i
          { r' with names := r'.names.insert n recipe.value } later).names n = .ok recipe.value) ∧
      ∀ q e r'', ends (Request.ask run i q) r' = (.error e, r'') → r'' = r' := by
  intro r'
  have hState : r'.configuration i = ⟨Request.inForce before⟩ := configuration_consult hBlank before
  refine ⟨fun hNone => ?_, fun recipe hSome => ⟨?_, fun n later => ?_⟩,
    fun q e r'' => eq_of_ask_error⟩
  · rw [hNone] at hState
    exact unready_of_blank hState
  · rw [hSome] at hState
    exact ready_of_holding hState
  · rw [names_consult, lookUp, Table.find?_insert_self]

end Runs

/-- Before a configuration is set up a template is not accepted, and after it neither is another
setting up, nor a template for an executor. -/
theorem consult_governed_mixed :
    let before : List Request :=
      [.setTemplate (.template (.ofInt 7)), .setUp (.handle (.ofInt 1)) .null,
       .setUp (.template (.ofInt 1)) (.handle (.ofInt 2)), .setExecutor (.template (.ofInt 3)),
       .setTemplate (.template (.ofInt 4)), .setUp (.template (.ofInt 5)) (.handle (.ofInt 6))]
    (Realm.empty : Realm Code).configuration 0 = .blank ∧
      Request.inForce before = some ⟨.ofInt 4, .ofInt 2⟩ ∧
      Ready (fun _ => pure ()) 0 (consult (fun _ => pure ()) 0 (Realm.empty : Realm Code) before)
        ⟨.ofInt 4, .ofInt 2⟩ := by
  intro before
  have hBlank : (Realm.empty : Realm Code).configuration 0 = .blank := rfl
  have hInForce : Request.inForce before = some ⟨.ofInt 4, .ofInt 2⟩ := rfl
  exact ⟨hBlank, hInForce, ((consult_governed hBlank before).2.1 _ hInForce).1⟩

end WorldForge.Configuration

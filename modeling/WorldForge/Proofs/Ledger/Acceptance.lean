import WorldForge.Proofs.Ledger.Reached

/-!
# Which deployments are accepted

A deployment is accepted exactly if it is planned (`Ledger.Planned`): an executor without arguments,
or a world with a name and a live executor. The arguments may be of any type. A stranger among them
can be an executor, if it is equal to the handle of one; then the deployment comes out as it does
with this handle, so every deployment that is accepted is one with values of known types.

A refusal is of the kind of all refusals of deployments, unless a stranger raises an error when it
is looked at. Then this error takes the place of the refusal.

Main results:

* `planned_of_plan`, `exists_deploy_iff` — which deployments are accepted;
* `exists_values_of_deploy` — strangers make no deployment that there is not without them;
* `refuses_deploy` — how a deployment is refused.
-/

namespace WorldForge

/-- Only templates of worlds and of executors can be deployed, so a deployment is either of the one
kind or of the other. -/
theorem Declaration.isOf_of_isDeployable {d : Declaration} (h : d.isDeployable = true) :
    d.isOf .world = true ∨ d.isOf .executor = true := by
  obtain ⟨id, name, kind⟩ := d
  cases kind with
  | kind k => cases k <;> simp_all [isDeployable, isOf, TemplateKind.isDeployable]
  | _ => cases h

/-- No template is declared as two kinds at once. -/
theorem Declaration.isOf_unique {d : Declaration} {j k : TemplateKind} (hj : d.isOf j = true)
    (hk : d.isOf k = true) : j = k := by
  have hKind := Declaration.isOf_iff.1 hj
  rw [Declaration.isOf_iff.1 hk] at hKind
  cases hKind
  rfl

namespace Ledger

variable {c : Catalog} {l l' : Ledger} {x : InstanceHandle} {k : PartKind} {given : Value}
  {d : Declaration} {args : List Argument} {p : Plan}

/-! ## Accepted arguments -/

/-- A handle is taken for an executor's if it is alive and stands for no live world. -/
theorem isLiveExecutor_iff :
    l.isLiveExecutor x = true ↔ x.key ∉ l.worlds.keys ∧ x.key ∈ l.allocator.keys := by
  rw [isLiveExecutor, Bool.and_eq_true, Bool.not_eq_true', ← Bool.not_eq_true, Table.contains_iff,
    Allocator.isAlive_iff]

/-- The name of a world is a text that is not empty. -/
theorem nameFrom_eq_ok_iff {a : Argument} {text : Text} :
    nameFrom a = .ok text ↔ a = .value (.str text) ∧ text ≠ "" := by
  fun_cases nameFrom a with
  | case1 =>
    refine iff_of_false (fun h => by cases h) ?_
    rintro ⟨⟨⟩, hText⟩
    exact hText rfl
  | case2 name hName =>
    rw [Except.ok.injEq, Argument.value.injEq, Value.str.injEq]
    exact ⟨fun h => ⟨h, h ▸ hName⟩, And.left⟩
  | case3 other hOther =>
    refine iff_of_false (fun h => by cases h) ?_
    rintro ⟨⟨⟩, -⟩
    exact hOther _ rfl
  | case4 o => exact iff_of_false (fun h => by cases h) fun h => by cases h.1

/-- An executor is a handle that is alive and no world's. A stranger is one if it is equal to such a
handle. -/
theorem executorFrom_eq_ok_iff {a : Argument} :
    l.executorFrom a = .ok x ↔ a.handle? = some x ∧ l.isLiveExecutor x = true := by
  fun_cases executorFrom l a with
  | case1 h hLive =>
    constructor
    · rintro ⟨⟩
      exact ⟨rfl, hLive⟩
    · rintro ⟨⟨⟩, -⟩
      rfl
  | case2 h hLive =>
    refine iff_of_false (fun hOk => by cases hOk) ?_
    rintro ⟨⟨⟩, hOther⟩
    exact hLive hOther
  | case3 other hOther =>
    refine iff_of_false (fun hOk => by cases hOk) ?_
    rintro ⟨hHandle, -⟩
    cases other with
    | handle h => exact hOther h rfl
    | _ => cases hHandle
  -- a stranger counts as the handle that it is equal to, if it can be compared at all
  | case4 o hNone => simp [Argument.handle?, hNone]
  | case5 o e hRaised => simp [Argument.handle?, hRaised]
  | case6 o hEqual => simp [Argument.handle?, hEqual]
  | case7 o n hEqual hLive =>
    simp only [Argument.handle?, hEqual, Except.ok.injEq, Option.some.injEq]
    exact ⟨fun h => ⟨h, h ▸ hLive⟩, And.left⟩
  | case8 o n hEqual hLive =>
    simp only [Argument.handle?, hEqual, Option.some.injEq, reduceCtorEq, false_iff, not_and]
    rintro rfl
    exact hLive

/-- **What an accepted deployment makes.** An executor's template takes no arguments. A world's
takes a name that is not empty, and a handle, that of an instance that is alive and no world. -/
inductive Planned (c : Catalog) (l : Ledger) (given : Value) : List Argument → Plan → Prop
  | executor {d : Declaration} (hGet : c.get? given = some d) (hKind : d.isOf .executor = true) :
      Planned c l given [] (.executor given)
  | world {d : Declaration} {name : Text} {a : Argument} {x : InstanceHandle}
      (hGet : c.get? given = some d) (hKind : d.isOf .world = true) (hName : name ≠ "")
      (hHandle : a.handle? = some x) (hFree : x.key ∉ l.worlds.keys)
      (hAlive : x.key ∈ l.allocator.keys) :
      Planned c l given [.value (.str name), a] (.world given name x)

/-- Arguments that pass the checks for a world are a name that is not empty and a live executor, the
second one possibly in the shape of a stranger. -/
theorem planned_of_checkWorldArguments (hGet : c.get? given = some d) (hKind : d.isOf .world = true)
    (h : l.checkWorldArguments given args = .ok p) : Planned c l given args p := by
  revert h
  fun_cases checkWorldArguments l given args with
  | case3 name executor text hName x hExecutor =>
    rintro ⟨⟩
    obtain ⟨rfl, hSome⟩ := nameFrom_eq_ok_iff.1 hName
    obtain ⟨hHandle, hLive⟩ := executorFrom_eq_ok_iff.1 hExecutor
    obtain ⟨hFree, hAlive⟩ := isLiveExecutor_iff.1 hLive
    exact .world hGet hKind hSome hHandle hFree hAlive
  -- all the other cases are refusals
  | _ => rintro ⟨⟩

/-- A deployment that passes all checks is a planned one. The checks are gone through one after
another, and each of them leaves what is asked for in `Planned`. -/
theorem planned_of_plan (h : l.plan c given args = .ok p) : Planned c l given args p := by
  rw [plan, deployable] at h
  cases hGet : c.get? given with
  | none =>
    simp only [hGet] at h
    cases h
  | some d =>
    simp only [hGet] at h
    by_cases hDeployable : d.isDeployable = true
    · simp only [hDeployable, if_true, checkArguments] at h
      split at h
      · rename_i hWorld
        exact planned_of_checkWorldArguments hGet hWorld h
      -- what is deployed and no world is an executor, and takes no arguments
      · rename_i hWorld
        split at h
        · rename_i hEmpty
          cases h
          obtain rfl := List.isEmpty_iff.1 hEmpty
          exact .executor hGet ((Declaration.isOf_of_isDeployable hDeployable).resolve_left hWorld)
        · cases h
    · simp only [hDeployable] at h
      cases h

/-- What is declared as a world or as an executor can be deployed. -/
theorem deployable_of_isOf {kind : TemplateKind} (hGet : c.get? given = some d)
    (hKind : d.isOf kind = true) (hDeployable : kind.isDeployable = true) :
    deployable c given = .ok d := by
  rw [deployable, hGet]
  have hOwn : d.isDeployable = true := by
    rw [Declaration.isDeployable, Declaration.isOf_iff.1 hKind]
    exact hDeployable
  simp only [hOwn, if_true]

/-- A planned deployment passes all checks: none of the refusals has anything to object to it. -/
theorem plan_of_planned (h : Planned c l given args p) : l.plan c given args = .ok p := by
  cases h with
  | executor hGet hKind =>
    -- a template is of one kind only
    have hNoWorld : ¬Declaration.isOf _ .world = true := fun hWorld =>
      TemplateKind.noConfusion (Declaration.isOf_unique hWorld hKind)
    rw [plan, deployable_of_isOf hGet hKind rfl]
    dsimp only
    rw [checkArguments, if_neg hNoWorld]
    rfl
  | @world _ name a x hGet hKind hName hHandle hFree hAlive =>
    have hText : nameFrom (.value (.str name)) = .ok name := nameFrom_eq_ok_iff.2 ⟨rfl, hName⟩
    have hExecutor : l.executorFrom a = .ok x :=
      executorFrom_eq_ok_iff.2 ⟨hHandle, isLiveExecutor_iff.2 ⟨hFree, hAlive⟩⟩
    rw [plan, deployable_of_isOf hGet hKind rfl]
    dsimp only
    rw [checkArguments, if_pos hKind, checkWorldArguments, hText, hExecutor]

/-- **A plan is made exactly of what is planned.** -/
theorem plan_iff_planned : l.plan c given args = .ok p ↔ Planned c l given args p :=
  ⟨planned_of_plan, plan_of_planned⟩

/-- **A deployment is accepted exactly if it is planned.** -/
theorem exists_deploy_iff :
    (∃ done l', l.deploy c given args = .ok (done, l')) ↔ ∃ p, Planned c l given args p := by
  simp only [← plan_iff_planned, deploy]
  cases l.plan c given args with
  | error e => simp
  | ok p => exact ⟨fun _ => ⟨p, rfl⟩, fun _ => ⟨_, _, rfl⟩⟩

/-! ### Arguments of known types -/

/-- **What arguments of known types make**: with none of them an executor, and a world with a name
and the handle of a live executor. -/
theorem planned_values_cases {vs : List Value} (h : Planned c l given (Argument.values vs) p) :
    (vs = [] ∧ p = .executor given ∧ ∃ d, c.get? given = some d ∧ d.isOf .executor = true) ∨
      ∃ name x, vs = [.str name, .handle x] ∧ p = .world given name x ∧
        (∃ d, c.get? given = some d ∧ d.isOf .world = true) ∧ name ≠ "" ∧
          x.key ∉ l.worlds.keys ∧ x.key ∈ l.allocator.keys := by
  generalize hArgs : Argument.values vs = args at h
  cases h with
  | executor hGet hKind => exact .inl ⟨List.map_eq_nil_iff.1 hArgs, rfl, _, hGet, hKind⟩
  | world hGet hKind hName hHandle hFree hAlive =>
    obtain ⟨v, rest, rfl, hFirst, hRest⟩ := List.map_eq_cons_iff.1 hArgs
    obtain ⟨w, rest', rfl, rfl, hNone⟩ := List.map_eq_cons_iff.1 hRest
    cases hFirst
    obtain rfl := List.map_eq_nil_iff.1 hNone
    -- of the known values, only a handle is one
    cases w with
    | handle y =>
      cases hHandle
      exact .inr ⟨_, _, rfl, rfl, ⟨_, hGet, hKind⟩, hName, hFree, hAlive⟩
    | _ => cases hHandle

/-- **When a world can be deployed.** Its template is declared as one, its name is a text that is
not empty, and its executor is alive and no world. -/
theorem plan_eq_ok_iff {name : Value} {p : Plan} :
    l.plan c given (Argument.values [name, .handle x]) = .ok p ↔
      (∃ d, c.get? given = some d ∧ d.isOf .world = true) ∧
        (∃ text, name = .str text ∧ text ≠ "" ∧ p = .world given text x) ∧
        l.worlds.contains x.key = false ∧ l.allocator.isAlive x.key = true := by
  rw [plan_iff_planned, ← Bool.not_eq_true, Table.contains_iff, Allocator.isAlive_iff]
  constructor
  · intro h
    rcases planned_values_cases h with ⟨hNone, -⟩ | ⟨text, y, hArgs, rfl, hWorld, hText, hLive⟩
    · cases hNone
    · cases hArgs
      exact ⟨hWorld, ⟨text, rfl, hText, rfl⟩, hLive⟩
  · rintro ⟨⟨d, hGet, hKind⟩, ⟨text, rfl, hText, rfl⟩, hFree, hAlive⟩
    exact .world hGet hKind hText rfl hFree hAlive

/-- **Strangers make no deployment that there is not without them.** -/
theorem exists_values_of_deploy {done : (Plan × InstanceHandle) × Ledger}
    (h : l.deploy c given args = .ok done) :
    ∃ vs : List Value, l.deploy c given (Argument.values vs) = .ok done := by
  cases hPlan : l.plan c given args with
  | error e =>
    rw [deploy, hPlan] at h
    cases h
  | ok p =>
    -- the executor stands for whatever is equal to it
    have hValues : ∃ vs : List Value, l.plan c given (Argument.values vs) = .ok p := by
      cases planned_of_plan hPlan with
      | executor hGet hKind => exact ⟨[], plan_of_planned (.executor hGet hKind)⟩
      | @world _ name a x hGet hKind hName hHandle hFree hAlive =>
        exact ⟨[.str name, .handle x],
          plan_of_planned (.world hGet hKind hName rfl hFree hAlive)⟩
    obtain ⟨vs, hSame⟩ := hValues
    refine ⟨vs, ?_⟩
    rw [deploy, hPlan] at h
    rw [deploy, hSame, ← h]

/-! ## Refused arguments -/

/-- A template that is unknown or of no deployable kind is refused by a text, whatever the arguments
are. -/
theorem told_of_deployable_error {e : LedgerError} (h : deployable c given = .error e) :
    e.isTold = true ∧ e.kind = .deployRejected := by
  revert h
  fun_cases deployable c given with
  | case2 => rintro ⟨⟩
  | _ =>
    rintro ⟨⟩
    exact ⟨rfl, rfl⟩

/-- A refusal that tells of a stranger is of the kind of all refusals, unless the stranger raises an
error. -/
theorem telling_cases (refusal : Text → LedgerError) (told : Except Raised Text) :
    (∃ text, told = .ok text ∧ LedgerError.telling refusal told = refusal text) ∨
      ∃ e, told = .error e ∧ LedgerError.telling refusal told = .untold e := by
  cases told with
  | ok text => exact .inl ⟨text, rfl, rfl⟩
  | error e => exact .inr ⟨e, rfl, rfl⟩

/-- **How arguments are refused**: by a refusal of a deployment, or with an error that one of them
raises. -/
def Refuses (args : List Argument) (e : LedgerError) : Prop :=
  e.isTold = true ∧ e.kind = .deployRejected ∨ ∃ a ∈ args, ∃ r, a.Raises r ∧ e = .untold r

/-- What is no name is refused by a text. Only a stranger can make the refusal fail, as its literal
is in the text. -/
theorem refuses_nameFrom {a : Argument} {rest : List Argument} {e : LedgerError}
    (h : nameFrom a = .error e) : Refuses (a :: rest) e := by
  revert h
  fun_cases nameFrom a with
  | case2 => rintro ⟨⟩
  | case4 o =>
    rintro ⟨⟩
    -- what is no text is shown in the refusal, if it can be
    rcases telling_cases .strangerName o.literal with
      ⟨text, -, hTold⟩ | ⟨r, hRaised, hTold⟩
    · rw [hTold]
      exact .inl ⟨rfl, rfl⟩
    · rw [hTold]
      exact .inr ⟨_, .head _, r, .literal hRaised, rfl⟩
  | _ =>
    rintro ⟨⟩
    exact .inl ⟨rfl, rfl⟩

/-- What is no live executor is refused by a text. A stranger is compared with handles and told of
on the way, and may raise an error each time. -/
theorem refuses_executorFrom {a name : Argument} {e : LedgerError}
    (h : l.executorFrom a = .error e) : Refuses [name, a] e := by
  revert h
  -- however a stranger comes to be told of, it may raise an error
  have hText : ∀ {o : Stranger},
      Refuses [name, .stranger o] (.telling .strangerNotLive o.text) := by
    intro o
    rcases telling_cases .strangerNotLive o.text with
      ⟨text, -, hTold⟩ | ⟨r, hRaised, hTold⟩
    · rw [hTold]
      exact .inl ⟨rfl, rfl⟩
    · rw [hTold]
      exact .inr ⟨_, .tail _ (.head _), r, .text hRaised, rfl⟩
  fun_cases executorFrom l a with
  | case1 => rintro ⟨⟩
  | case7 => rintro ⟨⟩
  | case4 o =>
    rintro ⟨⟩
    rcases telling_cases .strangerExecutor o.literal with
      ⟨text, -, hTold⟩ | ⟨r, hRaised, hTold⟩
    · rw [hTold]
      exact .inl ⟨rfl, rfl⟩
    · rw [hTold]
      exact .inr ⟨_, .tail _ (.head _), r, .literal hRaised, rfl⟩
  | case5 o r hRaised =>
    rintro ⟨⟩
    exact .inr ⟨_, .tail _ (.head _), r, .lookUp hRaised, rfl⟩
  | case6 | case8 =>
    rintro ⟨⟩
    exact hText
  | _ =>
    rintro ⟨⟩
    exact .inl ⟨rfl, rfl⟩

/-- Arguments are refused by a text, or with an error that one of them raises. A wrong number of
arguments is told of without a look at any of them. -/
theorem refuses_checkArguments {args : List Argument} {e : LedgerError}
    (h : l.checkArguments d given args = .error e) : Refuses args e := by
  revert h
  rw [checkArguments]
  by_cases hWorld : d.isOf .world = true
  · rw [if_pos hWorld]
    -- the name is checked before the executor, and both only where there are two arguments
    fun_cases checkWorldArguments l given args with
    | case1 name executor e' hName =>
      rintro ⟨⟩
      exact refuses_nameFrom hName
    | case2 name executor text hName e' hExecutor =>
      rintro ⟨⟩
      exact refuses_executorFrom hExecutor
    | case3 => rintro ⟨⟩
    | case4 =>
      rintro ⟨⟩
      exact .inl ⟨rfl, rfl⟩
  · rw [if_neg hWorld]
    by_cases hNone : args.isEmpty = true
    · rw [if_pos hNone]
      rintro ⟨⟩
    · rw [if_neg hNone]
      rintro ⟨⟩
      exact .inl ⟨rfl, rfl⟩

/-- **The refusals of a deployment are of one kind**, unless an argument raises an error. -/
theorem refuses_deploy {args : List Argument} {e : LedgerError}
    (h : l.deploy c given args = .error e) : Refuses args e := by
  have hPlan : l.plan c given args = .error e := by
    rw [deploy] at h
    split at h
    · rename_i hPlan
      cases h
      exact hPlan
    · cases h
  -- either there is nothing to deploy, or the arguments do not fit
  rw [plan] at hPlan
  split at hPlan
  · rename_i hDeployable
    cases hPlan
    exact .inl (told_of_deployable_error hDeployable)
  · exact refuses_checkArguments hPlan

/-- Arguments of known types raise no errors. -/
theorem told_of_deploy_error {args : List Value} {e : LedgerError}
    (h : l.deploy c given (Argument.values args) = .error e) :
    e.isTold = true ∧ e.kind = .deployRejected := by
  rcases refuses_deploy h with hTold | ⟨a, hMem, r, hRaises, -⟩
  · exact hTold
  · obtain ⟨v, -, rfl⟩ := List.mem_map.1 hMem
    cases hRaises

/-- No stranger is met where a part is registered. -/
theorem told_of_register_error {e : LedgerError} (h : l.register c x k given = .error e) :
    e.isTold = true := by
  revert h
  fun_cases register c l x k given with
  | case1 =>
    rintro ⟨⟩
    rfl
  | case2 w hWorld e' hRefused =>
    rintro ⟨⟩
    revert hRefused
    fun_cases World.register c k given w with
    | case4 => rintro ⟨⟩
    | _ =>
      rintro ⟨⟩
      rfl
  | case3 => rintro ⟨⟩

/-- Nor where a world is looked up, whatever is made of it. -/
theorem told_of_dispatcher_error {α : Type} {f : World → α} {e : LedgerError}
    (h : (l.dispatcher given).map f = .error e) : e.isTold = true := by
  rw [dispatcher] at h
  split at h
  · cases h
    rfl
  · cases h

end Ledger

end WorldForge

import WorldForge.Proofs.Ledger.Acceptance

/-!
# Histories of a ledger

A ledger and its catalog make up a *scene*. What happens there is a list of moves: a template is
declared, an instance is deployed or destroyed, a part is registered or its registration removed.
Every move may be refused, and then it changes nothing. `Scene.after` runs a list of moves, and
`Scene.handedOut` lists the handles that are given out on the way.

A move that is accepted does one thing, and `Scene.Effect` says which. Whatever holds of every
history is proved of the effects first.

Main results:

* `effect` — a move is refused or has the effect that is named after it;
* `Effect.reached` — what an effect makes of a reached ledger is one;
* `reached_after` — and so is what a history makes of it, which has given out its handles.
-/

namespace WorldForge

/-- The ledger after a call that comes out as given: a refused one leaves the old ledger. -/
def Ledger.afterCall {α : Type} (l : Ledger) : Except LedgerError (α × Ledger) → Ledger
  | .error _ => l
  | .ok (_, l') => l'

/-- A ledger, and the catalog that it deploys from. -/
structure Scene where
  catalog : Catalog
  ledger : Ledger

namespace Scene

/-- What can be done on a scene. Arguments are values of known types: a deployment on a stranger is
accepted only where the one on the handle that the stranger is equal to is accepted, too. -/
inductive Move where
  | declare (kind name : Value) (id : Option Value)
  | deploy (given : Value) (args : List Value)
  | destroy (given : Value)
  | register (world : InstanceHandle) (k : PartKind) (given : Value)
  | deregister (world : InstanceHandle) (k : PartKind) (given : Value)

/-- The scene before anything has been deployed. -/
def opening (c : Catalog) : Scene := ⟨c, .empty⟩

/-- The scene after a move. -/
def perform (s : Scene) : Move → Scene
  | .declare kind name id =>
    match s.catalog.declare kind name id with
    | .error _ => s
    | .ok (_, c) => { s with catalog := c }
  | .deploy given args =>
    { s with ledger := s.ledger.afterCall (s.ledger.deploy s.catalog given (Argument.values args)) }
  | .destroy given => { s with ledger := s.ledger.afterCall (s.ledger.destroy given) }
  | .register world k given =>
    { s with ledger := s.ledger.afterCall (s.ledger.register s.catalog world k given) }
  | .deregister world k given =>
    { s with ledger := s.ledger.afterCall (s.ledger.deregister world k given) }

/-- The handle that a move gives out, if it gives one. -/
def handsOut? (s : Scene) : Move → Option InstanceHandle
  | .deploy given args =>
    let done := s.ledger.deploy s.catalog given (Argument.values args)
    done.toOption.map fun deployed => deployed.1.2
  | _ => none

/-- The scene after several moves. -/
def after (s : Scene) (moves : List Move) : Scene := moves.foldl perform s

/-- The handles that moves give out, in the order of the moves. -/
def handedOut (s : Scene) : List Move → List InstanceHandle
  | [] => []
  | m :: rest => (s.handsOut? m).toList ++ (s.perform m).handedOut rest

/-- A scene is the outcome of a history that starts in another one. -/
def LeadsTo (s s' : Scene) : Prop := ∃ moves, s.after moves = s'

variable {s s' s₁ : Scene} {m : Move} {moves more : List Move} {out handed : List InstanceHandle}
  {c : Catalog} {l : Ledger}

@[simp] theorem after_nil : s.after [] = s := rfl

@[simp] theorem after_cons : s.after (m :: moves) = (s.perform m).after moves := rfl

@[simp] theorem after_append : s.after (moves ++ more) = (s.after moves).after more :=
  List.foldl_append

/-- No moves at all lead from a scene to itself. -/
theorem LeadsTo.refl (s : Scene) : s.LeadsTo s := ⟨[], rfl⟩

/-- Moves that lead to a scene, and moves that lead on from there, are moves of one history. -/
theorem LeadsTo.trans (h : s.LeadsTo s₁) (h₁ : s₁.LeadsTo s') : s.LeadsTo s' := by
  obtain ⟨moves, rfl⟩ := h
  obtain ⟨more, rfl⟩ := h₁
  exact ⟨moves ++ more, after_append⟩

/-! ## What a move does -/

/-- **The effect of a move**: the scene that it leaves, and the handles that it gives out. -/
inductive Effect (s : Scene) : Move → Scene → List InstanceHandle → Prop
  | refused (m : Move) : Effect s m s []
  | declared {kind name t : Value} {id : Option Value} {c : Catalog}
      (hDeclare : s.catalog.declare kind name id = .ok (t, c)) :
      Effect s (.declare kind name id) ⟨c, s.ledger⟩ []
  | deployed {given : Value} {args : List Value} {p : Ledger.Plan} {x : InstanceHandle}
      {l : Ledger}
      (hDeploy : s.ledger.deploy s.catalog given (Argument.values args) = .ok ((p, x), l)) :
      Effect s (.deploy given args) ⟨s.catalog, l⟩ [x]
  | destroyed {given : Value} {l : Ledger} (hDestroy : s.ledger.destroy given = .ok ((), l)) :
      Effect s (.destroy given) ⟨s.catalog, l⟩ []
  | registered {x : InstanceHandle} {k : PartKind} {given : Value} {d : Declaration} {l : Ledger}
      (hRegister : s.ledger.register s.catalog x k given = .ok (d, l)) :
      Effect s (.register x k given) ⟨s.catalog, l⟩ []
  | deregistered {x : InstanceHandle} {k : PartKind} {given : Value} {l : Ledger}
      (hDeregister : s.ledger.deregister x k given = .ok ((), l)) :
      Effect s (.deregister x k given) ⟨s.catalog, l⟩ []

/-- **A move is refused, or has the effect that is named after it.** -/
theorem effect (s : Scene) (m : Move) : s.Effect m (s.perform m) (s.handsOut? m).toList := by
  cases m with
  | declare kind name id =>
    rw [perform]
    split
    · exact .refused _
    · rename_i t c hDeclare
      exact .declared hDeclare
  | deploy given args =>
    rw [perform, handsOut?]
    cases hDeploy : s.ledger.deploy s.catalog given (Argument.values args) with
    | error e => exact .refused _
    | ok deployed => exact .deployed hDeploy
  | destroy given =>
    rw [perform]
    cases hDestroy : s.ledger.destroy given with
    | error e => exact .refused _
    | ok destroyed => exact .destroyed hDestroy
  | register x k given =>
    rw [perform]
    cases hRegister : s.ledger.register s.catalog x k given with
    | error e => exact .refused _
    | ok registered => exact .registered hRegister
  | deregister x k given =>
    rw [perform]
    cases hDeregister : s.ledger.deregister x k given with
    | error e => exact .refused _
    | ok deregistered => exact .deregistered hDeregister

/-! ## Moves whose outcome is known -/

/-- A deployment that is accepted leaves the ledger that it gives. -/
theorem perform_deploy_of_ok {given : Value} {args : List Value} {a : Ledger.Plan × InstanceHandle}
    (h : s.ledger.deploy s.catalog given (Argument.values args) = .ok (a, l)) :
    s.perform (.deploy given args) = ⟨s.catalog, l⟩ := by
  rw [perform, h]
  rfl

/-- A destruction that is accepted leaves the ledger that it gives. -/
theorem perform_destroy_of_ok {given : Value} (h : s.ledger.destroy given = .ok ((), l)) :
    s.perform (.destroy given) = ⟨s.catalog, l⟩ := by
  rw [perform, h]
  rfl

/-- A registration that is accepted leaves the ledger that it gives. -/
theorem perform_register_of_ok {x : InstanceHandle} {k : PartKind} {given : Value}
    {d : Declaration} (h : s.ledger.register s.catalog x k given = .ok (d, l)) :
    s.perform (.register x k given) = ⟨s.catalog, l⟩ := by
  rw [perform, h]
  rfl

/-- A deregistration that is accepted leaves the ledger that it gives. -/
theorem perform_deregister_of_ok {x : InstanceHandle} {k : PartKind} {given : Value}
    (h : s.ledger.deregister x k given = .ok ((), l)) :
    s.perform (.deregister x k given) = ⟨s.catalog, l⟩ := by
  rw [perform, h]
  rfl

/-- A registration that is refused leaves everything as it was. -/
theorem perform_register_of_error {x : InstanceHandle} {k : PartKind} {given : Value}
    {e : LedgerError} (h : s.ledger.register s.catalog x k given = .error e) :
    s.perform (.register x k given) = s := by
  rw [perform, h]
  rfl

/-- A deregistration that is refused leaves everything as it was. -/
theorem perform_deregister_of_error {x : InstanceHandle} {k : PartKind} {given : Value}
    {e : LedgerError} (h : s.ledger.deregister x k given = .error e) :
    s.perform (.deregister x k given) = s := by
  rw [perform, h]
  rfl

/-- A declaration that is accepted leaves the catalog that it gives, and has nothing to do with the
ledger. -/
theorem perform_declare_of_ok {kind name t : Value} {id : Option Value}
    (h : s.catalog.declare kind name id = .ok (t, c)) :
    s.perform (.declare kind name id) = ⟨c, s.ledger⟩ := by
  rw [perform, h]

/-! ## Reached scenes -/

/-- What an effect makes of a reached ledger is one. -/
theorem Effect.reached (h : s.Effect m s' out)
    (hReached : Ledger.Reached s.catalog s.ledger handed) :
    Ledger.Reached s'.catalog s'.ledger (handed ++ out) := by
  cases h with
  | refused =>
    rw [List.append_nil]
    exact hReached
  | declared hDeclare =>
    rw [List.append_nil]
    exact .declare hReached hDeclare
  | deployed hDeploy => exact .deploy hReached hDeploy
  | destroyed hDestroy =>
    rw [List.append_nil]
    exact .destroy hReached hDestroy
  | registered hRegister =>
    rw [List.append_nil]
    exact .register hReached hRegister
  | deregistered hDeregister =>
    rw [List.append_nil]
    exact .deregister hReached hDeregister

/-- **A history on a reached ledger leads to a reached one**, which has given out the handles of the
history after those given out before it. -/
theorem reached_after (hReached : Ledger.Reached s.catalog s.ledger handed) (moves : List Move) :
    Ledger.Reached (s.after moves).catalog (s.after moves).ledger
      (handed ++ s.handedOut moves) := by
  induction moves generalizing s handed with
  | nil =>
    rw [handedOut, List.append_nil]
    exact hReached
  | cons m rest ih =>
    rw [handedOut, ← List.append_assoc]
    exact ih ((s.effect m).reached hReached)

/-- A scene that opens with a reached catalog has a reached ledger, from which no handle has been
handed out. -/
theorem reached_opening (h : c.Reached) :
    Ledger.Reached (opening c).catalog (opening c).ledger [] :=
  .new h

theorem reached_of_opening (h : c.Reached) (moves : List Move) :
    Ledger.Reached ((opening c).after moves).catalog ((opening c).after moves).ledger
      ((opening c).handedOut moves) := by
  simpa using reached_after (reached_opening h) moves

end Scene

end WorldForge

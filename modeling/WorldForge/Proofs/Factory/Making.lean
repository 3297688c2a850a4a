import WorldForge.Proofs.Factory.Course

/-!
# What worlds are made with

An operation makes worlds by the recipe that is in force when it is called, and by the name that it
is asked for. This is so for every world that its work leaves behind, whether the operation succeeds
or fails, and nothing that is done to a world later on changes the three.

Main results:

* `Operation.madeBy_of_work` — a world that the work of an operation leaves was known before it, or
  it is made by the recipe and the name of the operation;
* `Operation.work_of_act` — an operation that succeeds has done its work by the recipe in force;
* `Operation.founds_of_act` — and what it gives is a world that the work has founded.
-/

namespace WorldForge

variable {κ : Type} {c : Catalog} {l : Ledger} {recipe : Recipe} {name? : Option Value}

/-! ## Worlds -/

/-- **A world is made by a recipe**, and by a name that is asked for. -/
structure World.MadeBy (recipe : Recipe) (name? : Option Value) (w : World) : Prop where
  name : name? = some (.str w.name)
  template : w.template = .template recipe.template
  executor : w.executor = recipe.executor

/-- A world with other rosters is made by the same recipe. -/
theorem World.MadeBy.of_sameHead {w w' : World} (h : w.MadeBy recipe name?)
    (hHead : w.SameHead w') :
    w'.MadeBy recipe name? where
  name := by rw [hHead.name, h.name]
  template := hHead.template.trans h.template
  executor := hHead.executor.trans h.executor

/-! ## Work -/

namespace Site

/-- **All new worlds of a site are made by a recipe.** A world that is known there has been known in
the ledger `l`, or it is made by the recipe and the name that is asked for, from a template that is
declared. -/
structure Makes (c : Catalog) (l : Ledger) (recipe : Recipe) (name? : Option Value) (s : Site) :
    Prop where
  tidy : s.ledger.Tidy
  worlds : ∀ x w, s.ledger.world? x = some w →
    (∃ w₀, l.world? x = some w₀ ∧ w₀.SameHead w) ∨
      w.MadeBy recipe name? ∧ ∃ d, c.get? (.template recipe.template) = some d

/-- What a site has made does not depend on the faults that are planned there. -/
theorem Makes.withFaults (s : Site) (faults : List Fault) (hs : s.Makes c l recipe name?) :
    { s with faults }.Makes c l recipe name? :=
  ⟨hs.tidy, hs.worlds⟩

/-- A move leaves only worlds that are made by the recipe, if it deploys only such. -/
theorem Makes.move {s : Site} {l' : Ledger} (hs : s.Makes c l recipe name?) (m : Scene.Move)
    (hMove : (Scene.mk c s.ledger).perform m = ⟨c, l'⟩)
    (hDeploys : ∀ w, (Scene.mk c s.ledger).Deploys m w → w.MadeBy recipe name?) :
    { s with ledger := l' }.Makes c l recipe name? := by
  have hEffect := (Scene.mk c s.ledger).effect m
  rw [hMove] at hEffect
  refine ⟨hEffect.tidy hs.tidy, fun x w' hKnown => ?_⟩
  -- a world that is known afterwards was known before, or this move has deployed it
  rcases hEffect.world_cases hs.tidy hKnown with ⟨w, hBefore, hHead⟩ | hNew
  · rcases hs.worlds x w hBefore with ⟨w₀, hFirst, hHead₀⟩ | ⟨hMade, hDeclared⟩
    · exact .inl ⟨w₀, hFirst, hHead₀.trans hHead⟩
    · exact .inr ⟨hMade.of_sameHead hHead, hDeclared⟩
  · have hMade := hDeploys w' hNew
    exact .inr ⟨hMade, hMade.template ▸ hNew.declared⟩

/-- Records that tell of no deployment leave what has been made as it is. -/
theorem makes_report (r : LogRecord) : Keeps (Makes c l recipe name?) (report r) :=
  leads_modify fun _ hs => ⟨hs.tidy, hs.worlds⟩

/-- A world that is deployed by the recipe is made by it. -/
theorem makes_deploy {name : Value} (hName : name? = some name) :
    Keeps (Makes c l recipe name?)
      (deploy c recipe.template (Argument.values [name, .handle recipe.executor])) := by
  refine (keeps_callBy Makes.withFaults fun s a l' hs hDeploy => ?_).bind fun a =>
    (makes_report _).bind fun _ => leads_pure _
  refine hs.move (.deploy recipe.template [name, .handle recipe.executor])
    (Scene.perform_deploy_of_ok hDeploy) fun w hDeploys => ?_
  -- the world has what the deployment was handed
  obtain ⟨hTemplate, hArgs⟩ := Scene.Move.deploy.inj hDeploys.move
  obtain ⟨hText, hExecutor⟩ := List.cons.inj hArgs
  refine ⟨?_, hTemplate.symm, ?_⟩
  · rw [hName, hText]
  · exact (Value.handle.inj (List.cons.inj hExecutor).1).symm

/-- A registration makes no world. -/
theorem makes_register (x : InstanceHandle) (k : PartKind) (given : Value) :
    Keeps (Makes c l recipe name?) (register c x k given) := by
  refine (keeps_callBy Makes.withFaults fun s d l' hs hRegister => ?_).bind fun _ =>
    makes_report _
  refine hs.move (.register x k given) (Scene.perform_register_of_ok hRegister) fun w hDeploys => ?_
  cases hDeploys.move

end Site

/-- **Every piece of work** makes worlds by the recipe only. -/
theorem Work.invariant_makes (c : Catalog) (recipe : Recipe) (name? : Option Value) (l : Ledger) :
    Work.Invariant c recipe name? (Site.Makes c l recipe name?) fun _ => True where
  faults := Site.Makes.withFaults
  reports r _ := Site.makes_report r
  deploys _ hName := Site.makes_deploy hName
  registers := Site.makes_register
  pays _ _ hPurse _ := hPurse

namespace Operation

variable {run : κ → Act κ Unit} {i j : Nat} {o : Operation} {r r' : Realm κ} {p : Purse}
  {a a' : o.Result} {b b' : Workbench} {res : Except Error o.Result} {x : InstanceHandle}
  {w : World}

/-- **What the work of an operation leaves**: the worlds that were known before it, and worlds that
are made by the recipe and the name of the operation. -/
theorem madeBy_of_work (hTidy : b.site.ledger.Tidy) (hWork : ends (o.work recipe c) b = (res, b'))
    (hKnown : b'.site.ledger.world? x = some w) :
    (∃ w₀, b.site.ledger.world? x = some w₀ ∧ w₀.SameHead w) ∨
      w.MadeBy recipe o.name? ∧ ∃ d, c.get? (.template recipe.template) = some d := by
  have hStart : b.site.Makes c b.site.ledger recipe o.name? :=
    ⟨hTidy, fun _ w₀ hFirst => .inl ⟨w₀, hFirst, .refl w₀⟩⟩
  have hKept := (o.keeps_work (Work.invariant_makes c recipe o.name? b.site.ledger)).holds
    (x := o.work recipe c) ⟨hStart, trivial⟩
  rw [hWork] at hKept
  exact hKept.site.worlds x w hKnown

/-! ## Operations -/

/-- An operation that does not get to work fails. -/
theorem Barred.fails (h : o.Barred i r) :
    ∃ e r', ∀ run : κ → Act κ Unit, o.act run i r = .error e r' := by
  rcases hConfiguration : (r.factory i).configuration with ⟨_ | recipe⟩
  · exact ⟨_, r, fun _ => act_of_blank hConfiguration⟩
  rcases o.purse_outcome (r.factory i) r with ⟨e, hNone⟩ | ⟨p, hPurse, -⟩
  · exact ⟨e, r, fun _ => act_of_purse_error hConfiguration hNone⟩
  -- with a recipe and something to pay with, it can only lack a ledger
  cases h with
  | blank hBlank =>
    rw [hConfiguration] at hBlank
    cases hBlank
  | unpaid hNone =>
    rw [hPurse] at hNone
    cases hNone
  | astray hAstray =>
    obtain ⟨e, r₁, -, hAct⟩ := act_astray hAstray hConfiguration hPurse
    exact ⟨e, _, hAct⟩

/-- What an operation gives is what its work has come to. -/
theorem farewell_gives (h : o.farewell p a r = .ok a' r') : a' = a := by
  -- before a handle is given, the steps are looked up and reported
  have hSpawn : ∀ {budget : Value} {record : Int → LogRecord} {y y' : InstanceHandle},
      (Factory.spent p budget >>= fun used => Act.report (record used) >>= fun _ => pure y) r =
        .ok y' r' → y' = y := by
    intro budget record y y' hDone
    obtain ⟨used, r₁, -, hRest⟩ := bind_eq_ok_iff.1 hDone
    obtain ⟨_, r₂, -, hLast⟩ := bind_eq_ok_iff.1 hRest
    cases hLast
    rfl
  cases o with
  | spawn name components systems budget => exact hSpawn h
  | request given budget =>
    by_cases hRequest : ∃ name components systems, given = .request name components systems
    · obtain ⟨name, components, systems, rfl⟩ := hRequest
      exact hSpawn h
    · have hPure : (request given budget).farewell p a = (pure a : Act κ _) := by
        cases given with
        | request name components systems => exact absurd ⟨_, _, _, rfl⟩ hRequest
        | _ => rfl
      rw [hPure] at h
      cases h
      rfl
  | deploy name =>
    cases h
    rfl
  | registerAll world components systems budget => rfl

/-- **An operation that succeeds has done its work** by the recipe in force, on the ledger of its
factory. -/
theorem work_of_act (h : o.act run i r = .ok a r') :
    ∃ j recipe p b, (r.factory i).ledger = .object .ledger j ∧
      (r.factory i).configuration = .holding recipe ∧ o.purse (r.factory i) r = .ok p r ∧
      o.work recipe (r.catalogFor j) ⟨r.site j, p, []⟩ = .ok a b := by
  rcases o.barred_or_equipped i r with hBarred | ⟨j, recipe, p, hLedger, hRecipe, hPurse, -⟩
  · obtain ⟨e, r₁, hFails⟩ := hBarred.fails
    rw [hFails] at h
    cases h
  · rcases hWork : ends (o.work recipe (r.catalogFor j)) ⟨r.site j, p, []⟩ with ⟨res, b⟩
    obtain ⟨r₁, -, -, hAct⟩ := act_begun hLedger hRecipe hPurse hWork
    rw [hAct] at h
    -- an operation gives what its work has given, as neither end of it changes that
    obtain ⟨a₁, r₂, hConclude, hFarewell⟩ := bind_eq_ok_iff.1 h
    obtain ⟨rfl, -⟩ := (Factory.conclude_eq_ok_iff hLedger).1 hConclude
    obtain rfl := farewell_gives hFarewell
    exact ⟨j, recipe, p, b, hLedger, hRecipe, hPurse, eq_ok_of_ends hWork⟩

/-- **An operation founds a world** on ledger `j`, by a recipe: the recipe is in force when the
operation is called, and the world is not known then, but when the work of the operation is done.
Then the operation may still succeed or fail. -/
inductive Founds (o : Operation) (i : Nat) (r : Realm κ) (j : Nat) (recipe : Recipe)
    (x : InstanceHandle) : Prop
  | intro {p : Purse} {res : Except Error o.Result} {b : Workbench} {w : World}
      (hLedger : (r.factory i).ledger = .object .ledger j)
      (hRecipe : (r.factory i).configuration = .holding recipe)
      (hPurse : o.purse (r.factory i) r = .ok p r)
      (hWork : ends (o.work recipe (r.catalogFor j)) ⟨r.site j, p, []⟩ = (res, b))
      (hNew : (r.ledger j).ledger.world? x = none)
      (hKnown : b.site.ledger.world? x = some w)

/-- **What an operation gives is a world that it has founded.** -/
theorem founds_of_act (hTidy : r.Tidy) (h : o.act run i r = .ok a r') (hMem : x ∈ o.made a) :
    ∃ j recipe, o.Founds i r j recipe x := by
  obtain ⟨j, recipe, p, b, hLedger, hRecipe, hPurse, hWork⟩ := work_of_act h
  obtain ⟨hFresh, -⟩ := made_of_work hWork hMem
  obtain ⟨order, n, b₁, -, hDone, hEnrolled⟩ := enrolled_of_work hWork hMem
  obtain ⟨text, w, -, hExtends, hMade⟩ := hEnrolled.made hDone
  refine ⟨j, recipe, .intro (w := w) hLedger hRecipe hPurse (ends_of_ok hWork) ?_ ?_⟩
  · rw [hFresh]
    exact (hTidy j).world?_fresh
  · rw [hMade, Ledger.world?_withWorld, hExtends.head.handle]
    exact if_pos rfl

end Operation

end WorldForge

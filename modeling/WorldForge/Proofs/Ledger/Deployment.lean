import WorldForge.Proofs.Ledger.Coherence
import WorldForge.Proofs.Ledger.Permanence

/-!
# Deployments can be undone

A deployment is accepted exactly if it is planned (`Ledger.Planned`). Otherwise it is refused, or an
argument raises an error, and not even the next handle has changed.

To destroy an instance is to undo its deployment, however much has been done meanwhile. A ledger
`without` a handle is what is left when everything that stands at the handle is taken away. A move
at the handle makes no difference to what is left, and any other move does the same to what is left
as to the whole, unless it destroys the instance or deploys a world on it. So a history that spares
an instance leaves the same without it as the history without the moves at the handle, on a ledger
that has only skipped the handle (`Scene.without_after`).

Main results:

* `Scene.without_after` — what is done elsewhere does not depend on an instance;
* `Scene.deploy_accepted_and_undone` — which deployments a reached ledger accepts, and what is left
  of one when its instance is destroyed. -/

namespace WorldForge

/-! ## Without a handle -/

/-- The allocator without a live handle. The count stays. -/
def Allocator.without (a : Allocator) (k : Key) : Allocator :=
  { a with alive := a.alive.filter (·.key ≠ k) }

/-- **The ledger without a handle**: nothing stands there, be it alive or retired. -/
def Ledger.without (l : Ledger) (k : Key) : Ledger where
  allocator := l.allocator.without k
  templates := l.templates.erase k
  worlds := l.worlds.erase k
  retired := l.retired.erase k

/-- The ledger when the next handle has been passed over. -/
def Ledger.skipping (l : Ledger) : Ledger :=
  { l with allocator := { l.allocator with next := .number (l.allocator.next.toInt + 1) } }

/-- The first ledger is the second one once the instance at a handle has been destroyed there: what
is alive, the templates and the worlds are the same. Only a destroyed world is kept besides. -/
structure Ledger.Undone (k : Key) (l m : Ledger) : Prop where
  allocator : l.allocator = m.allocator
  templates : l.templates = m.templates
  worlds : l.worlds = m.worlds
  retired : l.retired.erase k = m.retired

/-- The same result, with a handle taken away from the ledger. -/
def Ledger.leaving {α : Type} (k : Key) (done : α × Ledger) : α × Ledger :=
  (done.1, done.2.without k)

namespace Allocator

variable {a : Allocator} {j k : Key}

/-- Without a handle, the live handles are the others, in their order. -/
theorem keys_without (a : Allocator) (k : Key) : (a.without k).keys = a.keys.filter (· ≠ k) := by
  rw [without, keys, keys, List.filter_map]
  rfl

theorem isAlive_without (h : j ≠ k) : (a.without k).isAlive j = a.isAlive j := by
  rw [Bool.eq_iff_iff, isAlive_iff, isAlive_iff, keys_without, List.mem_filter]
  simp [h]

/-- It makes no difference which of two handles is left out first. -/
theorem without_comm (a : Allocator) (j k : Key) :
    (a.without j).without k = (a.without k).without j := by
  rw [without, without, without, without]
  congr 1
  exact filter_comm ..

theorem deallocate?_of_mem (h : k ∈ a.keys) : a.deallocate? k = some (a.without k) :=
  deallocate?_eq_some_iff.2 ⟨h, rfl⟩

/-- To give back one handle has nothing to do with another one. -/
theorem deallocate?_without (h : j ≠ k) :
    (a.without k).deallocate? j = (a.deallocate? j).map (·.without k) := by
  -- whether another handle is alive does not depend on this one
  by_cases hAlive : j ∈ a.keys
  · have hKept : j ∈ (a.without k).keys := by
      rw [← isAlive_iff, isAlive_without h, isAlive_iff]
      exact hAlive
    rw [deallocate?_of_mem hAlive, deallocate?_of_mem hKept, Option.map_some, without_comm]
  · have hDead : a.isAlive j = false := by
      rw [← Bool.not_eq_true, isAlive_iff]
      exact hAlive
    rw [Allocator.deallocate?, Allocator.deallocate?, isAlive_without h, hDead]
    rfl

end Allocator

namespace Ledger

variable {c : Catalog} {l l' : Ledger} {handed : List InstanceHandle} {h x y : InstanceHandle}
  {w w' : World} {kind : PartKind} {j k : Key} {t given : Value} {d : Declaration}
  {args : List Value} {p : Plan}

/-! ## Calls that do not see a handle -/

/-- A world is to be deployed on the instance at a handle. -/
def UsesAsExecutor (k : Key) (args : List Value) : Prop :=
  ∃ name x, args = [name, .handle x] ∧ x.key = k

/-- What is found in a table under another key is found there as before. -/
theorem contains_erase {ν : Type} (t : Table Key ν) (h : j ≠ k) :
    (t.erase k).contains j = t.contains j := by
  rw [Table.contains, Table.contains, Table.find?_erase_of_ne _ h]

/-- At another handle the same world is known as before, be it alive or retired. -/
theorem world?_without (h : y.key ≠ k) : (l.without k).world? y = l.world? y := by
  rw [world?, world?, without]
  simp only [Table.find?_erase_of_ne _ h]

/-- Whether an instance can be an executor is decided at its own handle. -/
theorem isLiveExecutor_without (h : x.key ≠ k) :
    (l.without k).isLiveExecutor x = l.isLiveExecutor x := by
  rw [isLiveExecutor, isLiveExecutor]
  simp only [without, contains_erase _ h, Allocator.isAlive_without h]

/-- A plan asks for its executor, and for no other instance. -/
theorem plan_without (hOther : ¬UsesAsExecutor k args) :
    (l.without k).plan c given (Argument.values args) = l.plan c given (Argument.values args) := by
  have hWorld : (l.without k).checkWorldArguments given (Argument.values args) =
      l.checkWorldArguments given (Argument.values args) := by
    match args with
    | [] | [_] | _ :: _ :: _ :: _ => rfl
    | [name, executor] =>
      show checkWorldArguments _ given [.value name, .value executor] =
        checkWorldArguments _ given [.value name, .value executor]
      have hExecutor : (l.without k).executorFrom (.value executor) =
          l.executorFrom (.value executor) := by
        cases executor with
        -- the only place at which a plan looks at what is alive
        | handle x =>
          have hNe : x.key ≠ k := fun hKey => hOther ⟨name, x, rfl, hKey⟩
          rw [executorFrom, executorFrom, isLiveExecutor_without hNe]
        | _ => rfl
      rw [checkWorldArguments, checkWorldArguments, hExecutor]
  simp only [plan, checkArguments, hWorld]

/-- A new instance does not stand at the handle that is left out, so it can be put on the ledger
before or after. -/
theorem withInstance_without (t : Value) (h : l.allocator.fresh.key ≠ k) :
    (l.without k).withInstance t = (l.withInstance t).without k := by
  have hAlive : (l.allocator.without k).allocate.2 = l.allocator.allocate.2.without k := by
    have hKept : [l.allocator.fresh].filter (·.key ≠ k) = [l.allocator.fresh] := by simp [h]
    rw [Allocator.without, Allocator.without, Allocator.allocate, Allocator.allocate,
      List.filter_append, hKept]
    rfl
  rw [withInstance, withInstance, without, without]
  simp only [hAlive]
  congr 1
  exact (Table.erase_insert_of_ne _ _ h).symm

/-- A world at another handle can be put on the ledger before or after a handle is left out. -/
theorem withWorld_without (h : w.handle.key ≠ k) :
    (l.without k).withWorld w = (l.withWorld w).without k := by
  rw [withWorld, withWorld, without, without]
  congr 1
  exact (Table.erase_insert_of_ne _ _ h).symm

/-- A deployment on another executor comes out the same without a handle. -/
theorem deploy_without (hFresh : l.allocator.fresh.key ≠ k) (hOther : ¬UsesAsExecutor k args) :
    (l.without k).deploy c given (Argument.values args) =
      (l.deploy c given (Argument.values args)).map (leaving k) := by
  rw [deploy, deploy, plan_without hOther]
  cases l.plan c given (Argument.values args) with
  | error e => rfl
  | ok p =>
    cases p with
    | executor t =>
      simp only [place_executor, withInstance_without t hFresh]
      rfl
    | world t name executor =>
      have hWorld : (World.bare l.allocator.fresh t name executor).handle.key ≠ k := hFresh
      simp only [place_world, withInstance_without t hFresh]
      exact congrArg (fun m => Except.ok (_, m)) (withWorld_without hWorld)

/-- The instance at one handle is destroyed without any regard to what stands at another one. -/
theorem remove_without (a : Allocator) (h : j ≠ k) :
    (l.without k).remove j (a.without k) = (l.remove j a).without k := by
  have hFind : (l.without k).worlds.find? j = l.worlds.find? j := Table.find?_erase_of_ne _ h
  rw [remove, remove, hFind, without, without]
  -- a world that is removed is retired, an executor just goes
  cases l.worlds.find? j with
  | none =>
    congr 1
    · exact Table.erase_comm ..
    · exact Table.erase_comm ..
  | some w =>
    congr 1
    · exact Table.erase_comm ..
    · exact Table.erase_comm ..
    · exact (Table.erase_insert_of_ne _ _ h).symm

/-- The destruction of another instance comes out the same without a handle. -/
theorem destroy_without (h : given.key ≠ k) :
    (l.without k).destroy given = (l.destroy given).map (leaving k) := by
  have hDead : (l.without k).allocator.deallocate? given.key =
      (l.allocator.deallocate? given.key).map (·.without k) := Allocator.deallocate?_without h
  rw [destroy, destroy, hDead]
  cases l.allocator.deallocate? given.key with
  | none => rfl
  | some a => exact congrArg (fun m => Except.ok ((), m)) (remove_without a h)

/-- Another world is put back the same without a handle. -/
theorem putWorld_without (h : w.handle.key ≠ k) :
    (l.without k).putWorld w = (l.putWorld w).without k := by
  have hContains : (l.without k).worlds.contains w.handle.key =
      l.worlds.contains w.handle.key := contains_erase _ h
  rw [putWorld, putWorld, hContains]
  split
  · exact withWorld_without h
  · rw [without, without]
    congr 1
    exact (Table.erase_insert_of_ne _ _ h).symm

/-- Of a world at the handle nothing is left. -/
theorem without_putWorld (h : w.handle.key = k) : (l.putWorld w).without k = l.without k := by
  rw [putWorld]
  split
  · rw [without, without]
    simp only [h, Table.erase_insert]
  · rw [without, without]
    simp only [h, Table.erase_insert]

/-- A registration in another world comes out the same without a handle. -/
theorem register_without (hs : Sound c l handed) (h : y.key ≠ k) :
    (l.without k).register c y kind given = (l.register c y kind given).map (leaving k) := by
  rw [register, register, world?_without h]
  cases hKnown : l.world? y with
  | none => rfl
  | some w =>
    cases hDone : w.register c kind given with
    | error e => simp only [hDone, Except.map]
    | ok done =>
      obtain ⟨d, w'⟩ := done
      -- a world keeps its handle when parts are registered
      have hKey : w'.handle.key ≠ k := by
        rw [(World.extends_of_register hDone).head.handle, (hs.world? hKnown).1]
        exact h
      simp only [hDone, putWorld_without hKey]
      rfl

/-- The removal of a registration in another world comes out the same without a handle. -/
theorem deregister_without (hs : Sound c l handed) (h : y.key ≠ k) :
    (l.without k).deregister y kind given = (l.deregister y kind given).map (leaving k) := by
  rw [deregister, deregister, world?_without h]
  cases hKnown : l.world? y with
  | none => rfl
  | some w =>
    cases hDone : w.deregister kind given with
    | error e => simp only [hDone, Except.map]
    | ok w' =>
      have hKey : w'.handle.key ≠ k := by
        rw [(World.sameHead_of_deregister hDone).handle, (hs.world? hKnown).1]
        exact h
      simp only [hDone, putWorld_without hKey]
      rfl

/-! ## Destruction -/

/-- A live instance can always be destroyed, and what is left is the ledger without its handle. -/
theorem destroy_of_mem (hAlive : given.key ∈ l.allocator.keys) :
    l.destroy given = .ok ((), l.remove given.key (l.allocator.without given.key)) := by
  rw [destroy, Allocator.deallocate?_of_mem hAlive]

/-- What a destruction leaves is what is left without the handle. -/
theorem undone_remove (k : Key) (l : Ledger) :
    (l.remove k (l.allocator.without k)).Undone k (l.without k) where
  allocator := rfl
  templates := rfl
  worlds := rfl
  retired := by
    rw [remove, without]
    dsimp only
    split
    · rfl
    · exact Table.erase_insert ..

/-- Without a new instance a ledger is the old one, which has skipped a handle. -/
theorem without_of_deploy {args : List Argument} (hs : Sound c l handed)
    (hDeploy : l.deploy c given args = .ok ((p, x), l')) : l'.without x.key = l.skipping := by
  have hRetired : l.allocator.fresh.key ∉ l.retired.keys := by
    intro hMem
    obtain ⟨-, h, hHanded, hKey⟩ := hs.retired_handed _ hMem
    exact hs.fresh_ne hHanded hKey
  have hAlive : l.allocator.allocate.2.without l.allocator.fresh.key =
      { l.allocator with next := .number (l.allocator.next.toInt + 1) } :=
    Option.some.inj ((Allocator.deallocate?_of_mem
      (Allocator.mem_keys_allocate.2 (.inr rfl))).symm.trans
        (Allocator.deallocate?_allocate hs.fresh_not_mem_keys))
  have hTemplates (t : Value) : (l.templates.insert l.allocator.fresh.key t).erase
      l.allocator.fresh.key = l.templates :=
    Table.erase_insert_of_not_mem _ _ hs.fresh_not_mem_templates
  cases deployed_of_deploy hDeploy with
  | executor t =>
    rw [without, skipping]
    -- the allocators are those of `hAlive`
    congr 1
    · exact hTemplates t
    · exact Table.erase_of_not_mem _ hs.fresh_not_mem_worlds
    · exact Table.erase_of_not_mem _ hRetired
  | world t name executor =>
    rw [without, skipping]
    congr 1
    · exact hTemplates t
    · exact Table.erase_insert_of_not_mem _ _ hs.fresh_not_mem_worlds
    · exact Table.erase_of_not_mem _ hRetired

end Ledger

/-! ## Histories that spare an instance -/

namespace Scene

/-- A move is made in the world at a handle. -/
def Move.isAt (k : Key) : Move → Bool
  | .register y _ _ | .deregister y _ _ => y.key = k
  | .declare .. | .deploy .. | .destroy _ => false

/-- **A move spares an instance**: it neither destroys the instance nor deploys a world on it. -/
def Move.Spares (k : Key) : Move → Prop
  | .deploy _ args => ¬Ledger.UsesAsExecutor k args
  | .destroy given => given.key ≠ k
  | .declare .. | .register .. | .deregister .. => True

/-- The scene without a handle. -/
def without (s : Scene) (k : Key) : Scene := ⟨s.catalog, s.ledger.without k⟩

variable {s s' : Scene} {m : Move} {moves : List Move} {out handed : List InstanceHandle}
  {k : Key} {x : InstanceHandle}

/-- A call that does not see a handle leaves the same ledger without it, whether the call succeeds
or is refused. -/
theorem afterCall_leaving {α : Type} (l : Ledger) (done : Except LedgerError (α × Ledger)) :
    (l.without k).afterCall (done.map (Ledger.leaving k)) = (l.afterCall done).without k := by
  cases done <;> rfl

/-- A move in the world at a handle makes no difference without the handle. -/
theorem without_perform (hs : Ledger.Sound s.catalog s.ledger handed) (hAt : m.isAt k = true) :
    (s.perform m).without k = s.without k ∧ s.handsOut? m = none := by
  cases m with
  | register y kind given =>
    refine ⟨?_, rfl⟩
    cases hRegister : s.ledger.register s.catalog y kind given with
    | error e => rw [perform_register_of_error hRegister]
    | ok done =>
      obtain ⟨w, w', hKnown, hDone, hPut⟩ := Ledger.register_eq_ok hRegister
      -- the world that is put back stands at the handle, where nothing is kept
      have hKey : w'.handle.key = k := by
        rw [(World.extends_of_register hDone).head.handle, (hs.world? hKnown).1]
        exact of_decide_eq_true hAt
      rw [perform_register_of_ok hRegister, hPut]
      exact congrArg (Scene.mk s.catalog) (Ledger.without_putWorld hKey)
  | deregister y kind given =>
    refine ⟨?_, rfl⟩
    cases hDeregister : s.ledger.deregister y kind given with
    | error e => rw [perform_deregister_of_error hDeregister]
    | ok done =>
      obtain ⟨w, w', hKnown, hDone, hPut⟩ := Ledger.deregister_eq_ok hDeregister
      have hKey : w'.handle.key = k := by
        rw [(World.sameHead_of_deregister hDone).handle, (hs.world? hKnown).1]
        exact of_decide_eq_true hAt
      rw [perform_deregister_of_ok hDeregister, hPut]
      exact congrArg (Scene.mk s.catalog) (Ledger.without_putWorld hKey)
  | declare | deploy | destroy => cases hAt

/-- **A move elsewhere does the same without a live instance that it spares.** -/
theorem perform_without (hs : Ledger.Sound s.catalog s.ledger handed)
    (hAlive : k ∈ s.ledger.allocator.keys) (hSpares : m.Spares k) (hAway : m.isAt k = false) :
    (s.without k).perform m = (s.perform m).without k ∧
      (s.without k).handsOut? m = s.handsOut? m := by
  cases m with
  | declare kind name id =>
    refine ⟨?_, rfl⟩
    simp only [perform, without]
    cases s.catalog.declare kind name id <;> rfl
  | deploy given args =>
    -- the next handle is not that of the instance, which is alive
    have hFresh : s.ledger.allocator.fresh.key ≠ k := by
      intro hKey
      rw [← hKey] at hAlive
      exact hs.fresh_not_mem_keys hAlive
    have hDeploy : (s.ledger.without k).deploy s.catalog given (Argument.values args) =
        (s.ledger.deploy s.catalog given (Argument.values args)).map (Ledger.leaving k) :=
      Ledger.deploy_without hFresh hSpares
    constructor
    · simp only [perform, without, hDeploy, afterCall_leaving]
    · simp only [handsOut?, without, hDeploy]
      cases s.ledger.deploy s.catalog given (Argument.values args) <;> rfl
  | destroy given =>
    refine ⟨?_, rfl⟩
    have hDestroy : (s.ledger.without k).destroy given =
        (s.ledger.destroy given).map (Ledger.leaving k) := Ledger.destroy_without hSpares
    simp only [perform, without, hDestroy, afterCall_leaving]
  | register y kind given =>
    refine ⟨?_, rfl⟩
    simp only [perform, without, Ledger.register_without hs (of_decide_eq_false hAway),
      afterCall_leaving]
  | deregister y kind given =>
    refine ⟨?_, rfl⟩
    simp only [perform, without, Ledger.deregister_without hs (of_decide_eq_false hAway),
      afterCall_leaving]

/-- An instance that is spared stays alive: no move but its own destruction takes its handle
back. -/
theorem Effect.alive (h : s.Effect m s' out) (hAlive : k ∈ s.ledger.allocator.keys)
    (hSpares : m.Spares k) : k ∈ s'.ledger.allocator.keys := by
  cases h with
  | refused => exact hAlive
  | declared => exact hAlive
  | @deployed given args p x l hDeploy =>
    show k ∈ l.allocator.keys
    rw [Ledger.allocator_of_deploy hDeploy, Allocator.mem_keys_allocate]
    exact .inl hAlive
  | @destroyed given l hDestroy =>
    obtain ⟨-, rfl⟩ := Ledger.destroy_eq_ok hDestroy
    show k ∈ (s.ledger.allocator.without given.key).keys
    rw [Allocator.keys_without, List.mem_filter]
    exact ⟨hAlive, by simpa using Ne.symm hSpares⟩
  | registered hRegister =>
    obtain ⟨w, w', -, -, rfl⟩ := Ledger.register_eq_ok hRegister
    rwa [Ledger.allocator_putWorld]
  | deregistered hDeregister =>
    obtain ⟨w, w', -, -, rfl⟩ := Ledger.deregister_eq_ok hDeregister
    rwa [Ledger.allocator_putWorld]

/-- **What is done elsewhere does not depend on a live instance that is spared**: without it, the
history without the moves at its handle leaves the same, and gives out the same handles. -/
theorem without_after (hReached : Ledger.Reached s.catalog s.ledger handed)
    (hAlive : k ∈ s.ledger.allocator.keys) (hSpares : ∀ m ∈ moves, m.Spares k) :
    (s.without k).after (moves.filter fun m => !m.isAt k) = (s.after moves).without k ∧
      (s.without k).handedOut (moves.filter fun m => !m.isAt k) = s.handedOut moves ∧
      k ∈ (s.after moves).ledger.allocator.keys := by
  induction moves generalizing s handed with
  | nil => exact ⟨rfl, rfl, hAlive⟩
  | cons m rest ih =>
    have hEffect := s.effect m
    have hFirst := hSpares m (.head _)
    obtain ⟨hSame, hOut, hLater⟩ := ih (hEffect.reached hReached) (hEffect.alive hAlive hFirst)
      fun m' hm => hSpares m' (.tail _ hm)
    rw [after_cons, handedOut]
    by_cases hAt : m.isAt k = true
    -- a move at the handle is left out
    · obtain ⟨hGone, hNone⟩ := without_perform hReached.sound hAt
      rw [List.filter_cons_of_neg (by simp [hAt]), ← hGone, hNone]
      exact ⟨hSame, hOut, hLater⟩
    · obtain ⟨hStep, hSameOut⟩ :=
        perform_without hReached.sound hAlive hFirst (Bool.not_eq_true _ ▸ hAt)
      rw [List.filter_cons_of_pos (by simp [hAt]), after_cons, handedOut, hStep, hSameOut, hOut]
      exact ⟨hSame, rfl, hLater⟩

/-! ## At a site -/

variable {site site' : Site} {id : TemplateId} {args : List Argument} {given : Value} {e : Error}

/-- The destruction of a live instance goes through unless a planned fault strikes. -/
theorem exists_site_destroy (hMeet : (Fault.meet .destroy site.faults).1 = none)
    (hAlive : x.key ∈ site.ledger.allocator.keys) :
    ∃ site', Site.destroy x site = .ok () site' ∧
      site'.ledger = site.ledger.remove x.key (site.ledger.allocator.without x.key) := by
  have hDestroy : site.ledger.destroy x =
      .ok ((), site.ledger.remove x.key (site.ledger.allocator.without x.key)) :=
    Ledger.destroy_of_mem hAlive
  have hCall : Site.callBy x none .destroy (fun l => l.destroy x) site = .ok () _ :=
    Site.callBy_eq_ok_iff.2 ⟨hMeet, rfl, rfl, _, hDestroy, rfl⟩
  exact ⟨_, bind_of_ok hCall, rfl⟩

/-- A deployment that fails without a fault has been refused by the ledger, or an argument has
raised an error. -/
theorem site_deploy_error_cases (hMeet : (Fault.meet .deploy site.faults).1 = none)
    (hFlaw : s.catalog.deploymentFlaw? (.template id) = none)
    (hFails : Site.deploy s.catalog (.template id) args site = .error e site') :
    e.kind = .deployRejected ∨ ∃ a ∈ args, ∃ r, a.Raises r ∧ e = .ledger (.untold r) := by
  cases hDeploy : site.ledger.deploy s.catalog (.template id) args with
  | ok done =>
    have hDone := Site.deploy_eq_ok_iff.2 ⟨hMeet, rfl, hFlaw, done.1.1, done.2, hDeploy, rfl⟩
    rw [hDone] at hFails
    cases hFails
  -- no fault is met and the template can be looked up, so what is raised is the ledger's refusal
  | error refusal =>
    have hRefused : Site.deploy s.catalog (.template id) args site =
        .error (.ledger refusal) (site.met .deploy) := by
      rw [Site.deploy, hFlaw]
      exact bind_of_error (Site.callBy_of_refused hMeet rfl (by rw [hDeploy]))
    rw [hRefused] at hFails
    cases hFails
    rcases Ledger.refuses_deploy hDeploy with ⟨-, hKind⟩ | ⟨a, hMem, r, hRaises, rfl⟩
    · exact .inl hKind
    · exact .inr ⟨a, hMem, r, hRaises, rfl⟩

/-- **A deployment is accepted exactly if it is planned, and its instance is destroyed without a
trace.** The arguments may be of any type. A deployment that is not accepted is rejected, or an
error is raised that an argument raises when it is looked at; and it changes nothing. After one that
is accepted, let anything be done that spares the instance: all deployments that are accepted are
there to choose from, as each of them is one with arguments of known types. Then the instance can be
destroyed, and what is alive, the templates and the worlds are those of a ledger which has skipped
the handle of the instance, after the same calls but for those in the world there. -/
theorem deploy_accepted_and_undone (hReached : Ledger.Reached s.catalog s.ledger handed)
    (hKinds : ∀ d, s.catalog.get? (.template id) = some d → ∃ k, d.kind = .kind k)
    (hLedger : site.ledger = s.ledger) (hMeet : (Fault.meet .deploy site.faults).1 = none) :
    ((∃ x site', Site.deploy s.catalog (.template id) args site = .ok x site') ↔
        ∃ p, Ledger.Planned s.catalog s.ledger (.template id) args p) ∧
      (∀ e site', Site.deploy s.catalog (.template id) args site = .error e site' →
        (e.kind = .deployRejected ∨ ∃ a ∈ args, ∃ r, a.Raises r ∧ e = .ledger (.untold r)) ∧
          site' = site.met .deploy) ∧
      (∀ (c : Catalog) (l : Ledger) given more done, l.deploy c given more = .ok done →
        ∃ vs : List Value, l.deploy c given (Argument.values vs) = .ok done) ∧
      ∀ x site', Site.deploy s.catalog (.template id) args site = .ok x site' →
        x = s.ledger.allocator.fresh ∧ ∀ moves : List Move, (∀ m ∈ moves, m.Spares x.key) →
          let start : Scene := ⟨s.catalog, site'.ledger⟩
          let skipped : Scene := ⟨s.catalog, s.ledger.skipping⟩
          let others := moves.filter fun m => !m.isAt x.key
          skipped.handedOut others = start.handedOut moves ∧
          ∀ later : Site, later.ledger = (start.after moves).ledger →
            (Fault.meet .destroy later.faults).1 = none →
              ∃ later', Site.destroy x later = .ok () later' ∧
                later'.ledger.Undone x.key (skipped.after others).ledger := by
  have hFlaw : s.catalog.deploymentFlaw? (.template id) = none :=
    Catalog.deploymentFlaw?_of_kinds hReached.catalog.consistent hKinds
  refine ⟨?_, ?_, fun c l given more done => Ledger.exists_values_of_deploy, ?_⟩
  · rw [← Ledger.exists_deploy_iff, ← hLedger]
    constructor
    · rintro ⟨x, site', hDeploy⟩
      obtain ⟨-, -, -, p, l, hDone, -⟩ := Site.deploy_eq_ok_iff.1 hDeploy
      exact ⟨(p, x), l, hDone⟩
    · rintro ⟨⟨p, x⟩, l, hDone⟩
      exact ⟨x, _, Site.deploy_eq_ok_iff.2 ⟨hMeet, rfl, hFlaw, p, l, hDone, rfl⟩⟩
  · intro e site' hFails
    exact ⟨site_deploy_error_cases hMeet hFlaw hFails, Site.deploy_eq_error hFails⟩
  · intro x site' hDeploy
    obtain ⟨-, -, -, p, l, hDone, rfl⟩ := Site.deploy_eq_ok_iff.1 hDeploy
    rw [hLedger] at hDone
    refine ⟨Ledger.fresh_of_deploy hDone, fun moves hSpares => ?_⟩
    intro start skipped others
    have hStart : Ledger.Reached start.catalog start.ledger (handed ++ [x]) :=
      .deploy hReached hDone
    have hAlive : x.key ∈ start.ledger.allocator.keys := by
      show x.key ∈ l.allocator.keys
      rw [Ledger.allocator_of_deploy hDone, Allocator.mem_keys_allocate,
        Ledger.fresh_of_deploy hDone]
      exact .inr rfl
    -- without the instance, the ledger is the one that has skipped its handle, and this is kept by
    -- all that follows
    have hSkipped : start.without x.key = skipped :=
      congrArg (Scene.mk s.catalog) (Ledger.without_of_deploy hReached.sound hDone)
    obtain ⟨hSame, hOut, hLater⟩ := without_after hStart hAlive hSpares
    rw [hSkipped] at hSame hOut
    refine ⟨hOut, fun later hHere hSpared => ?_⟩
    rw [← hHere] at hLater
    obtain ⟨later', hDestroy, hLeft⟩ := exists_site_destroy hSpared hLater
    refine ⟨later', hDestroy, ?_⟩
    -- and to destroy the instance is to do without it
    have hShort : (skipped.after others).ledger = later.ledger.without x.key := by
      rw [hSame, hHere]
      rfl
    rw [hLeft, hShort]
    exact Ledger.undone_remove ..

/-- A pond is deployed, then a lake, and in each of them fish are registered. When the pond has been
destroyed, the lake is left with what is registered there. -/
theorem deploy_accepted_and_undone_pond :
    let fish : Value := .template (.ofInt 3)
    let pump : InstanceHandle := .ofInt 0x1000
    let pond : InstanceHandle := .ofInt 0x1001
    let lake : InstanceHandle := .ofInt 0x1002
    let s := (Scene.opening .empty).after
      [.declare (.kind .world) (.str "water") (some (.template (.ofInt 1))),
       .declare (.kind .executor) (.str "pump") (some (.template (.ofInt 2))),
       .declare (.kind .component) (.str "fish") (some fish),
       .deploy (.template (.ofInt 2)) []]
    let moves : List Move :=
      [.register pond .component fish,
       .deploy (.template (.ofInt 1)) [.str "lake", .handle pump],
       .register lake .component fish, .deregister pond .component fish]
    ∃ site', Site.deploy s.catalog (.template (.ofInt 1))
        (Argument.values [.str "pond", .handle pump]) (.opened s.ledger []) = .ok pond site' ∧
      ∃ later',
        Site.destroy pond (.opened (Scene.after ⟨s.catalog, site'.ledger⟩ moves).ledger []) =
          .ok () later' ∧
        later'.ledger.Undone pond.key (Scene.after ⟨s.catalog, s.ledger.skipping⟩
          [.deploy (.template (.ofInt 1)) [.str "lake", .handle pump],
           .register lake .component fish]).ledger ∧
        later'.ledger.allocator.alive = [pump, lake] := by
  intro fish pump pond lake s moves
  have hReached : Ledger.Reached s.catalog s.ledger [pump] := reached_of_opening .empty _
  have hKinds : ∀ d, s.catalog.get? (.template (.ofInt 1)) = some d → ∃ k, d.kind = .kind k := by
    intro d hGet
    cases hGet
    exact ⟨_, rfl⟩
  obtain ⟨site', hDeploy⟩ : ∃ site', Site.deploy s.catalog (.template (.ofInt 1))
      (Argument.values [.str "pond", .handle pump]) (.opened s.ledger []) = .ok pond site' :=
    ⟨_, rfl⟩
  have hSpares : ∀ m ∈ moves, m.Spares pond.key := by
    intro m hMem
    simp only [moves, List.mem_cons, List.not_mem_nil, or_false] at hMem
    obtain rfl | rfl | rfl | rfl := hMem
    · trivial
    · rintro ⟨name, x, hArgs, hKey⟩
      cases hArgs
      cases hKey
    · trivial
    · trivial
  have hOthers : (moves.filter fun m => !m.isAt pond.key) =
      [.deploy (.template (.ofInt 1)) [.str "lake", .handle pump],
       .register lake .component fish] := rfl
  obtain ⟨-, hUndone⟩ :=
    (deploy_accepted_and_undone hReached hKinds rfl rfl).2.2.2 pond site' hDeploy
  obtain ⟨later', hDestroy, hLeft⟩ := (hUndone moves hSpares).2 (.opened _ []) rfl rfl
  rw [hOthers] at hLeft
  refine ⟨site', hDeploy, later', hDestroy, hLeft, ?_⟩
  rw [hLeft.allocator]
  rfl

/-- **Not every deployment that is not accepted is rejected.** A handle with a text in it is handed
over for an executor. It is equal to no handle, so nothing is deployed on it; but it cannot be
shown, and the error that it raises then is no rejection. -/
theorem rejection_untold :
    let abc : Stranger :=
      ⟨some (.ok none), .ok "InstanceHandle(value='abc')",
        .error ⟨.badType, "'str' object cannot be interpreted as an integer"⟩⟩
    let args : List Argument := [.value (.str "pond"), .stranger abc]
    let s := (Scene.opening .empty).after
      [.declare (.kind .world) (.str "water") (some (.template (.ofInt 1)))]
    (¬∃ p, Ledger.Planned s.catalog s.ledger (.template (.ofInt 1)) args p) ∧
    ∃ e, Site.deploy s.catalog (.template (.ofInt 1)) args (.opened s.ledger []) =
        .error e (.opened s.ledger []) ∧ e.kind = .badType := by
  intro abc args s
  constructor
  -- as an executor the stranger is equal to no handle
  · rintro ⟨p, hPlanned⟩
    change Ledger.Planned _ _ _ [.value (.str "pond"), .stranger abc] p at hPlanned
    cases hPlanned with
    | world hGet hKind hName hHandle hFree hAlive => cases hHandle
  · exact ⟨.ledger (.untold ⟨.badType, "'str' object cannot be interpreted as an integer"⟩),
      rfl, rfl⟩

end Scene

end WorldForge

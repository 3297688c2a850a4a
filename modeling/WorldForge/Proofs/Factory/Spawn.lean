import WorldForge.Proofs.Budget
import WorldForge.Proofs.Factory.Operation

/-!
# When a spawn succeeds

Without planned faults, whether a spawn succeeds can be told beforehand (`CanSpawn`): its template
is a world's, its name is a text, its executor is alive and no world, its parts are declared and do
not repeat, and there are steps enough. That no part repeats is what keeps every name free until its
part is registered, since in a faithful world a name is taken exactly if its template is there.

Main results:

* `forM_isOk_iff` — when parts of one kind can be registered one after the other;
* `makeWorld_isOk_iff`, `makeWorld_eq_ok` — when a world can be made, and what is made;
* `gained_of_makeWorld` — what the tables of a ledger are once a world has been made;
* `spawn_succeeds_iff` — when a spawn succeeds, and everything that it changes.
-/

namespace WorldForge

namespace Work

variable {c : Catalog} {x : InstanceHandle} {w : World} {k : PartKind} {t name : Value}
  {b b' : Workbench} {p q : Budget} {s : Site} {recipe : Recipe}
  {ids components systems : List Value}

/-! ## Registering -/

/-- Without faults, a part can be registered if it is declared and not there yet. -/
theorem register_isOk_iff (hSpare : ∀ call, Fault.Spare s.faults call) (hc : c.Consistent)
    (hFind : s.ledger.worlds.find? x.key = some w) (hW : w.Faithful c) :
    (∃ s', Site.register c x k t s = .ok () s') ↔ c.Declares k t ∧ t.key ∉ w.templateKeys k := by
  constructor
  · rintro ⟨s', hRegister⟩
    obtain ⟨-, -, -, d, l, hLedger, -⟩ := Site.register_eq_ok_iff.1 hRegister
    obtain ⟨v, w', hWorld, hDone, -⟩ := Ledger.register_eq_ok hLedger
    rw [Ledger.world?_of_find? hFind] at hWorld
    cases hWorld
    obtain ⟨hGet, hKind, hFree, -⟩ := World.register_eq_ok_iff.1 hDone
    refine ⟨⟨d, hGet, hKind⟩, fun hMem => ?_⟩
    rw [(World.contains_iff_mem_templateKeys hc hW hGet hKind).2 hMem] at hFree
    cases hFree
  -- nothing is in the way: no fault, no key that cannot be looked up, and no entry under the name
  · rintro ⟨⟨d, hGet, hKind⟩, hNew⟩
    have hFree : (w.roster k).contains d.name.key = false := by
      rw [← Bool.not_eq_true, World.contains_iff_mem_templateKeys hc hW hGet hKind]
      exact hNew
    have hDone := World.register_eq_ok_iff.2 ⟨hGet, hKind, hFree, rfl⟩
    obtain ⟨l, hLedger⟩ : ∃ l, s.ledger.register c x k t = .ok (d, l) := by
      rw [Ledger.register, Ledger.world?_of_find? hFind]
      simp only [hDone]
      exact ⟨_, rfl⟩
    have hMeet : (Fault.meet (.register k) s.faults).1 = none := by
      rw [Fault.meet_of_forall_ne (hSpare _)]
    have hFlaw : c.registrationFlaw? k t = none :=
      Catalog.registrationFlaw?_of_kind (hc.strays t) hGet (Declaration.isOf_iff.1 hKind)
        (hc.keyed hGet)
    exact ⟨_, Site.register_eq_ok_iff.2 ⟨hMeet, hc.fixed hGet, hFlaw, d, l, hLedger, rfl⟩⟩

/-- **When a part can be registered**, if no fault strikes: a step can be paid, the template is
declared as a part of its kind, and none with this key is registered in the world. -/
theorem registerPart_isOk_iff (hSpare : ∀ call, Fault.Spare b.site.faults call)
    (hc : c.Consistent) (hFind : b.site.ledger.worlds.find? x.key = some w) (hW : w.Faithful c)
    (hPurse : b.purse = .budget p) :
    (∃ b', registerPart c x k t b = .ok () b') ↔
      p.Covers 1 ∧ c.Declares k t ∧ t.key ∉ w.templateKeys k := by
  rw [← register_isOk_iff hSpare hc hFind hW, Budget.covers_one_iff]
  constructor
  · rintro ⟨b', hDone⟩
    obtain ⟨q, s, hPay, hRegister, -⟩ := registerPart_eq_ok_iff.1 hDone
    rw [hPurse] at hPay
    obtain ⟨p', q', hp, hCharge, -⟩ := Purse.payStep_eq_ok_iff.1 hPay
    cases hp
    exact ⟨⟨q', hCharge⟩, s, hRegister⟩
  · rintro ⟨⟨q, hCharge⟩, s, hRegister⟩
    have hPay : b.purse.payStep = .ok (.budget q) := by
      rw [hPurse]
      exact Purse.payStep_eq_ok_iff.2 ⟨p, q, rfl, hCharge, rfl⟩
    exact ⟨_, registerPart_eq_ok_iff.2 ⟨q, s, hPay, hRegister, rfl⟩⟩

/-- What the registration of parts leaves for those after them. -/
theorem Enrolled.next {parts : List Part} {n : Nat} (h : Enrolled c x parts n b b')
    (hSpare : ∀ call, Fault.Spare b.site.faults call)
    (hFind : b.site.ledger.worlds.find? x.key = some w) (hKey : w.handle.key = x.key)
    (hW : w.Faithful c) (hPurse : b.purse = .budget p) :
    ∃ w₁, (∀ call, Fault.Spare b'.site.faults call) ∧
      b'.site.ledger.worlds.find? x.key = some w₁ ∧ w₁.handle.key = x.key ∧ w₁.Faithful c ∧
      b'.purse = .budget { p with used := p.used + n } ∧
      ∀ k, w₁.templateKeys k = w.templateKeys k ++ (ofKind k parts).map Value.key := by
  obtain ⟨w₁, hExtends, hLedger⟩ := h.ledger hFind hKey
  have hKey₁ : w₁.handle.key = x.key := by rw [hExtends.head.handle, hKey]
  have hFind₁ : b'.site.ledger.worlds.find? x.key = some w₁ := by
    rw [hLedger, ← hKey₁]
    exact Ledger.find?_withWorld ..
  refine ⟨w₁, fun call => h.spare (hSpare call), hFind₁, hKey₁,
    hExtends.faithful hW h.declared, ?_, hExtends.templateKeys_eq h.declared⟩
  rw [h.purse, hPurse]
  rfl

/-- **When parts of one kind can be registered.** There are steps for all of them, each is declared,
none repeats, and none is there yet. -/
theorem forM_isOk_iff (hSpare : ∀ call, Fault.Spare b.site.faults call) (hc : c.Consistent)
    (hFind : b.site.ledger.worlds.find? x.key = some w) (hKey : w.handle.key = x.key)
    (hW : w.Faithful c) (hPurse : b.purse = .budget p) (hZero : p.Covers 0) :
    (∃ b', ids.forM (registerPart c x k) b = .ok () b') ↔
      p.Covers ids.length ∧ (∀ t ∈ ids, c.Declares k t) ∧ (ids.map Value.key).Nodup ∧
        ∀ t ∈ ids, t.key ∉ w.templateKeys k := by
  induction ids generalizing b w p with
  | nil =>
    constructor
    · intro _
      exact ⟨hZero, by simp⟩
    · intro _
      exact ⟨b, rfl⟩
  | cons t rest ih =>
    -- the others meet a world in which `t` is taken, and a purse that has paid for it
    have hRest : ∀ b₁, registerPart c x k t b = .ok () b₁ → p.Covers 1 →
        ((∃ b', rest.forM (registerPart c x k) b₁ = .ok () b') ↔
          p.Covers (1 + rest.length) ∧ (∀ s ∈ rest, c.Declares k s) ∧
            (rest.map Value.key).Nodup ∧ ∀ s ∈ rest, s.key ∉ w.templateKeys k ++ [t.key]) := by
      intro b₁ hFirst hOne
      obtain ⟨w₁, hSpare₁, hFind₁, hKey₁, hW₁, hPurse₁, hKeys⟩ :=
        (enrolled_of_registerPart hFirst).next hSpare hFind hKey hW hPurse
      rw [ih hSpare₁ hFind₁ hKey₁ hW₁ hPurse₁ (Budget.covers_add_iff.2 hOne),
        Budget.covers_add_iff, hKeys, ofKind_self]
      rfl
    have hFirst := registerPart_isOk_iff (k := k) (t := t) hSpare hc hFind hW hPurse
    constructor
    · rintro ⟨b', hRun⟩
      obtain ⟨_, b₁, hRegister, hRun⟩ := bind_eq_ok_iff.1 hRun
      obtain ⟨hOne, hDeclared, hNew⟩ := hFirst.1 ⟨b₁, hRegister⟩
      obtain ⟨hCovers, hAll, hNodup, hFree⟩ := (hRest b₁ hRegister hOne).1 ⟨b', hRun⟩
      refine ⟨?_, ?_, ?_, ?_⟩
      · rwa [List.length_cons, Nat.add_comm]
      · exact List.forall_mem_cons.2 ⟨hDeclared, hAll⟩
      · rw [List.map_cons, List.nodup_cons, List.mem_map]
        refine ⟨?_, hNodup⟩
        rintro ⟨s, hs, hKeys⟩
        exact hFree s hs (by simp [hKeys])
      · refine List.forall_mem_cons.2 ⟨hNew, fun s hs hMem => hFree s hs ?_⟩
        exact List.mem_append_left _ hMem
    · rintro ⟨hCovers, hAll, hNodup, hFree⟩
      rw [List.length_cons, Nat.add_comm] at hCovers
      rw [List.map_cons, List.nodup_cons, List.mem_map] at hNodup
      rw [List.forall_mem_cons] at hAll hFree
      have hOne : p.Covers 1 := hCovers.mono (Nat.le_add_right ..)
      obtain ⟨b₁, hRegister⟩ := hFirst.2 ⟨hOne, hAll.1, hFree.1⟩
      obtain ⟨b', hRun⟩ := (hRest b₁ hRegister hOne).2 ⟨hCovers, hAll.2, hNodup.2, by
        intro s hs hMem
        rcases List.mem_append.1 hMem with hOld | hTaken
        · exact hFree.2 s hs hOld
        · exact hNodup.1 ⟨s, hs, List.mem_singleton.1 hTaken⟩⟩
      exact ⟨b', bind_eq_ok_iff.2 ⟨(), b₁, hRegister, hRun⟩⟩

/-- A run over parts of one kind that succeeds has registered all of them. -/
theorem enrolled_of_forM (h : ids.forM (registerPart c x k) b = .ok () b') :
    Enrolled c x (ids.map (Prod.mk k)) ids.length b b' := by
  have hEnrolls := enrolls_forM c x k ids b
  rw [ends_of_ok h] at hEnrolls
  obtain ⟨done, n, hDone, -, -, hAll⟩ := hEnrolls
  obtain ⟨rfl, rfl⟩ := hAll rfl
  rwa [List.length_map] at hDone

/-- **When components and systems can be registered in a world.** -/
theorem registerParts_isOk_iff {world : Value} (hSpare : ∀ call, Fault.Spare b.site.faults call)
    (hc : c.Consistent) (hFixed : world.changeable? = none)
    (hFind : b.site.ledger.worlds.find? world.key = some w) (hKey : w.handle.key = world.key)
    (hW : w.Faithful c) (hPurse : b.purse = .budget p) (hZero : p.Covers 0) :
    (∃ b', registerParts c world (.list components) (.list systems) b = .ok () b') ↔
      p.Covers (components.length + systems.length) ∧
        ((∀ t ∈ components, c.Declares .component t) ∧ (components.map Value.key).Nodup ∧
          ∀ t ∈ components, t.key ∉ w.templateKeys .component) ∧
        (∀ t ∈ systems, c.Declares .system t) ∧ (systems.map Value.key).Nodup ∧
          ∀ t ∈ systems, t.key ∉ w.templateKeys .system := by
  -- the dispatcher is given out, and the site is as it was before
  have hDispatch := wrapping_dispatcher_of_spare (hSpare _) hFixed hFind
  have hRun : registerParts c world (.list components) (.list systems) b =
      (components.forM (registerPart c w.handle .component) >>= fun _ =>
        systems.forM (registerPart c w.handle .system)) b := by
    rw [registerParts, bind_of_ok hDispatch]
    rfl
  rw [← hKey] at hFind
  have hFirst : (∃ b', components.forM (registerPart c w.handle .component) b = .ok () b') ↔ _ :=
    forM_isOk_iff hSpare hc hFind rfl hW hPurse hZero
  -- the systems meet a world with more components, but no more systems
  have hSecond : ∀ b₁, components.forM (registerPart c w.handle .component) b = .ok () b₁ →
      p.Covers components.length →
      ((∃ b', systems.forM (registerPart c w.handle .system) b₁ = .ok () b') ↔
        p.Covers (components.length + systems.length) ∧ (∀ t ∈ systems, c.Declares .system t) ∧
          (systems.map Value.key).Nodup ∧ ∀ t ∈ systems, t.key ∉ w.templateKeys .system) := by
    intro b₁ hDone hCovers
    obtain ⟨w₁, hSpare₁, hFind₁, hKey₁, hW₁, hPurse₁, hKeys⟩ :=
      (enrolled_of_forM hDone).next hSpare hFind rfl hW hPurse
    rw [forM_isOk_iff hSpare₁ hc hFind₁ hKey₁ hW₁ hPurse₁ (Budget.covers_add_iff.2 hCovers),
      Budget.covers_add_iff, hKeys, ofKind_map_of_ne (by simp)]
    simp
  rw [hRun]
  -- a part covers fewer steps than the whole, so that enough steps for all are enough for each kind
  constructor
  · rintro ⟨b', hEnd⟩
    obtain ⟨_, b₁, hDone, hEnd⟩ := bind_eq_ok_iff.1 hEnd
    obtain ⟨hCovers, hComponents⟩ := hFirst.1 ⟨b₁, hDone⟩
    obtain ⟨hAll, hSystems⟩ := (hSecond b₁ hDone hCovers).1 ⟨b', hEnd⟩
    exact ⟨hAll, hComponents, hSystems⟩
  · rintro ⟨hAll, hComponents, hSystems⟩
    have hCovers : p.Covers components.length := hAll.mono (Nat.le_add_right ..)
    obtain ⟨b₁, hDone⟩ := hFirst.2 ⟨hCovers, hComponents⟩
    obtain ⟨b', hEnd⟩ := (hSecond b₁ hDone hCovers).2 ⟨hAll, hSystems⟩
    exact ⟨b', bind_eq_ok_iff.2 ⟨(), b₁, hDone, hEnd⟩⟩

/-! ## Making a world -/

/-- **When a spawn can succeed**, with `p` to pay for its steps. -/
structure CanSpawn (c : Catalog) (l : Ledger) (recipe : Recipe) (name : Value)
    (components systems : List Value) (p : Budget) : Prop where
  template : ∃ d, c.get? recipe.template = some d ∧ d.isOf .world = true
  name : ∃ text, name = .str text ∧ text ≠ ""
  alive : l.isAlive (.handle recipe.executor) = true
  notWorld : l.liveWorld? (.handle recipe.executor) = none
  componentsDeclared : ∀ t ∈ components, c.Declares .component t
  componentsDistinct : (components.map Value.key).Nodup
  systemsDeclared : ∀ t ∈ systems, c.Declares .system t
  systemsDistinct : (systems.map Value.key).Nodup
  covered : p.Covers (components.length + systems.length)

/-- Without faults, a world is deployed if the ledger takes its template, name and executor. -/
theorem deployWorld_isOk_iff (hSpare : ∀ call, Fault.Spare b.site.faults call)
    (hc : c.Consistent) :
    (∃ x b', deployWorld c recipe name b = .ok x b') ↔
      (∃ d, c.get? recipe.template = some d ∧ d.isOf .world = true) ∧
        (∃ text, name = .str text ∧ text ≠ "") ∧
        b.site.ledger.worlds.contains recipe.executor.key = false ∧
        b.site.ledger.allocator.isAlive recipe.executor.key = true := by
  constructor
  · rintro ⟨x, b', hDone⟩
    obtain ⟨s, hSite, -⟩ := deployWorld_eq_ok_iff.1 hDone
    obtain ⟨-, -, -, p, l, hLedger, -⟩ := Site.deploy_eq_ok_iff.1 hSite
    obtain ⟨hPlan, -⟩ := Ledger.deploy_eq_ok hLedger
    obtain ⟨hTemplate, ⟨text, hName, hText, -⟩, hExecutor⟩ := Ledger.plan_eq_ok_iff.1 hPlan
    exact ⟨hTemplate, ⟨text, hName, hText⟩, hExecutor⟩
  · rintro ⟨⟨d, hGet, hWorld⟩, ⟨text, hName, hText⟩, hExecutor⟩
    have hPlan := Ledger.plan_eq_ok_iff.2
      ⟨⟨d, hGet, hWorld⟩, ⟨text, hName, hText, rfl⟩, hExecutor⟩
    obtain ⟨p, x, l, hLedger⟩ : ∃ p x l, b.site.ledger.deploy c recipe.template
        (Argument.values [name, .handle recipe.executor]) = .ok ((p, x), l) := by
      rw [Ledger.deploy]
      simp only [hPlan]
      exact ⟨_, _, _, rfl⟩
    have hMeet : (Fault.meet .deploy b.site.faults).1 = none := by
      rw [Fault.meet_of_forall_ne (hSpare _)]
    -- a template that is declared a world can be looked up and has a kind
    have hFlaw : c.deploymentFlaw? recipe.template = none :=
      Catalog.deploymentFlaw?_of_kind (hc.strays _) hGet (Declaration.isOf_iff.1 hWorld)
    exact ⟨x, _, deployWorld_eq_ok_iff.2
      ⟨_, Site.deploy_eq_ok_iff.2 ⟨hMeet, hc.fixed hGet, hFlaw, p, l, hLedger, rfl⟩, rfl⟩⟩

/-- Where a spawn can succeed, its world is deployed. -/
theorem CanSpawn.exists_deployed (h : CanSpawn c b.site.ledger recipe name components systems p)
    (hSpare : ∀ call, Fault.Spare b.site.faults call) (hc : c.Consistent) :
    ∃ x b', deployWorld c recipe name b = .ok x b' := by
  have hBusy : b.site.ledger.worlds.contains recipe.executor.key = false := by
    rw [← Bool.not_eq_true, Table.contains_iff, ← Table.find?_eq_none_iff]
    exact h.notWorld
  exact (deployWorld_isOk_iff hSpare hc).2 ⟨h.template, h.name, hBusy, h.alive⟩

/-- **When a world can be made with its parts.** -/
theorem makeWorld_isOk_iff (hSpare : ∀ call, Fault.Spare b.site.faults call)
    (hc : c.Consistent) (hPurse : b.purse = .budget p) (hZero : p.Covers 0) :
    (∃ x b', makeWorld c recipe name components systems b = .ok x b') ↔
      CanSpawn c b.site.ledger recipe name components systems p := by
  have hDeploy : (∃ x b', deployWorld c recipe name b = .ok x b') ↔ _ :=
    deployWorld_isOk_iff hSpare hc
  -- nothing is registered in the new world yet, so that every declared part is free
  have hParts : ∀ x b₁, deployWorld c recipe name b = .ok x b₁ →
      ((∃ b', registerParts c (.handle x) (.list components) (.list systems) b₁ = .ok () b') ↔
        p.Covers (components.length + systems.length) ∧
          ((∀ t ∈ components, c.Declares .component t) ∧ (components.map Value.key).Nodup) ∧
          (∀ t ∈ systems, c.Declares .system t) ∧ (systems.map Value.key).Nodup) := by
    intro x b₁ hDone
    obtain ⟨-, -, hSame, hFaults, text, hName, -⟩ := deployWorld_spec hDone
    have hFind : b₁.site.ledger.worlds.find? (Value.handle x).key =
        some (.bare x recipe.template text recipe.executor) :=
      (find?_of_deployWorld hDone).2 ⟨text, hName, rfl⟩
    have hSpare₁ : ∀ call, Fault.Spare b₁.site.faults call := by
      intro call
      rw [hFaults]
      exact (hSpare call).meet
    rw [registerParts_isOk_iff hSpare₁ hc rfl hFind rfl (World.faithful_bare _ _ _)
      (hSame.trans hPurse) hZero]
    simp [World.templateKeys, World.bare, World.roster, Table.empty]
  constructor
  · rintro ⟨x, b', hMade⟩
    obtain ⟨y, b₁, hDone, hRest⟩ := bind_eq_ok_iff.1 hMade
    obtain ⟨_, b₂, hRegister, -⟩ := bind_eq_ok_iff.1 hRest
    obtain ⟨hTemplate, hName, hBusy, hAlive⟩ := hDeploy.1 ⟨y, b₁, hDone⟩
    obtain ⟨hCovers, ⟨hComponents, hDistinct⟩, hSystems, hDistinct'⟩ :=
      (hParts y b₁ hDone).1 ⟨b₂, wrapping_eq_ok_iff.1 hRegister⟩
    have hIdle : b.site.ledger.liveWorld? (.handle recipe.executor) = none := by
      rw [Ledger.liveWorld?, Table.find?_eq_none_iff, ← Table.contains_iff, Bool.not_eq_true]
      exact hBusy
    exact ⟨hTemplate, hName, hAlive, hIdle, hComponents, hDistinct, hSystems, hDistinct',
      hCovers⟩
  · intro h
    obtain ⟨x, b₁, hDone⟩ := h.exists_deployed hSpare hc
    obtain ⟨b', hRegister⟩ := (hParts x b₁ hDone).2 ⟨h.covered,
      ⟨h.componentsDeclared, h.componentsDistinct⟩, h.systemsDeclared, h.systemsDistinct⟩
    exact ⟨x, b', bind_eq_ok_iff.2 ⟨x, b₁, hDone,
      bind_eq_ok_iff.2 ⟨(), b', wrapping_eq_ok_iff.2 hRegister, rfl⟩⟩⟩

/-- A world that is made is deployed first, and then all its parts are registered. -/
theorem enrolled_of_makeWorld (h : makeWorld c recipe name components systems b = .ok x b') :
    ∃ b₁, deployWorld c recipe name b = .ok x b₁ ∧
      Enrolled c x (components.map (Prod.mk .component) ++ systems.map (Prod.mk .system))
        (components.length + systems.length) b₁ b' := by
  obtain ⟨y, b₁, hDone, hRest⟩ := bind_eq_ok_iff.1 h
  obtain ⟨_, b₂, hRegister, hEnd⟩ := bind_eq_ok_iff.1 hRest
  cases hEnd
  have hEnrolls := enrolls_of_deployWorld hDone components systems
  rw [ends_of_ok (wrapping_eq_ok_iff.1 hRegister)] at hEnrolls
  -- the parts have not failed, so all of them are entered
  obtain ⟨done, n, hEnrolled, -, -, hAll⟩ := hEnrolls
  obtain ⟨rfl, rfl⟩ := hAll rfl
  exact ⟨b₁, hDone, by simpa using hEnrolled⟩

/-- A new world stands at the next handle, with all the parts that have been registered in it. -/
theorem Enrolled.made {parts : List Part} {n : Nat} {b₁ : Workbench}
    (h : Enrolled c x parts n b₁ b') (hDone : deployWorld c recipe name b = .ok x b₁) :
    ∃ text w, name = .str text ∧
      (World.bare x recipe.template text recipe.executor).Extends c parts w ∧
      b'.site.ledger = (b.site.ledger.withInstance recipe.template).withWorld w := by
  obtain ⟨rfl, -, -, -, text, hName, hLedger⟩ := deployWorld_spec hDone
  obtain ⟨w, hExtends, hMade⟩ := h.ledger ((find?_of_deployWorld hDone).2 ⟨text, hName, rfl⟩) rfl
  refine ⟨text, w, hName, hExtends, ?_⟩
  rw [hMade, hLedger, Ledger.withWorld_withWorld _ hExtends.head.handle]

/-- **What is made when a world is made.** It stands at the next handle, with all the parts. -/
theorem makeWorld_eq_ok (h : makeWorld c recipe name components systems b = .ok x b') :
    x = b.site.ledger.allocator.fresh ∧
      b'.purse = b.purse.after (components.length + systems.length) ∧
      (∀ {call}, Fault.Spare b.site.faults call → Fault.Spare b'.site.faults call) ∧
      ∃ text w, name = .str text ∧
        (World.bare x recipe.template text recipe.executor).Extends c
          (components.map (Prod.mk .component) ++ systems.map (Prod.mk .system)) w ∧
        b'.site.ledger = (b.site.ledger.withInstance recipe.template).withWorld w := by
  obtain ⟨b₁, hDone, hEnrolled⟩ := enrolled_of_makeWorld h
  obtain ⟨hFresh, -, hPurse, hFaults, -⟩ := deployWorld_spec hDone
  refine ⟨hFresh, ?_, ?_, hEnrolled.made hDone⟩
  · rw [hEnrolled.purse, hPurse]
  · intro call hSpare
    apply hEnrolled.spare
    rw [hFaults]
    exact hSpare.meet

end Work

/-- **What a ledger gains by a spawn.** One more handle is alive, that of a new world, which comes
last and has all its parts in their order. -/
structure Ledger.Gained (c : Catalog) (l : Ledger) (recipe : Recipe) (text : Text)
    (components systems : List Value) (h : InstanceHandle) (l' : Ledger) : Prop where
  handle : h = l.allocator.fresh
  allocator : l'.allocator = l.allocator.allocate.2
  templates : l'.templates.entries = l.templates.entries ++ [(h.key, .template recipe.template)]
  worlds : ∃ w, l'.worlds.entries = l.worlds.entries ++ [(h.key, w)] ∧
    w.handle = h ∧ w.template = .template recipe.template ∧ w.name = text ∧
    w.executor = recipe.executor ∧
    (w.roster .component).entries = c.registrations components ∧
    (w.roster .system).entries = c.registrations systems
  retired : l'.retired = l.retired

/-- What a new world adds to a sound ledger comes last in its tables. -/
theorem Work.Enrolled.gained {c : Catalog} {b b₁ b' : Workbench} {recipe : Recipe} {name : Value}
    {parts : List Part} {n : Nat} {x : InstanceHandle} {handed : List InstanceHandle}
    (hs : Ledger.Sound c b.site.ledger handed) (h : Enrolled c x parts n b₁ b')
    (hDone : deployWorld c recipe name b = .ok x b₁) :
    ∃ text, name = .str text ∧ b.site.ledger.Gained c recipe text (ofKind .component parts)
      (ofKind .system parts) x b'.site.ledger := by
  obtain ⟨text, w, hName, hExtends, hLedger⟩ := h.made hDone
  obtain ⟨rfl, -⟩ := deployWorld_spec hDone
  have hKey : w.handle.key = b.site.ledger.allocator.fresh.key := by
    rw [hExtends.head.handle]
    rfl
  have hNew : w.handle.key ∉ b.site.ledger.worlds.keys := by
    rw [hKey]
    exact hs.fresh_not_mem_worlds
  -- nothing is registered in a world that has just been deployed
  have hRoster : ∀ k, (w.roster k).entries = c.registrations (ofKind k parts) := by
    intro k
    rw [hExtends.entries]
    cases k <;> rfl
  refine ⟨text, hName, rfl, ?_, ?_, ⟨w, ?_, hExtends.head.handle, hExtends.head.template,
    hExtends.head.name, hExtends.head.executor, hRoster _, hRoster _⟩, ?_⟩
  · rw [hLedger]
    rfl
  · rw [hLedger]
    exact Table.entries_insert_of_not_mem _ _ hs.fresh_not_mem_templates
  · rw [hLedger, ← hKey]
    exact Table.entries_insert_of_not_mem _ _ hNew
  · rw [hLedger]
    rfl

/-- What the making of a world adds to a sound ledger. -/
theorem Work.gained_of_makeWorld {c : Catalog} {b b' : Workbench} {recipe : Recipe} {name : Value}
    {components systems : List Value} {x : InstanceHandle} {handed : List InstanceHandle}
    (hs : Ledger.Sound c b.site.ledger handed)
    (h : makeWorld c recipe name components systems b = .ok x b') :
    ∃ text, name = .str text ∧
      b.site.ledger.Gained c recipe text components systems x b'.site.ledger := by
  obtain ⟨b₁, hDone, hEnrolled⟩ := enrolled_of_makeWorld h
  have hGained := hEnrolled.gained hs hDone
  rwa [ofKind_append, ofKind_map_self, ofKind_map_of_ne (by simp), List.append_nil,
    ofKind_append, ofKind_map_of_ne (by simp), ofKind_map_self, List.nil_append] at hGained

/-! ## Telling of it -/

/-- The realm after an event log, if there is one, has been told of an event. -/
def Realm.told {κ : Type} (r : Realm κ) (sink event : Value) : Realm κ :=
  match sink with
  | .object .eventLog k => r.putSink k { r.sink k with events := (r.sink k).events ++ [event] }
  | _ => r

namespace Realm

variable {κ : Type} (r : Realm κ) {sink : Value} {k : Nat} (event : Value)

/-- To tell a log of an event changes the sinks of a realm at most, and nothing else. -/
theorem told_eq (sink : Value) : ∃ sinks, r.told sink event = { r with sinks } := by
  cases sink with
  | object kind k =>
    cases kind with
    | eventLog => exact ⟨_, rfl⟩
    | _ => exact ⟨r.sinks, rfl⟩
  | _ => exact ⟨r.sinks, rfl⟩

/-- A log that has been told of an event has it behind all others. -/
theorem sink_told (k : Nat) :
    (r.told (.object .eventLog k) event).sink k =
      { r.sink k with events := (r.sink k).events ++ [event] } :=
  (sink_putSink ..).trans (if_pos rfl)

/-- A log that is not the sink in question is told of nothing. -/
theorem sink_told_of_ne (h : sink ≠ .object .eventLog k) :
    (r.told sink event).sink k = r.sink k := by
  cases sink with
  | object kind m =>
    cases kind with
    | eventLog =>
      have hNe : k ≠ m := fun hEq => h (by rw [hEq])
      exact (sink_putSink ..).trans (if_neg hNe)
    | _ => rfl
  | _ => rfl

end Realm

/-- An event log takes every event: nobody has told it to react. -/
theorem Sink.deliver_quiet {κ : Type} {run : κ → Act κ Unit} {r : Realm κ} {sink : Value}
    (hSink : sink = .null ∨ ∃ k, sink = .object .eventLog k ∧ (r.sink k).script = [])
    (event : Value) : Sink.deliver run sink [event] r = .ok () (r.told sink event) := by
  rcases hSink with rfl | ⟨k, rfl, hScript⟩
  · rfl
  · have hNext : (r.sink k).nextReaction? = none := by
      rw [Sink.nextReaction?, hScript]
      rfl
    show (Sink.emit run k event >>= fun _ => pure ()) r = _
    have hEmit : Sink.emit run k event r = .ok () (r.told (.object .eventLog k) event) := by
      unfold Sink.emit
      rw [bind_of_ok (get_eq r), hNext]
      rfl
    rw [bind_of_ok hEmit]
    rfl

/-- So it does in whichever realm the sinks are the same. -/
theorem Sink.deliver_of_sinks {κ : Type} {run : κ → Act κ Unit} {r r₁ : Realm κ} {sink : Value}
    (hSink : sink = .null ∨ ∃ k, sink = .object .eventLog k ∧ (r.sink k).script = [])
    (hSinks : r₁.sinks = r.sinks) (event : Value) :
    Sink.deliver run sink [event] r₁ = .ok () (r₁.told sink event) := by
  have hSame : ∀ k, r₁.sink k = r.sink k := fun k => by rw [Realm.sink, Realm.sink, hSinks]
  refine Sink.deliver_quiet ?_ event
  simpa only [hSame] using hSink

namespace Realm

/-- **What a spawn that succeeds changes.** Its ledger has gained a world, an event log is told of
it, and a budget that was handed over has paid for the parts. -/
structure Spawned {κ : Type} (r : Realm κ) (i j : Nat) (recipe : Recipe) (text : Text)
    (components systems : List Value) (budget : Value) (h : InstanceHandle) (r' : Realm κ) :
    Prop where
  ledger : (r.ledger j).ledger.Gained (r.catalogFor j) recipe text components systems h
    (r'.ledger j).ledger
  others : r.SameBut j r'
  told : ∀ k, (r.factory i).sink = .object .eventLog k →
    r'.sink k = { r.sink k with events := (r.sink k).events ++ [.worldCreated h] }
  sinks : ∀ k, (r.factory i).sink ≠ .object .eventLog k → r'.sink k = r.sink k
  charged : ∀ k, budget = .object .budget k → r'.budget k =
    { r.budget k with used := (r.budget k).used + (components.length + systems.length : Nat) }
  budgets : ∀ k, budget ≠ .object .budget k → r'.budget k = r.budget k
  rest : ∃ ledgers sinks budgets entries,
    r' = { r with ledgers, sinks, budgets, trace := r.trace ++ entries }

end Realm

/-- Where no fault is planned, none is due. -/
theorem Realm.spare_of_faults {κ : Type} {r : Realm κ} {j : Nat} (h : (r.ledger j).faults = [])
    (call : LedgerCall) : Fault.Spare (r.site j).faults call := by
  intro f hMem
  change f ∈ (r.ledger j).faults at hMem
  rw [h] at hMem
  cases hMem

/-- A budget of a number of steps has this number as its limit. -/
theorem Budget.ofValue_of_numeral? {v : Value} {n : Numeral} (h : v.numeral? = some n) :
    ofValue v = ofLimit? (some n) := by
  cases v with
  | null => cases h
  | _ => simp [ofValue, Value.asSteps, h, Except.bind]

/-- The arena with an event log as the sink, and no more steps than are needed. -/
def Arena.logged : Realm Empty :=
  (realm [] [] 3).putFactory 4
    ⟨.object .ledger 1, .object .eventLog 2, .null, .holding recipe⟩

namespace Factory

variable {κ : Type} {run : κ → Act κ Unit} {i j : Nat} {r r' : Realm κ} {recipe : Recipe}
  {name budget : Value} {components systems : List Value} {handed : List InstanceHandle}
  {p : Budget} {h : InstanceHandle}

/-- What pays for a spawn is a budget that has not been overdrawn. The factory's own number of steps
only matters if no budget is handed over. -/
theorem exists_purse
    (hSteps : budget = .null → (r.factory i).stepBudget = .null ∨
      ∃ n, (r.factory i).stepBudget.numeral? = some n ∧ 0 ≤ n.toInt)
    (hBudget : budget = .null ∨ ∃ k, budget = .object .budget k ∧ (r.budget k).Reached) :
    ∃ p, (r.factory i).purse budget r = .ok (.budget p) r ∧ p.Reached ∧
      ∀ k, budget = .object .budget k → p = r.budget k := by
  rcases hBudget with rfl | ⟨k, rfl, hReached⟩
  -- without a budget, a new one is made from the factory's own number of steps
  · obtain ⟨b, hFresh, hValue⟩ : ∃ b, b.Reached ∧
        Budget.ofValue (r.factory i).stepBudget = .ok b := by
      rcases hSteps rfl with hNull | ⟨n, hNumeral, hn⟩
      · have hNone : Budget.ofLimit? none = .ok .unmetered := rfl
        rw [hNull]
        exact ⟨.unmetered, .fresh hNone, rfl⟩
      · have hLimit : Budget.ofLimit? (some n) = .ok ⟨some n, 0⟩ := by
          rw [Budget.ofLimit?, if_neg (by omega)]
        exact ⟨_, .fresh hLimit, (Budget.ofValue_of_numeral? hNumeral).trans hLimit⟩
    refine ⟨b, ?_, hFresh, fun k hk => by cases hk⟩
    simp only [purse, hValue]
    rfl
  · refine ⟨r.budget k, rfl, hReached, fun k' hk => ?_⟩
    cases hk
    rfl

section Outcome

variable {b : Workbench} {res : Except Error InstanceHandle}

/-- After its work, a spawn tells the log and reports. -/
theorem deliver_kept
    (hSink : (r.factory i).sink = .null ∨
      ∃ k, (r.factory i).sink = .object .eventLog k ∧ (r.sink k).script = [])
    (hPurse : ∃ n, b.purse = (Purse.budget p).after n)
    (hSame : ∀ k, budget = .object .budget k → p = r.budget k) (event : Value) :
    Sink.deliver run (r.factory i).sink [event] ((r.closed j b.site).kept b.purse budget) =
      .ok () (((r.closed j b.site).kept b.purse budget).told (r.factory i).sink event) := by
  obtain ⟨n, hPaid⟩ := hPurse
  rw [hPaid]
  obtain ⟨ledgers, budgets, entries, hRest⟩ :=
    (Realm.worked_kept (r := r) (j := j) (n := n) b.site ⟨p, rfl, hSame⟩).rest
  apply Sink.deliver_quiet
  rw [hRest]
  exact hSink

/-- A spawn succeeds if its world can be made, where an event log at most is told of it. -/
theorem spawn_isOk (hLedger : (r.factory i).ledger = .object .ledger j)
    (hRecipe : (r.factory i).configuration = .holding recipe)
    (hSink : (r.factory i).sink = .null ∨
      ∃ k, (r.factory i).sink = .object .eventLog k ∧ (r.sink k).script = [])
    (hBudget : budget = .null ∨ ∃ k, budget = .object .budget k)
    (hPurse : (r.factory i).purse budget r = .ok (.budget p) r)
    (hSame : ∀ k, budget = .object .budget k → p = r.budget k)
    (hMade : Work.makeWorld (r.catalogFor j) recipe name components systems
      ⟨r.site j, .budget p, []⟩ = .ok h b) :
    ∃ n, spawn run i name components systems budget r =
      .ok h ((((r.closed j b.site).kept b.purse budget).told (r.factory i).sink
        (.worldCreated h)).appendTrace
          [.log (.worldSpawned name h components.length systems.length n)]) := by
  have hPaid := (Work.makeWorld_eq_ok hMade).2.1
  rw [spawn_eq hLedger hRecipe hPurse (ends_of_ok hMade)]
  have hConclude : conclude run (r.factory i) b.journal (.ok h) (fun h => [.worldCreated h])
      ((r.closed j b.site).kept b.purse budget) =
        .ok h (((r.closed j b.site).kept b.purse budget).told (r.factory i).sink
          (.worldCreated h)) :=
    (conclude_eq_ok_iff hLedger).2 ⟨rfl, deliver_kept hSink ⟨_, hPaid⟩ hSame (.worldCreated h)⟩
  obtain ⟨n, hSpent⟩ := spent_eq ⟨_, hPaid⟩ hBudget
    (((r.closed j b.site).kept b.purse budget).told (r.factory i).sink (.worldCreated h))
  -- all that is left is to note how many steps were used
  refine ⟨n, ?_⟩
  rw [bind_of_ok hConclude, bind_of_ok hSpent]
  rfl

/-- A spawn that succeeds has made its world. -/
theorem makeWorld_of_spawn (hLedger : (r.factory i).ledger = .object .ledger j)
    (hRecipe : (r.factory i).configuration = .holding recipe)
    (hPurse : (r.factory i).purse budget r = .ok (.budget p) r)
    (hSpawn : spawn run i name components systems budget r = .ok h r') :
    ∃ h₁ b, Work.makeWorld (r.catalogFor j) recipe name components systems
      ⟨r.site j, .budget p, []⟩ = .ok h₁ b := by
  rcases hWork : ends (Work.makeWorld (r.catalogFor j) recipe name components systems)
    ⟨r.site j, .budget p, []⟩ with ⟨res, b⟩
  rw [spawn_eq hLedger hRecipe hPurse hWork] at hSpawn
  obtain ⟨h₁, r₂, hConclude, -⟩ := bind_eq_ok_iff.1 hSpawn
  -- a spawn can come out well only if its work has
  obtain ⟨rfl, -⟩ := (conclude_eq_ok_iff hLedger).1 hConclude
  exact ⟨h₁, b, eq_ok_of_ends hWork⟩

/-- What is in the realm after a spawn that has succeeded. -/
theorem spawned_of_makeWorld (hs : Ledger.Sound (r.catalogFor j) (r.ledger j).ledger handed)
    (hSame : ∀ k, budget = .object .budget k → p = r.budget k)
    (hMade : Work.makeWorld (r.catalogFor j) recipe name components systems
      ⟨r.site j, .budget p, []⟩ = .ok h b) (i : Nat) (entries : List Entry) :
    ∃ text, name = .str text ∧ r.Spawned i j recipe text components systems budget h
      ((((r.closed j b.site).kept b.purse budget).told (r.factory i).sink
        (.worldCreated h)).appendTrace entries) := by
  have hPaid := (Work.makeWorld_eq_ok hMade).2.1
  obtain ⟨text, hName, hGained⟩ := Work.gained_of_makeWorld (b := ⟨r.site j, _, []⟩) hs hMade
  rw [hPaid]
  have hWorked := Realm.worked_kept (r := r) (j := j) (n := components.length + systems.length)
    b.site ⟨p, rfl, hSame⟩
  generalize (r.closed j b.site).kept _ budget = r₁ at hWorked
  obtain ⟨sinks, hTold⟩ := r₁.told_eq (.worldCreated h) (r.factory i).sink
  have hSinks : ∀ k, r₁.sink k = r.sink k := by
    obtain ⟨ledgers, budgets, more, rfl⟩ := hWorked.rest
    exact fun k => rfl
  refine ⟨text, hName, ?_, ?_, ?_, ?_, ?_, ?_, ?_⟩
  -- the log is told of the world in a realm whose ledger is the one that the work has left
  · have hLeft : (((r₁.told (r.factory i).sink (.worldCreated h)).appendTrace entries).ledger
        j).ledger = b.site.ledger := by
      rw [hTold]
      show (r₁.ledger j).ledger = _
      rw [hWorked.ledger]
    rw [hLeft]
    exact hGained
  · refine hWorked.sameBut (Realm.Same.appendTrace ?_)
    rw [hTold]
    exact ⟨rfl, rfl, rfl⟩
  · intro k hk
    show (r₁.told _ _).sink k = _
    rw [hk, Realm.sink_told, hSinks]
  · intro k hk
    show (r₁.told _ _).sink k = _
    rw [Realm.sink_told_of_ne _ _ hk, hSinks]
  · intro k hk
    rw [hTold]
    show r₁.budget k = _
    rw [hWorked.charged k hk]
  · intro k hk
    rw [hTold]
    exact hWorked.budgets k hk
  · obtain ⟨ledgers, budgets, more, rfl⟩ := hWorked.rest
    rw [hTold]
    exact ⟨ledgers, sinks, budgets, more ++ entries, by simp [Realm.appendTrace]⟩

end Outcome

/-- **When a spawn succeeds, and what it changes.** -/
theorem spawn_succeeds_iff (hLedger : (r.factory i).ledger = .object .ledger j)
    (hRecipe : (r.factory i).configuration = .holding recipe)
    (hReached : Ledger.Reached (r.catalogFor j) (r.ledger j).ledger handed)
    (hFaults : (r.ledger j).faults = [])
    (hSteps : (r.factory i).stepBudget = .null ∨
      ∃ n, (r.factory i).stepBudget.numeral? = some n ∧ 0 ≤ n.toInt)
    (hSink : (r.factory i).sink = .null ∨
      ∃ k, (r.factory i).sink = .object .eventLog k ∧ (r.sink k).script = [])
    (hBudget : budget = .null ∨ ∃ k, budget = .object .budget k ∧ (r.budget k).Reached) :
    ((∃ h r', spawn run i name components systems budget r = .ok h r') ↔
      ∃ p, (r.factory i).purse budget r = .ok (.budget p) r ∧
        Work.CanSpawn (r.catalogFor j) (r.ledger j).ledger recipe name components systems p) ∧
    ∀ h r', spawn run i name components systems budget r = .ok h r' →
      (∀ x ∈ handed, x.number < h.number) ∧
        ∃ text, name = .str text ∧ r.Spawned i j recipe text components systems budget h r' := by
  have hs := hReached.sound
  obtain ⟨p, hPurse, hBounds, hSame⟩ := exists_purse (fun _ => hSteps) hBudget
  have hHanded : budget = .null ∨ ∃ k, budget = .object .budget k := by
    rcases hBudget with hNull | ⟨k, hk, -⟩
    · exact .inl hNull
    · exact .inr ⟨k, hk⟩
  have hMake : (∃ h b, Work.makeWorld (r.catalogFor j) recipe name components systems
      ⟨r.site j, .budget p, []⟩ = .ok h b) ↔
      Work.CanSpawn (r.catalogFor j) (r.ledger j).ledger recipe name components systems p :=
    Work.makeWorld_isOk_iff (Realm.spare_of_faults hFaults) hs.catalog rfl hBounds.covers_zero
  refine ⟨⟨?_, ?_⟩, ?_⟩
  -- a spawn succeeds exactly if its world can be made, since its sink takes the event
  · rintro ⟨h, r', hSpawn⟩
    obtain ⟨h₁, b, hMade⟩ := makeWorld_of_spawn hLedger hRecipe hPurse hSpawn
    exact ⟨p, hPurse, hMake.1 ⟨h₁, b, hMade⟩⟩
  · rintro ⟨q, hPurse', hCan⟩
    rw [hPurse] at hPurse'
    cases hPurse'
    obtain ⟨h, b, hMade⟩ := hMake.2 hCan
    obtain ⟨n, hSpawn⟩ := spawn_isOk hLedger hRecipe hSink hHanded hPurse hSame hMade
    exact ⟨h, _, hSpawn⟩
  · intro h r' hSpawn
    obtain ⟨h₁, b, hMade⟩ := makeWorld_of_spawn hLedger hRecipe hPurse hSpawn
    -- so the spawn has come out as this world's making says
    obtain ⟨n, hOk⟩ := spawn_isOk hLedger hRecipe hSink hHanded hPurse hSame hMade
    rw [hSpawn] at hOk
    cases hOk
    obtain ⟨text, hName, hSpawned⟩ := spawned_of_makeWorld hs hSame hMade i _
    refine ⟨fun x hx => ?_, text, hName, hSpawned⟩
    rw [hSpawned.ledger.handle]
    exact hs.below x hx

/-- A spawn that takes all the steps that there are. -/
theorem spawn_succeeds_iff_arena :
    let r := Arena.logged
    ∃ h r', spawn Empty.elim 4 (.str "pit") [Arena.health, Arena.speed] [Arena.physics]
        (.object .budget 3) r = .ok h r' ∧
      Arena.executor.number < h.number ∧
      r.Spawned 4 1 Arena.recipe "pit" [Arena.health, Arena.speed] [Arena.physics]
        (.object .budget 3) h r' := by
  intro r
  have hRecipe : (r.factory 4).configuration = .holding Arena.recipe := rfl
  have hReached : Ledger.Reached (r.catalogFor 1) (r.ledger 1).ledger [Arena.executor] :=
    Arena.reached_ledger
  have hLimit : Budget.ofLimit? (some (.number 3)) = .ok ⟨some (.number 3), 0⟩ := rfl
  obtain ⟨hIff, hSpawned⟩ := spawn_succeeds_iff rfl hRecipe hReached rfl (.inl rfl)
    (.inr ⟨2, rfl, rfl⟩) (.inr ⟨3, rfl, .fresh hLimit⟩)
  -- three parts, all of them declared and different, and three steps to pay for them
  have hCan : Work.CanSpawn (r.catalogFor 1) (r.ledger 1).ledger Arena.recipe (.str "pit")
      [Arena.health, Arena.speed] [Arena.physics] ⟨some (.number 3), 0⟩ := by
    refine ⟨⟨_, rfl, rfl⟩, ⟨"pit", rfl, by decide⟩, rfl, rfl, ?_, by decide, ?_, by decide, ?_⟩
    · simp only [List.forall_mem_cons]
      exact ⟨⟨_, rfl, rfl⟩, ⟨_, rfl, rfl⟩, by simp⟩
    · simp only [List.forall_mem_cons]
      exact ⟨⟨_, rfl, rfl⟩, by simp⟩
    · rw [Budget.covers_iff]
      intro limit hEq
      cases hEq
      decide
  obtain ⟨h, r', hOk⟩ := hIff.2 ⟨_, rfl, hCan⟩
  obtain ⟨hAbove, text, hName, hAll⟩ := hSpawned h r' hOk
  cases hName
  exact ⟨h, r', hOk, hAbove _ (.head _), hAll⟩

end Factory

end WorldForge

import WorldForge.Factory.Work
import WorldForge.Proofs.Ledger.Site

/-!
# How the work of a factory comes out

Each piece of work on a workbench has a lemma that says when it succeeds and what the workbench is
then, and one for what it leaves behind when it fails.

A run of registrations may stop at any of its parts. `Enrolled` is the account of one: from one
workbench to another, some parts have been registered in the world at a handle, and some steps have
been paid. The journal has the undoing of each, newest first. `Enrolls` adds that the parts come
first among those asked for, and that they are all of them if the run succeeded.

Main results:

* `deployWorld_eq_ok_iff`, `registerPart_eq_ok_iff` — when a piece of work succeeds;
* `enrolls_registerParts` — what a run of registrations does, whether it succeeds or not.
-/

namespace WorldForge

/-! ## Purses -/

namespace Purse

/-- The purse after a number of steps has been paid for. -/
def after (n : Nat) : Purse → Purse
  | budget b => budget { b with used := b.used + n }
  | other v => other v

@[simp] theorem after_zero (p : Purse) : p.after 0 = p := by
  cases p <;> simp [after]

/-- Steps that are paid in two goes are paid together. -/
theorem after_after (p : Purse) (m n : Nat) : (p.after m).after n = p.after (m + n) := by
  cases p with
  | budget b => simp [after, Int.add_assoc]
  | other v => rfl

/-- A purse pays for a step exactly if it is a budget, and this can be charged with one step. -/
theorem payStep_eq_ok_iff {p q : Purse} :
    p.payStep = .ok q ↔ ∃ b b', p = .budget b ∧ b.charge (.number 1) = .ok b' ∧ q = .budget b' := by
  cases p with
  | budget b =>
    rw [payStep]
    split
    · rename_i e hCharge
      constructor
      · intro h
        cases h
      · rintro ⟨b₀, b', hb, hOk, -⟩
        cases hb
        rw [hCharge] at hOk
        cases hOk
    · rename_i b' hCharge
      constructor
      · intro h
        cases h
        exact ⟨b, b', rfl, hCharge, rfl⟩
      · rintro ⟨b₀, b₁, hb, hOk, rfl⟩
        cases hb
        rw [hCharge] at hOk
        cases hOk
        rfl
  | other v =>
    constructor
    · intro h
      cases h
    · rintro ⟨b, b', hb, -⟩
      cases hb

/-- A budget that does not pay for a step has reached its limit. -/
theorem payStep_eq_error {b : Budget} {e : Error} (h : (budget b).payStep = .error e) :
    ∃ limit, b.limit = some limit ∧ limit.toInt < b.used + 1 ∧
      e = .budget (.exhausted limit b.used) := by
  rw [payStep] at h
  split at h
  · rename_i refusal hCharge
    cases h
    -- one step is a step, so it can only be one too many
    rw [Budget.charge, if_neg (by decide)] at hCharge
    split at hCharge
    · cases hCharge
    · rename_i limit hLimit
      split at hCharge
      · rename_i hFull
        cases hCharge
        exact ⟨limit, hLimit, hFull, rfl⟩
      · cases hCharge
  · cases h

/-- A step that is paid for is one step more. -/
theorem eq_after_of_payStep {p q : Purse} (h : p.payStep = .ok q) : q = p.after 1 := by
  obtain ⟨b, b', rfl, hCharge, rfl⟩ := payStep_eq_ok_iff.1 h
  obtain ⟨-, -, rfl⟩ := Budget.charge_eq_ok_iff.1 hCharge
  rfl

end Purse

/-- How the registration of a part is undone. -/
def Undo.ofPart (x : InstanceHandle) (p : Part) : Undo := .deregister x p.1 p.2

namespace Work

variable {α : Type} {c : Catalog} {x : InstanceHandle} {k : PartKind} {t name world : Value}
  {recipe : Recipe} {b b' b₁ : Workbench} {s : Site} {e : Error} {parts more : List Part}
  {m n : Nat} {res : Except Error Unit} {w : World}

/-! ## Pieces of work -/

/-- **What is done on a site** comes out on the workbench as it comes out on the site. Purse and
journal stay. -/
theorem ends_onSite (y : SiteM α) (b : Workbench) :
    ends (onSite y) b = ((ends y b.site).1, { b with site := (ends y b.site).2 }) := by
  rw [ends, ends, onSite]
  cases y b.site <;> rfl

/-- What is done on a site succeeds on the workbench exactly if it succeeds on the site, and leaves
purse and journal alone. -/
theorem onSite_eq_ok_iff {y : SiteM α} {a : α} :
    onSite y b = .ok a b' ↔ ∃ s, y b.site = .ok a s ∧ b' = { b with site := s } := by
  rw [onSite]
  split
  · rename_i a' s hy
    rw [hy]
    constructor
    · intro h
      cases h
      exact ⟨s, rfl, rfl⟩
    · rintro ⟨s', hEq, rfl⟩
      cases hEq
      rfl
  · rename_i hy
    simp [hy]

/-- What is done on a site fails on the workbench exactly if it fails on the site, with the same
error. -/
theorem onSite_eq_error_iff {y : SiteM α} :
    onSite y b = .error e b' ↔ ∃ s, y b.site = .error e s ∧ b' = { b with site := s } := by
  rw [onSite]
  split
  · rename_i hy
    simp [hy]
  · rename_i e' s hy
    rw [hy]
    constructor
    · intro h
      cases h
      exact ⟨s, rfl, rfl⟩
    · rintro ⟨s', hEq, rfl⟩
      cases hEq
      rfl

theorem report_eq (r : LogRecord) (b : Workbench) :
    report r b = .ok () { b with site := { b.site with log := b.site.log ++ [r] } } := rfl

/-- An entry goes on top of the journal, which is recorded, and cannot fail. -/
theorem enter_eq (u : Undo) (b : Workbench) :
    enter u b = .ok ()
      { b with
        site := { b.site with log := b.site.log ++ [.journaled u.text] }
        journal := u :: b.journal } := rfl

/-- A step is paid on the workbench exactly if its purse pays it. Site and journal stay. -/
theorem payStep_eq_ok_iff :
    payStep b = .ok () b' ↔ ∃ p, b.purse.payStep = .ok p ∧ b' = { b with purse := p } := by
  rw [payStep]
  split
  · rename_i p hp
    rw [hp]
    constructor
    · intro h
      cases h
      exact ⟨p, rfl, rfl⟩
    · rintro ⟨p', hEq, rfl⟩
      cases hEq
      rfl
  · rename_i e hp
    simp [hp]

/-- A step that cannot be paid leaves the workbench as it was, and tells that the budget is used
up. -/
theorem payStep_eq_error (h : payStep b = .error e b') : b' = b := by
  rw [payStep] at h
  split at h
  · cases h
  · cases h
    rfl

/-- The workbench after a world has been deployed at a handle, on a site that is now `s`. -/
def deployedAt (b : Workbench) (s : Site) (name : Value) (x : InstanceHandle) : Workbench where
  site := { s with log := s.log ++ [.journaled (Undo.destroy x).text, .worldPrepared name x] }
  purse := b.purse
  journal := .destroy x :: b.journal

/-- **When a world is deployed**: exactly if the ledger accepts it, with the name and the executor
as arguments. It can be destroyed then by the newest entry of the journal. -/
theorem deployWorld_eq_ok_iff :
    deployWorld c recipe name b = .ok x b' ↔
      ∃ s, Site.deploy c recipe.template (Argument.values [name, .handle recipe.executor]) b.site =
          .ok x s ∧
        b' = deployedAt b s name x := by
  rw [deployWorld, bind_eq_ok_iff]
  constructor
  · rintro ⟨y, b₁, hDeploy, hRest⟩
    obtain ⟨s, hSite, rfl⟩ := onSite_eq_ok_iff.1 (wrapping_eq_ok_iff.1 hDeploy)
    rw [bind_of_ok (enter_eq ..), bind_of_ok (report_eq ..)] at hRest
    cases hRest
    exact ⟨s, hSite, by simp [deployedAt]⟩
  · rintro ⟨s, hSite, rfl⟩
    refine ⟨x, _, wrapping_eq_ok_iff.2 (onSite_eq_ok_iff.2 ⟨s, hSite, rfl⟩), ?_⟩
    rw [bind_of_ok (enter_eq ..), bind_of_ok (report_eq ..)]
    simp [deployedAt, pure, EStateM.pure]

/-- A deployment that fails does nothing but count the call. -/
theorem deployWorld_eq_error (h : deployWorld c recipe name b = .error e b') :
    b' = { b with site := b.site.met .deploy } ∧
      ∃ e₀ s, Site.deploy c recipe.template (Argument.values [name, .handle recipe.executor])
          b.site = .error e₀ s ∧
        e = if e₀.within .ledger then .deploymentFailed name recipe.template e₀ else e₀ := by
  rw [deployWorld] at h
  rcases bind_eq_error_iff.1 h with hDeploy | ⟨y, b₁, _, hRest⟩
  · obtain ⟨e₀, hRun, hWrap⟩ := wrapping_eq_error_iff.1 hDeploy
    obtain ⟨s, hSite, rfl⟩ := onSite_eq_error_iff.1 hRun
    obtain rfl := Site.deploy_eq_error hSite
    exact ⟨rfl, e₀, _, hSite, hWrap⟩
  -- once the world is there, nothing fails any more
  · rw [bind_of_ok (enter_eq ..), bind_of_ok (report_eq ..)] at hRest
    cases hRest

/-- The workbench after a part has been registered, on a site that is now `s`, and paid for from
what is now the purse `p`. -/
def registeredAt (b : Workbench) (s : Site) (p : Budget) (x : InstanceHandle) (k : PartKind)
    (t : Value) : Workbench where
  site := { s with
    log := s.log ++ [.journaled (Undo.deregister x k t).text, .partRegistered k t p.used] }
  purse := .budget p
  journal := .deregister x k t :: b.journal

/-- **When a part is registered**: exactly if a step has been paid for it, and the world accepts it.
It can be removed then by the newest entry of the journal. -/
theorem registerPart_eq_ok_iff :
    registerPart c x k t b = .ok () b' ↔
      ∃ p s, b.purse.payStep = .ok (.budget p) ∧ Site.register c x k t b.site = .ok () s ∧
        b' = registeredAt b s p x k t := by
  rw [registerPart, bind_eq_ok_iff]
  constructor
  · rintro ⟨_, b₁, hPay, hRest⟩
    -- a step is paid first, then the part is registered, and then the journal entry is made
    obtain ⟨p, hPurse, rfl⟩ := payStep_eq_ok_iff.1 hPay
    obtain ⟨_, p', _, _, rfl⟩ := Purse.payStep_eq_ok_iff.1 hPurse
    obtain ⟨_, b₂, hRegister, hRest⟩ := bind_eq_ok_iff.1 hRest
    obtain ⟨s, hSite, rfl⟩ := onSite_eq_ok_iff.1 (wrapping_eq_ok_iff.1 hRegister)
    rw [bind_of_ok (enter_eq ..)] at hRest
    cases hRest
    exact ⟨p', s, hPurse, hSite, by simp [registeredAt]⟩
  · rintro ⟨p, s, hPurse, hSite, rfl⟩
    have hRegister : wrapping .ledger (.registrationRejected t k) (onSite (Site.register c x k t))
        { b with purse := .budget p } = .ok () { b with site := s, purse := .budget p } :=
      wrapping_eq_ok_iff.2 (onSite_eq_ok_iff.2 ⟨s, hSite, rfl⟩)
    refine ⟨(), _, payStep_eq_ok_iff.2 ⟨_, hPurse, rfl⟩, ?_⟩
    rw [bind_of_ok hRegister, bind_of_ok (enter_eq ..)]
    show EStateM.Result.ok () _ = _
    simp [registeredAt]

/-- A registration fails before it is paid for, or at the world. -/
theorem registerPart_eq_error (h : registerPart c x k t b = .error e b') :
    b' = b ∧ b.purse.payStep = .error e ∨
      ∃ p e₀, b.purse.payStep = .ok p ∧
        b' = { b with site := b.site.met (.register k), purse := p } ∧
        Site.register c x k t b.site = .error e₀ b'.site ∧
        e = if e₀.within .ledger then .registrationRejected t k e₀ else e₀ := by
  rw [registerPart] at h
  rcases bind_eq_error_iff.1 h with hPay | ⟨_, b₁, hPay, hRest⟩
  · refine .inl ⟨payStep_eq_error hPay, ?_⟩
    rw [payStep] at hPay
    split at hPay
    · cases hPay
    · rename_i hPurse
      cases hPay
      exact hPurse
  · obtain ⟨p, hPurse, rfl⟩ := payStep_eq_ok_iff.1 hPay
    rcases bind_eq_error_iff.1 hRest with hRegister | ⟨_, b₂, _, hRest⟩
    · obtain ⟨e₀, hRun, hWrap⟩ := wrapping_eq_error_iff.1 hRegister
      obtain ⟨s, hSite, rfl⟩ := onSite_eq_error_iff.1 hRun
      obtain rfl := Site.register_eq_error hSite
      exact .inr ⟨p, e₀, hPurse, rfl, hSite, hWrap⟩
    -- the steps of a purse that has paid can be told
    · obtain ⟨_, p', _, _, rfl⟩ := Purse.payStep_eq_ok_iff.1 hPurse
      have hAfter : b₂.purse = .budget p' := by
        rename_i hRegister
        obtain ⟨s, -, rfl⟩ := onSite_eq_ok_iff.1 (wrapping_eq_ok_iff.1 hRegister)
        rfl
      obtain ⟨site, purse, journal⟩ := b₂
      obtain rfl : purse = .budget p' := hAfter
      rw [bind_of_ok (enter_eq ..)] at hRest
      cases hRest

/-! ## Runs of registrations -/

/-- **The account of a run of registrations.** From one workbench to another, parts have been
registered in the world at a handle, if there is a live one, and `n` steps have been paid. -/
structure Enrolled (c : Catalog) (x : InstanceHandle) (parts : List Part) (n : Nat)
    (b b' : Workbench) : Prop where
  purse : b'.purse = b.purse.after n
  journal : b'.journal = (parts.map (Undo.ofPart x)).reverse ++ b.journal
  declared : ∀ p ∈ parts, c.Declares p.1 p.2
  /-- Only the world has changed, and it is where it was. -/
  ledger : ∀ {w}, b.site.ledger.worlds.find? x.key = some w → w.handle.key = x.key →
    ∃ w', w.Extends c parts w' ∧ b'.site.ledger = b.site.ledger.withWorld w'
  spare : ∀ {call}, Fault.Spare b.site.faults call → Fault.Spare b'.site.faults call

/-- Nothing has been registered where nothing has been done. -/
theorem Enrolled.refl (c : Catalog) (x : InstanceHandle) (b : Workbench) :
    Enrolled c x [] 0 b b where
  purse := by simp
  journal := rfl
  declared _ hMem := by cases hMem
  ledger {w} hFind hKey :=
    ⟨w, .refl c w, (Ledger.withWorld_of_find? (by rw [hKey]; exact hFind)).symm⟩
  spare hSpare := hSpare

/-- What was registered in two goes was registered in one: the parts come behind each other, and the
steps add up. -/
theorem Enrolled.trans (h : Enrolled c x parts m b b₁) (h₁ : Enrolled c x more n b₁ b') :
    Enrolled c x (parts ++ more) (m + n) b b' where
  purse := by rw [h₁.purse, h.purse, Purse.after_after]
  journal := by rw [h₁.journal, h.journal]; simp
  declared p hMem := (List.mem_append.1 hMem).elim (h.declared p) (h₁.declared p)
  ledger := by
    intro w hFind hKey
    obtain ⟨w₁, hExtends, hLedger⟩ := h.ledger hFind hKey
    -- the second run finds the world that the first one has left
    have hKey₁ : w₁.handle.key = x.key := by rw [hExtends.head.handle, hKey]
    have hFind₁ : b₁.site.ledger.worlds.find? x.key = some w₁ := by
      rw [hLedger, ← hKey₁]
      exact Ledger.find?_withWorld ..
    obtain ⟨w₂, hExtends₁, hLedger₁⟩ := h₁.ledger hFind₁ hKey₁
    refine ⟨w₂, hExtends.trans hExtends₁, ?_⟩
    rw [hLedger₁, hLedger, Ledger.withWorld_withWorld _ hExtends₁.head.handle]
  spare hSpare := h₁.spare (h.spare hSpare)

/-- Steps that are paid and calls that are counted register nothing. -/
theorem enrolled_of_met (b : Workbench) (call : LedgerCall) (n : Nat) :
    Enrolled c x [] n b { b with site := b.site.met call, purse := b.purse.after n } where
  purse := rfl
  journal := rfl
  declared _ hMem := by cases hMem
  ledger {w} hFind hKey :=
    ⟨w, .refl c w, (Ledger.withWorld_of_find? (by rw [hKey]; exact hFind)).symm⟩
  spare hSpare := hSpare.meet

/-- A registration that has succeeded has registered its part, and one step has been paid. -/
theorem enrolled_of_registerPart (h : registerPart c x k t b = .ok () b') :
    Enrolled c x [(k, t)] 1 b b' := by
  obtain ⟨p, s, hPay, hRegister, rfl⟩ := registerPart_eq_ok_iff.1 h
  obtain ⟨-, -, -, d, l, hLedger, rfl⟩ := Site.register_eq_ok_iff.1 hRegister
  obtain ⟨w, w', hWorld, hDone, rfl⟩ := Ledger.register_eq_ok hLedger
  obtain ⟨hGet, hKind, -⟩ := World.register_eq_ok_iff.1 hDone
  refine ⟨Purse.eq_after_of_payStep hPay, rfl, ?_, ?_, fun hSpare => hSpare.meet⟩
  · intro p hMem
    obtain rfl := List.mem_singleton.1 hMem
    exact ⟨d, hGet, hKind⟩
  · intro v hFind hKey
    -- the world that was found is the live one
    rw [Ledger.world?_of_find? hFind] at hWorld
    cases hWorld
    have hExtends := World.extends_of_register hDone
    refine ⟨w', hExtends, Ledger.putWorld_of_mem ?_⟩
    rw [hExtends.head.handle, hKey]
    exact Table.mem_keys_iff.2 ⟨_, hFind⟩

/-- A run over some parts goes as far as it can: those that are registered come first among them,
and they are all of them if it succeeds. -/
def Enrolls (c : Catalog) (x : InstanceHandle) (parts : List Part) (res : Except Error Unit)
    (b b' : Workbench) : Prop :=
  ∃ done n, Enrolled c x done n b b' ∧ done <+: parts ∧ n ≤ parts.length ∧
    (res = .ok () → done = parts ∧ n = parts.length)

/-- A run of registrations that has stopped before the first part has registered nothing. -/
theorem Enrolls.idle (h : Enrolled c x [] 0 b b') (e : Error) :
    Enrolls c x parts (.error e) b b' :=
  ⟨[], 0, h, List.nil_prefix, Nat.zero_le _, fun hOk => by cases hOk⟩

/-- Two runs one after the other are one run, if the first succeeds. -/
theorem Enrolls.trans (h : Enrolls c x parts (.ok ()) b b₁) (h₁ : Enrolls c x more res b₁ b') :
    Enrolls c x (parts ++ more) res b b' := by
  -- the first run has registered all of its parts, so that those of the second come next
  obtain ⟨done, m, hFirst, -, -, hAll⟩ := h
  obtain ⟨rfl, rfl⟩ := hAll rfl
  obtain ⟨rest, n, hSecond, hPrefix, hn, hEnd⟩ := h₁
  refine ⟨done ++ rest, done.length + n, hFirst.trans hSecond, ?_, ?_, ?_⟩
  · rwa [List.prefix_append_right_inj]
  · rw [List.length_append]
    omega
  · intro hOk
    obtain ⟨rfl, rfl⟩ := hEnd hOk
    exact ⟨rfl, by rw [List.length_append]⟩

/-- A run that stops at the first parts has done so for more of them, too. -/
theorem Enrolls.append (h : Enrolls c x parts (.error e) b b') :
    Enrolls c x (parts ++ more) (.error e) b b' := by
  obtain ⟨done, n, hDone, hPrefix, hn, -⟩ := h
  refine ⟨done, n, hDone, hPrefix.trans (List.prefix_append ..), ?_, fun hOk => by cases hOk⟩
  rw [List.length_append]
  omega

/-- One run goes on where another one ends, and not at all if that has failed. -/
theorem Enrolls.bind {y z : Work Unit} (h : Enrolls c x parts (ends y b).1 b (ends y b).2)
    (h₁ : ∀ b₁, Enrolls c x more (ends z b₁).1 b₁ (ends z b₁).2) :
    Enrolls c x (parts ++ more) (ends (y >>= fun _ => z) b).1 b
      (ends (y >>= fun _ => z) b).2 := by
  rw [ends_bind]
  rcases hEnds : ends y b with ⟨_ | _, b₁⟩
  · rw [hEnds] at h
    exact h.append
  · rw [hEnds] at h
    exact h.trans (h₁ b₁)

/-- A single registration is a run of one part, which may stop before it. -/
theorem enrolls_registerPart (c : Catalog) (x : InstanceHandle) (k : PartKind) (t : Value)
    (b : Workbench) :
    Enrolls c x [(k, t)] (ends (registerPart c x k t) b).1 b (ends (registerPart c x k t) b).2 := by
  cases h : registerPart c x k t b with
  | ok u b' =>
    rw [ends_of_ok h]
    exact ⟨_, 1, enrolled_of_registerPart h, List.prefix_rfl, Nat.le_refl _, fun _ => ⟨rfl, rfl⟩⟩
  | error e b' =>
    rw [ends_of_error h]
    rcases registerPart_eq_error h with ⟨rfl, -⟩ | ⟨p, e₀, hPay, rfl, -⟩
    · exact .idle (.refl ..) e
    -- the step of a part that is not registered is paid for
    · obtain rfl := Purse.eq_after_of_payStep hPay
      exact ⟨[], 1, enrolled_of_met .., List.nil_prefix, Nat.le_refl _, fun hOk => by cases hOk⟩

/-- Registrations of one kind, one after the other, register the parts up to where they stop. -/
theorem enrolls_forM (c : Catalog) (x : InstanceHandle) (k : PartKind) (ids : List Value)
    (b : Workbench) :
    Enrolls c x (ids.map (Prod.mk k)) (ends (ids.forM (registerPart c x k)) b).1 b
      (ends (ids.forM (registerPart c x k)) b).2 := by
  induction ids generalizing b with
  | nil => exact ⟨[], 0, .refl .., List.prefix_rfl, Nat.le_refl _, fun _ => ⟨rfl, rfl⟩⟩
  | cons t rest ih => exact (enrolls_registerPart c x k t b).bind ih

/-- A run over what a value gives is a run over a list. -/
theorem registerEach_of_items {parts : Value} {ids : List Value} (h : parts.items? = some ids) :
    registerEach c x k parts = ids.forM (registerPart c x k) := by
  rw [registerEach, Value.items, h]
  rfl

/-- The parts of a kind that a value gives; none if it gives nothing. -/
def partsOf (k : PartKind) (v : Value) : List Part := (v.items?.getD []).map (Prod.mk k)

/-- To register what a value lists registers its parts up to where it stops. A value that lists
nothing has no parts. -/
theorem enrolls_registerEach (c : Catalog) (x : InstanceHandle) (k : PartKind) (v : Value)
    (b : Workbench) :
    Enrolls c x (partsOf k v) (ends (registerEach c x k v) b).1 b
      (ends (registerEach c x k v) b).2 := by
  cases hItems : v.items? with
  | none =>
    have hFail : registerEach c x k v b = .error (.notIterable v) b := by
      rw [registerEach, Value.items, hItems]
      rfl
    rw [ends_of_error hFail]
    exact .idle (.refl ..) _
  | some ids =>
    rw [registerEach_of_items hItems, partsOf, hItems]
    exact enrolls_forM ..

/-- **A dispatcher is given out** for the live world at a value, and this costs a call. -/
theorem wrapping_dispatcher_eq_ok_iff :
    wrapping .ledger (.cannotDispatch world) (onSite (Site.dispatcher world)) b = .ok w b' ↔
      (Fault.meet .dispatcher b.site.faults).1 = none ∧ world.changeable? = none ∧
        b.site.ledger.worlds.find? world.key = some w ∧
        b' = { b with site := b.site.met .dispatcher } := by
  rw [wrapping_eq_ok_iff, onSite_eq_ok_iff]
  constructor
  · rintro ⟨s, hSite, rfl⟩
    obtain ⟨hMeet, hFixed, hFind, rfl⟩ := Site.dispatcher_eq_ok_iff.1 hSite
    exact ⟨hMeet, hFixed, hFind, rfl⟩
  · rintro ⟨hMeet, hFixed, hFind, rfl⟩
    exact ⟨_, Site.dispatcher_eq_ok_iff.2 ⟨hMeet, hFixed, hFind, rfl⟩, rfl⟩

/-- A dispatcher that is refused costs a call, too. -/
theorem wrapping_dispatcher_eq_error
    (h : wrapping .ledger (.cannotDispatch world) (onSite (Site.dispatcher world)) b =
      .error e b') : b' = { b with site := b.site.met .dispatcher } := by
  obtain ⟨e₀, hRun, -⟩ := wrapping_eq_error_iff.1 h
  obtain ⟨s, hSite, rfl⟩ := onSite_eq_error_iff.1 hRun
  obtain rfl := Site.callBy_eq_error hSite
  rfl

/-- Where no fault waits for the call, it leaves the site as it was. -/
theorem wrapping_dispatcher_of_spare (hSpare : Fault.Spare b.site.faults .dispatcher)
    (hFixed : world.changeable? = none) (hFind : b.site.ledger.worlds.find? world.key = some w) :
    wrapping .ledger (.cannotDispatch world) (onSite (Site.dispatcher world)) b = .ok w b := by
  have hMeet : Fault.meet .dispatcher b.site.faults = (none, b.site.faults) :=
    Fault.meet_of_forall_ne hSpare
  have hSite : b.site.met .dispatcher = b.site := by
    rw [Site.met, hMeet]
  refine wrapping_dispatcher_eq_ok_iff.2 ⟨by rw [hMeet], hFixed, hFind, ?_⟩
  rw [hSite]

/-- **What a run over components and systems does.** It works on the live world at a value; if there
is none, it does nothing. -/
theorem enrolls_registerParts {world : Value} (components systems : Value)
    (hWorld : ∀ {w}, b.site.ledger.worlds.find? world.key = some w → w.handle = x) :
    Enrolls c x (partsOf .component components ++ partsOf .system systems)
      (ends (registerParts c world components systems) b).1 b
      (ends (registerParts c world components systems) b).2 := by
  rw [registerParts, ends_bind]
  cases hDispatch : wrapping .ledger (.cannotDispatch world) (onSite (Site.dispatcher world)) b with
  -- without a dispatcher no part is reached
  | error e b₁ =>
    rw [ends_of_error hDispatch]
    obtain rfl := wrapping_dispatcher_eq_error hDispatch
    refine .idle ?_ e
    simpa using enrolled_of_met (c := c) (x := x) b .dispatcher 0
  | ok w b₁ =>
    rw [ends_of_ok hDispatch]
    obtain ⟨-, -, hFind, rfl⟩ := wrapping_dispatcher_eq_ok_iff.1 hDispatch
    obtain rfl := hWorld hFind
    have hMet : Enrolls c w.handle [] (.ok ()) b { b with site := b.site.met .dispatcher } :=
      ⟨[], 0, by simpa using enrolled_of_met (c := c) (x := w.handle) b .dispatcher 0,
        List.prefix_rfl, Nat.le_refl _, fun _ => ⟨rfl, rfl⟩⟩
    -- the call of the dispatcher is a run over no parts, and the two kinds follow it
    show Enrolls _ _ ([] ++ (_ ++ _)) _ _ _
    refine hMet.trans ?_
    exact (enrolls_registerEach c w.handle .component components _).bind fun b₁ =>
      enrolls_registerEach c w.handle .system systems b₁

/-- Where a live world stands, its parts are registered by its own handle. -/
theorem enrolls_registerParts_of_find? (components systems : Value)
    (hFind : b.site.ledger.worlds.find? world.key = some w) :
    Enrolls c w.handle (partsOf .component components ++ partsOf .system systems)
      (ends (registerParts c world components systems) b).1 b
      (ends (registerParts c world components systems) b).2 := by
  refine enrolls_registerParts components systems fun {v} hv => ?_
  rw [hFind] at hv
  cases hv
  rfl

/-! ## How work fails -/

/-- The errors of a run of registrations in the live world at a value. Those of a ledger are wrapped
once, and no others. -/
inductive RegisterFails (c : Catalog) (world : Value) : Error → Prop
  | dispatcher {s s' : Site} {e : Error} (h : Site.dispatcher world s = .error e s') :
      RegisterFails c world (if e.within .ledger then .cannotDispatch world e else e)
  | step {p : Purse} {e : Error} (h : p.payStep = .error e) : RegisterFails c world e
  | part {x : InstanceHandle} {k : PartKind} {t : Value} {s s' : Site} {e : Error}
      (h : Site.register c x k t s = .error e s') :
      RegisterFails c world (if e.within .ledger then .registrationRejected t k e else e)
  | parts {v : Value} (h : v.items? = none) : RegisterFails c world (.notIterable v)

/-- The errors of a world's making. An error of its registrations is wrapped once more. -/
inductive MakeFails (c : Catalog) (recipe : Recipe) (name : Value) : Error → Prop
  | deploy {s s' : Site} {e : Error}
      (h : Site.deploy c recipe.template (Argument.values [name, .handle recipe.executor]) s =
        .error e s') :
      MakeFails c recipe name
        (if e.within .ledger then .deploymentFailed name recipe.template e else e)
  | register {x : InstanceHandle} {e : Error} (h : RegisterFails c (.handle x) e) :
      MakeFails c recipe name
        (if e.within .registration then .registrationFailed name x e else e)

/-- A run of registrations fails in one of the ways of a registration: a step is not paid, or a part
is not accepted. -/
theorem registerFails_forM {ids : List Value} {v : Value}
    (h : (ids.forM (registerPart c x k)) b = .error e b') : RegisterFails c v e := by
  induction ids generalizing b with
  | nil => cases h
  | cons t rest ih =>
    rcases bind_eq_error_iff.1 h with hFirst | ⟨_, b₁, -, hRest⟩
    -- the part was not paid for, or the world did not take it
    · rcases registerPart_eq_error hFirst with ⟨-, hPay⟩ | ⟨p, e₀, -, -, hRegister, rfl⟩
      · exact .step hPay
      · exact .part hRegister
    · exact ih hRest

/-- To register what a value lists fails because it lists nothing, or as a run of registrations
does. -/
theorem registerFails_registerEach {v parts : Value}
    (h : registerEach c x k parts b = .error e b') : RegisterFails c v e := by
  rcases bind_eq_error_iff.1 h with hItems | ⟨ids, b₁, -, hRest⟩
  · rw [Value.items] at hItems
    cases hParts : parts.items? with
    | none =>
      rw [hParts] at hItems
      cases hItems
      exact .parts hParts
    | some ids =>
      rw [hParts] at hItems
      cases hItems
  · exact registerFails_forM hRest

/-- **How registrations fail**: the world is not found, a value does not list parts, a step is not
paid, or a part is not accepted. -/
theorem registerFails_registerParts {v components systems : Value}
    (h : registerParts c v components systems b = .error e b') : RegisterFails c v e := by
  rcases bind_eq_error_iff.1 h with hDispatch | ⟨w, b₁, -, hRest⟩
  · obtain ⟨e₀, hRun, rfl⟩ := wrapping_eq_error_iff.1 hDispatch
    obtain ⟨s, hSite, -⟩ := onSite_eq_error_iff.1 hRun
    exact .dispatcher hSite
  · rcases bind_eq_error_iff.1 hRest with hFirst | ⟨_, b₂, -, hSecond⟩
    · exact registerFails_registerEach hFirst
    · exact registerFails_registerEach hSecond

/-- A world that is not deployed is not made, and the error tells of its name and its template, if
it is one of the ledger. -/
theorem makeFails_deployWorld (h : deployWorld c recipe name b = .error e b') :
    MakeFails c recipe name e := by
  obtain ⟨-, e₀, s, hSite, rfl⟩ := deployWorld_eq_error h
  exact .deploy hSite

/-- **How the making of a world fails**: at its deployment, or in its registrations. -/
theorem makeFails_makeWorld {components systems : List Value}
    (h : makeWorld c recipe name components systems b = .error e b') :
    MakeFails c recipe name e := by
  rcases bind_eq_error_iff.1 h with hDeploy | ⟨y, b₁, -, hRest⟩
  · exact makeFails_deployWorld hDeploy
  · rcases bind_eq_error_iff.1 hRest with hRegister | ⟨_, b₂, -, hEnd⟩
    · obtain ⟨e₀, hRun, rfl⟩ := wrapping_eq_error_iff.1 hRegister
      exact .register (registerFails_registerParts hRun)
    · cases hEnd

end Work

end WorldForge

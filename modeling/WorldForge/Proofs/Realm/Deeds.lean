import WorldForge.Proofs.Budget
import WorldForge.Proofs.Factory.Attempts
import WorldForge.Proofs.Factory.Course

/-!
# Deeds

Few calls have to do with budgets and with the configurations of factories: charges to budgets, the
administration of factories, and the operations for which factories pay. These are the deeds. What a
deed does to a budget or to a configuration can be told from the realm in which it begins.

Deeds explain how a realm has come about from another one (`Realm.Explained`): every budget and
every configuration is what they have made of it, one after the other, and nothing else has changed
any.

Main results:

* `Realm.Explained.trans` — deeds explain what comes about one after the other;
* `Realm.explained_charge`, `Realm.explained_administer` — a charge and an administrative call
  explain what they leave;
* `Realm.conversesFrom_act` — an operation explains what it leaves when its work is done, and then
  nothing more is to be explained but for the code that a sink runs;
* `Deed.foldl_spend` — what deeds make of a budget is the sum of the charges and of the attempts;
* `Deed.reached_spend` — and it has come about by charges.
-/

namespace WorldForge

variable {κ : Type}

/-- **A call that may change a budget or a configuration**: a charge of steps to a budget, an
administrative call to a factory, and an operation that is asked of a factory. All other calls leave
budgets and configurations alone, and are no deeds. -/
inductive Deed where
  | charge (k : Nat) (steps : Numeral)
  | administer (i : Nat) (a : Factory.Administration)
  | operate (i : Nat) (o : Operation)

namespace Deed

/-- The steps that are charged to budget `k` directly, if it takes them. -/
def charged (k : Nat) (r : Realm κ) : Deed → Int
  | charge k' steps => if k' = k ∧ ((r.budget k).charge steps).isOk then steps.toInt else 0
  | administer .. | operate .. => 0

/-- The registrations that a factory attempts under budget `k`. -/
def attempted (k : Nat) (r : Realm κ) : Deed → Nat
  | operate i o =>
    match o.budget with
    | .object .budget k' => if k' = k then o.attempts i r else 0
    | _ => 0
  | charge .. | administer .. => 0

/-- What budget `k` is after a deed that begins in a realm. -/
def spend (k : Nat) (b : Budget) (d : Deed × Realm κ) : Budget :=
  { b with used := b.used + d.1.charged k d.2 + d.1.attempted k d.2 }

/-- What the configuration of factory `i` is after a deed. Only an administrative call to this
factory changes it, and only if the configuration takes the call. -/
def configure (i : Nat) (c : Configuration) (d : Deed × Realm κ) : Configuration :=
  match d.1 with
  | administer i' a =>
    if i' = i then
      match a.change c with
      | .ok recipe => .holding recipe
      | .error _ => c
    else c
  | charge .. | operate .. => c

/-- The attempts of an operation go to the budget that has been handed over for it. -/
theorem attempted_operate {k i : Nat} {o : Operation} {r : Realm κ}
    (hBudget : o.budget = .object .budget k) :
    (operate i o).attempted k r = o.attempts i r := by
  simp [attempted, hBudget]

/-- The attempts of an operation that has another budget, or none, do not go to this one. -/
theorem attempted_operate_of_ne {k i : Nat} {o : Operation} {r : Realm κ}
    (hBudget : o.budget ≠ .object .budget k) : (operate i o).attempted k r = 0 := by
  simp only [attempted]
  split
  · rename_i k' hOther
    exact if_neg fun hSame => hBudget (by rw [hOther, hSame])
  · rfl

end Deed

namespace Realm

variable {r s t : Realm κ} {ds ds' : List (Deed × Realm κ)} {i k : Nat}

/-- **What an operation has left on its ledger**, when it was asked of a factory in one realm, seen
from another realm: the work of the operation was done before this realm came about. That the work
may have been undone since is a change like any other. -/
def Wrought (i : Nat) (o : Operation) (r t : Realm κ) : Prop :=
  ∀ {j recipe p res b}, (r.factory i).ledger = .object .ledger j →
    (r.factory i).configuration = .holding recipe → o.purse (r.factory i) r = .ok p r →
    ends (o.work recipe (r.catalogFor j)) ⟨r.site j, p, []⟩ = (res, b) →
    ∃ r₁, r.Evolves r₁ ∧ r₁.scene j = ⟨r.catalogFor j, b.site.ledger⟩ ∧ r₁.Evolves t

/-- **Deeds explain how a realm comes about from another one**: budgets and configurations that are
there already are what the deeds make of them, and the work of operations is done. The trace grows.
-/
structure Explained (ds : List (Deed × Realm κ)) (r t : Realm κ) : Prop where
  evolves : r.Evolves t
  budgets : ∀ k < r.next, t.budget k = ds.foldl (Deed.spend k) (r.budget k)
  configurations : ∀ i < r.next,
    (t.factory i).configuration = ds.foldl (Deed.configure i) (r.factory i).configuration
  works : ∀ i o s, (.operate i o, s) ∈ ds → Wrought i o s t
  trace : r.trace <+: t.trace

/-- From one realm another one comes about without any deed: no budget has been charged, no
configuration has changed, and no operation has been asked for. -/
abbrev Still : Realm κ → Realm κ → Prop := Explained []

/-- No object is lost while a realm evolves. -/
theorem Evolves.next_le (h : r.Evolves t) : r.next ≤ t.next := by
  induction h with
  | refl => exact Nat.le_refl _
  | tail _ hChange ih => exact Nat.le_trans ih hChange.next_le

theorem Explained.next_le (h : Explained ds r t) : r.next ≤ t.next := Evolves.next_le h.evolves

/-- **Deeds in a row explain what comes about in a row.** Budgets and configurations are folded over
the first deeds and then over those that follow. -/
theorem Explained.trans (h : Explained ds r s) (h' : Explained ds' s t) :
    Explained (ds ++ ds') r t where
  evolves := h.evolves.trans h'.evolves
  budgets k hk := by
    rw [h'.budgets k (Nat.lt_of_lt_of_le hk h.next_le), h.budgets k hk, List.foldl_append]
  configurations i hi := by
    rw [h'.configurations i (Nat.lt_of_lt_of_le hi h.next_le), h.configurations i hi,
      List.foldl_append]
  works i o u hMem := by
    -- where the first part has led, the second goes on
    rcases List.mem_append.1 hMem with hOld | hNew
    · intro j recipe p res b hLedger hRecipe hPurse hWork
      obtain ⟨r₁, hTo, hScene, hFrom⟩ := h.works i o u hOld hLedger hRecipe hPurse hWork
      exact ⟨r₁, hTo, hScene, hFrom.trans h'.evolves⟩
    · exact h'.works i o u hNew
  trace := h.trace.trans h'.trace

/-- Whatever has come about may go on without deeds. -/
theorem Explained.still (h : Explained ds r s) (hStill : Still s t) : Explained ds r t := by
  have hBoth := h.trans hStill
  rwa [List.append_nil] at hBoth

/-! ## Without deeds -/

/-- A realm in which budgets, factories and the older trace are as they were has come about without
deeds. -/
theorem still_of_same (hEvolves : r.Evolves t) (hBudgets : ∀ k < r.next, t.budget k = r.budget k)
    (hFactories : ∀ i < r.next, t.factory i = r.factory i) (hTrace : r.trace <+: t.trace) :
    Still r t where
  evolves := hEvolves
  budgets := hBudgets
  configurations i hi := by rw [hFactories i hi]; rfl
  works _ _ _ hMem := by cases hMem
  trace := hTrace

/-- A new factory is none of those that are there already. -/
theorem still_newFactory (r : Realm κ) (entries : List Entry) (f : Factory) :
    Still r (putFactory r.next f { r.appendTrace entries with next := r.next + 1 }) := by
  refine still_of_same (.single (.aside rfl rfl (Nat.le_succ _))) (fun _ _ => rfl) (fun i hi => ?_)
    (List.prefix_append _ _)
  rw [factory_putFactory, if_neg (Nat.ne_of_lt hi)]
  rfl

instance : Ordinary (Still (κ := κ)) where
  refl r := still_of_same .refl (fun _ _ => rfl) (fun _ _ => rfl) List.prefix_rfl
  trans h h' := h.still h'
  calm hChange hCalm := by
    obtain ⟨entries, hTrace, -⟩ := hCalm.trace
    exact still_of_same (.single hChange) (fun k _ => hCalm.budgets k)
      (fun i _ => hCalm.factories i) ⟨entries, hTrace.symm⟩
  newBudget r b := by
    refine still_of_same (.single (.aside rfl rfl (Nat.le_succ _))) (fun k hk => ?_)
      (fun _ _ => rfl) List.prefix_rfl
    rw [budget_putBudget, if_neg (Nat.ne_of_lt hk)]
    rfl
  newFactory r f _ := by
    have hNew := still_newFactory r [] f
    rwa [show r.appendTrace [] = r by rw [appendTrace, List.append_nil]] at hNew
  newFactorySetUp r f recipe _ := still_newFactory r _ f

theorem still_refl (r : Realm κ) : Still r r := Ordinary.refl r

/-- What is written to a transaction is no deed, as budgets and factories do not look at it. -/
theorem still_putTransaction (r : Realm κ) (i : Nat) (x : Transaction κ) :
    Still r (putTransaction i x r) :=
  still_of_same (evolves_putTransaction r x) (fun _ _ => rfl) (fun _ _ => rfl) List.prefix_rfl

theorem still_newTransaction (r : Realm κ) (x : Transaction κ) :
    Still r (putTransaction r.next x { r with next := r.next + 1 }) :=
  still_of_same (.single (.aside rfl rfl (Nat.le_succ _))) (fun _ _ => rfl) (fun _ _ => rfl)
    List.prefix_rfl

/-! ## Charges and administration -/

/-- **A charge** explains what it leaves, taken or refused. -/
theorem explained_charge (r : Realm κ) (k : Nat) (steps : Numeral) :
    (∃ e, (r.budget k).charge steps = .error e ∧ Explained [(.charge k steps, r)] r r) ∨
      ∃ b, (r.budget k).charge steps = .ok b ∧
        Explained [(.charge k steps, r)] r (r.putBudget k b) := by
  cases hCharge : (r.budget k).charge steps with
  | error e =>
    refine .inl ⟨e, rfl, .refl, fun m _ => ?_, fun _ _ => rfl,
      (fun _ _ _ hMem => by cases List.mem_singleton.1 hMem), List.prefix_rfl⟩
    -- a charge that is refused does not count
    have hNone : (Deed.charge k steps).charged m r = 0 := by
      refine if_neg ?_
      rintro ⟨rfl, hTaken⟩
      rw [hCharge] at hTaken
      cases hTaken
    simp [Deed.spend, hNone, Deed.attempted]
  | ok b =>
    refine .inr ⟨b, rfl, Attentive.charges hCharge, fun m _ => ?_, fun _ _ => rfl,
      (fun _ _ _ hMem => by cases List.mem_singleton.1 hMem), List.prefix_rfl⟩
    rw [budget_putBudget]
    by_cases hm : m = k
    · subst hm
      have hTaken : (Deed.charge m steps).charged m r = steps.toInt :=
        if_pos ⟨rfl, by rw [hCharge]; rfl⟩
      obtain ⟨-, -, rfl⟩ := Budget.charge_eq_ok_iff.1 hCharge
      simp [Deed.spend, hTaken, Deed.attempted]
    · have hNone : (Deed.charge k steps).charged m r = 0 :=
        if_neg fun hTaken => hm hTaken.1.symm
      simp [Deed.spend, hNone, Deed.attempted, hm]

/-- **An administrative call** explains what it leaves, whether the configuration takes it or not.
-/
theorem explained_administer (a : Factory.Administration) (i : Nat) (r : Realm κ) :
    Explained [(.administer i a, r)] r (ends (a.act i) r).2 := by
  rcases a.act_outcome i r with ⟨e, hRefused, hEnd⟩ | ⟨recipe, hTaken, hEnd⟩
  -- a refused change configures nothing, and neither way is a budget spent
  · rw [ends_of_error hEnd]
    refine ⟨.refl, fun k _ => ?_, fun m _ => ?_,
      (fun _ _ _ hMem => by cases List.mem_singleton.1 hMem), List.prefix_rfl⟩
    · simp [Deed.spend, Deed.charged, Deed.attempted]
    · by_cases hm : i = m
      · subst hm
        simp [Deed.configure, hRefused]
      · simp [Deed.configure, hm]
  · rw [ends_of_ok hEnd]
    refine ⟨Attentive.administers hEnd, fun k _ => ?_, fun m _ => ?_,
      (fun _ _ _ hMem => by cases List.mem_singleton.1 hMem), List.prefix_append _ _⟩
    · show r.budget k = _
      simp [Deed.spend, Deed.charged, Deed.attempted]
    · show ((r.putFactory i { r.factory i with configuration := .holding recipe }).factory m
        ).configuration = _
      rw [factory_putFactory]
      by_cases hm : m = i
      · subst hm
        simp [Deed.configure, hTaken]
      · simp [Deed.configure, hm, Ne.symm hm]

/-- What runs no code has no dialogue but its end. -/
theorem conversesFrom_of_explained {α : Type} {x : Act κ α} (h : Explained ds r (ends x r).2) :
    ConversesFrom Still (Explained ds r) (fun _ : κ → Act κ Unit => x) r :=
  ⟨.done _ _, fun _ => rfl, h⟩

/-! ## Operations -/

section Operations

variable {o : Operation} {j : Nat} {recipe : Recipe} {p : Purse} {b : Workbench}
  {res : Except Error o.Result}

/-- An operation explains a realm in which its work is done, and no budget has been charged but its
own, and that with the registrations that it has attempted. -/
theorem explained_operate (hEvolves : r.Evolves t) (hTrace : r.trace <+: t.trace)
    (hFactories : ∀ m, t.factory m = r.factory m) (hWorks : Wrought i o r t)
    (hCharged : ∀ k, o.budget = .object .budget k →
      t.budget k = { r.budget k with used := (r.budget k).used + o.attempts i r })
    (hBudgets : ∀ k, o.budget ≠ .object .budget k → t.budget k = r.budget k) :
    Explained [(.operate i o, r)] r t where
  evolves := hEvolves
  trace := hTrace
  works i o s hMem := by
    cases List.mem_singleton.1 hMem
    exact hWorks
  configurations m _ := by rw [hFactories m]; rfl
  budgets k _ := by
    -- only the budget that the operation is handed pays for what it attempts
    by_cases hBudget : o.budget = .object .budget k
    · rw [hCharged k hBudget]
      simp [Deed.spend, Deed.charged, Deed.attempted_operate hBudget]
    · rw [hBudgets k hBudget]
      simp [Deed.spend, Deed.charged, Deed.attempted_operate_of_ne hBudget]

/-- Where an operation does not get to work, there is nothing that it would have wrought. -/
theorem wrought_of_barred (h : o.Barred i r) : Wrought i o r t := by
  intro j recipe p res b hLedger hRecipe hPurse hWork
  cases h with
  | blank hBlank =>
    rw [hRecipe] at hBlank
    cases hBlank
  | unpaid hNone =>
    rw [hPurse] at hNone
    cases hNone
  | astray hAstray => exact absurd hLedger (hAstray j)

/-- An operation that does not get to work changes nothing. -/
theorem explained_of_barred (h : o.Barred i r) : Explained [(.operate i o, r)] r r :=
  explained_operate .refl List.prefix_rfl (fun _ => rfl) (wrought_of_barred h)
    (fun k _ => by simp [Operation.attempts_of_barred h]) fun _ _ => rfl

/-- A purse that has not paid is kept without a difference. -/
theorem budget_kept_of_unpaid (hSame : ∀ k, o.budget = .object .budget k → p = .budget (r.budget k))
    (k : Nat) : (r.kept p o.budget).budget k = r.budget k := by
  -- a budget that has paid nothing is put back as it was
  by_cases hBudget : ∃ m, o.budget = .object .budget m
  · obtain ⟨m, hm⟩ := hBudget
    rw [hm, hSame m hm]
    show (r.putBudget m (r.budget m)).budget k = _
    rw [budget_putBudget]
    split
    · rename_i hk
      rw [hk]
    · rfl
  · rw [kept_of_ne (fun m hm => hBudget ⟨m, hm⟩)]

/-- Nor does it if its purse is kept. -/
theorem explained_kept_of_barred (h : o.Barred i r)
    (hSame : ∀ k, o.budget = .object .budget k → p = .budget (r.budget k)) :
    Explained [(.operate i o, r)] r (r.kept p o.budget) := by
  obtain ⟨budgets, hKept⟩ := r.kept_eq p o.budget
  have hTrace : (r.kept p o.budget).trace = r.trace := by simp only [hKept]
  have hFactories : ∀ m, (r.kept p o.budget).factory m = r.factory m := by
    intro m
    simp only [hKept, factory]
  refine explained_operate (onward_kept hSame) ⟨[], by rw [hTrace, List.append_nil]⟩ hFactories
    (wrought_of_barred h) (fun k _ => ?_) fun k _ => budget_kept_of_unpaid hSame k
  rw [budget_kept_of_unpaid hSame k]
  simp [Operation.attempts_of_barred h]

/-- **When the work of an operation is done**, the operation explains what has become of the realm.
-/
theorem explained_of_begun (hLedger : (r.factory i).ledger = .object .ledger j)
    (hRecipe : (r.factory i).configuration = .holding recipe)
    (hPurse : o.purse (r.factory i) r = .ok p r)
    (hWork : ends (o.work recipe (r.catalogFor j)) ⟨r.site j, p, []⟩ = (res, b))
    (h : o.Begun j r p b t) : Explained [(.operate i o, r)] r t := by
  obtain ⟨hPaid, hMost⟩ := Operation.purse_of_work hLedger hRecipe hPurse hWork
  have hSame : ∀ k, o.budget = .object .budget k → p = .budget (r.budget k) := by
    rcases o.purse_outcome (r.factory i) r with ⟨e, hNone⟩ | ⟨q, hPays, hSame⟩
    · rw [hPurse] at hNone
      cases hNone
    · rw [hPurse] at hPays
      cases hPays
      exact hSame
  have hEvolves : r.Evolves t := onward_begun hLedger hRecipe hPurse hWork h
  have hWorks : Wrought i o r t := by
    intro j' recipe' p' res' b' hLedger' hRecipe' hPurse' hWork'
    cases hLedger.symm.trans hLedger'
    cases hRecipe.symm.trans hRecipe'
    cases hPurse.symm.trans hPurse'
    cases hWork.symm.trans hWork'
    exact ⟨t, hEvolves, scene_of_begun h, .refl⟩
  -- an operation about no parts has attempted nothing
  have hNothing : o.size = 0 → ∀ k, o.budget = .object .budget k →
      r.budget k = { r.budget k with used := (r.budget k).used + o.attempts i r } := by
    intro hSize k _
    have hNone : o.attempts i r = 0 := Nat.le_zero.1 (hSize ▸ hMost)
    simp [hNone]
  cases h with
  | kept =>
    obtain ⟨budgets, hKept⟩ := (r.closed j b.site).kept_eq b.purse o.budget
    have hFactories : ∀ m, ((r.closed j b.site).kept b.purse o.budget).factory m = r.factory m := by
      rw [hKept]
      exact fun _ => rfl
    refine explained_operate hEvolves ?_ hFactories hWorks (fun k hk => ?_) fun k hk => ?_
    · rw [hKept]
      exact List.prefix_append _ _
    · rw [hPaid, hSame k hk, hk]
      show ((r.closed j b.site).putBudget k _).budget k = _
      rw [budget_putBudget, if_pos rfl]
    · by_cases hBudget : ∃ m, o.budget = .object .budget m
      · obtain ⟨m, hm⟩ := hBudget
        have hNe : k ≠ m := fun hEq => hk (by rw [hm, hEq])
        rw [hPaid, hSame m hm, hm]
        show ((r.closed j b.site).putBudget m _).budget k = _
        rw [budget_putBudget, if_neg hNe]
        rfl
      · rw [kept_of_ne (fun m hm => hBudget ⟨m, hm⟩)]
        rfl
  | closed hSize =>
    exact explained_operate hEvolves (List.prefix_append _ _) (fun _ => rfl) hWorks
      (hNothing hSize) fun _ _ => rfl
  | idle hSize _ =>
    exact explained_operate hEvolves List.prefix_rfl (fun _ => rfl) hWorks (hNothing hSize)
      fun _ _ => rfl

/-- **From its work on, an operation goes on without deeds**, but for the code that it runs. -/
theorem conversesFrom_act (o : Operation) (i : Nat) (r : Realm κ) :
    ConversesFrom Still (Explained [(.operate i o, r)] r)
      (fun run : κ → Act κ Unit => o.act run i) r := by
  have hBegins := o.act_cases (F := Explained [(.operate i o, r)] r) i r explained_of_barred
    (fun hBarred _ hSame => explained_kept_of_barred hBarred hSame)
    (fun r₁ e hDone => hDone.still (onward_appendTrace (by simp [Entry.isSetting,
      LogRecord.isSetting]) r₁))
    explained_of_begun
  -- an operation fails before it asks anything, or it works in silence and then tells its sink
  rcases hBegins with ⟨e, r₁, hDone, hAct⟩ | ⟨r₁, journal, res, p, hDone, hAct⟩
  · exact ⟨.done (.error e) r₁, fun run => ends_of_error (hAct run), hDone⟩
  · have hEnd : Converses Still fun run : κ → Act κ Unit =>
        Factory.conclude run (r.factory i) journal res o.events >>= o.farewell p :=
      (converses_conclude _ _ _ _).bind fun a => converses_of_leads (onward_farewell p o a)
    refine ((hEnd r₁).mono fun s hOn => hDone.still hOn).of_ends fun run => ?_
    rw [ends, ends, hAct run]

end Operations

end Realm

/-! ## What deeds make of a budget -/

namespace Deed

variable {k i : Nat} {r : Realm κ}

/-- All that budget `k` has been charged directly. -/
def allCharged (k : Nat) (ds : List (Deed × Realm κ)) : Int :=
  ds.foldr (fun d n => d.1.charged k d.2 + n) 0

/-- All registrations that have been attempted under budget `k`. -/
def allAttempted (k : Nat) (ds : List (Deed × Realm κ)) : Nat :=
  ds.foldr (fun d n => d.1.attempted k d.2 + n) 0

/-- A charge that a budget takes is of one step at least. -/
theorem charged_nonneg (k : Nat) (r : Realm κ) (d : Deed) : 0 ≤ d.charged k r := by
  cases d with
  | administer i a => exact Int.le_refl 0
  | operate i o => exact Int.le_refl 0
  | charge k' steps =>
    rw [charged]
    split
    · rename_i hTaken
      cases hCharge : (r.budget k).charge steps with
      | error e =>
        rw [hCharge] at hTaken
        cases hTaken.2
      | ok b =>
        have hStep := (Budget.charge_eq_ok_iff.1 hCharge).1
        omega
    · exact Int.le_refl 0

/-- Charges never give steps back, so all of them together do not either. -/
theorem allCharged_nonneg (k : Nat) (ds : List (Deed × Realm κ)) : 0 ≤ allCharged k ds := by
  induction ds with
  | nil => exact Int.le_refl 0
  | cons d rest ih => exact Int.add_nonneg (charged_nonneg k d.2 d.1) ih

/-- **Deeds add up**: a budget has taken what it has been charged, and the attempted registrations.
-/
theorem foldl_spend (k : Nat) (b : Budget) (ds : List (Deed × Realm κ)) :
    ds.foldl (spend k) b = { b with used := b.used + allCharged k ds + allAttempted k ds } := by
  induction ds generalizing b with
  | nil => simp [allCharged, allAttempted]
  | cons d rest ih =>
    rw [List.foldl_cons, ih]
    simp only [spend, allCharged, allAttempted, List.foldr_cons]
    congr 1
    omega

/-- A purse with a budget in it charges the budget when it pays. -/
theorem reached_of_pays {b : Budget} {p : Purse} (h : (Purse.budget b).Pays p) (hb : b.Reached) :
    ∃ b', p = .budget b' ∧ b'.Reached := by
  induction h with
  | refl => exact ⟨b, rfl, hb⟩
  | tail _ hPay ih =>
    obtain ⟨_, rfl, hReached⟩ := ih
    obtain ⟨b₁, b₂, hSame, hCharge, rfl⟩ := Purse.payStep_eq_ok_iff.1 hPay
    cases hSame
    exact ⟨b₂, rfl, hReached.charge hCharge⟩

/-- What an operation leaves of its budget has come about by charges. -/
theorem reached_attempts {o : Operation} (hBudget : o.budget = .object .budget k)
    (hReached : (r.budget k).Reached) :
    Budget.Reached { r.budget k with used := (r.budget k).used + o.attempts i r } := by
  rcases o.barred_or_equipped i r with hBarred | ⟨j, recipe, p, hLedger, hRecipe, hPurse, hSame⟩
  · rw [Operation.attempts_of_barred hBarred]
    simpa using hReached
  · rcases hWork : ends (o.work recipe (r.catalogFor j)) ⟨r.site j, p, []⟩ with ⟨res, b⟩
    have hPays := (Operation.follows_work hWork).purse
    rw [(Operation.purse_of_work hLedger hRecipe hPurse hWork).1, hSame k hBudget] at hPays
    -- the work pays step by step, and stops where the limit is
    obtain ⟨b', hLeft, hReached'⟩ := reached_of_pays hPays hReached
    cases hLeft
    exact hReached'

/-- **What a deed makes of a budget has come about by charges.** -/
theorem reached_spend (d : Deed) (hReached : (r.budget k).Reached) :
    (spend k (r.budget k) (d, r)).Reached := by
  have hIdle : (d.charged k r = 0 ∧ d.attempted k r = 0) →
      (spend k (r.budget k) (d, r)).Reached := by
    rintro ⟨hCharged, hAttempted⟩
    simpa [spend, hCharged, hAttempted] using hReached
  cases d with
  | administer i a => exact hIdle ⟨rfl, rfl⟩
  -- a charge counts if it is one of this budget, and is taken
  | charge k' steps =>
    by_cases hTaken : k' = k ∧ ((r.budget k).charge steps).isOk = true
    · cases hCharge : (r.budget k).charge steps with
      | error e =>
        rw [hCharge] at hTaken
        cases hTaken.2
      | ok b =>
        obtain ⟨-, -, hb⟩ := Budget.charge_eq_ok_iff.1 hCharge
        have hSpent : spend k (r.budget k) (charge k' steps, r) = b := by
          simp [spend, charged, attempted, hTaken, hb]
        rw [hSpent]
        exact hReached.charge hCharge
    · exact hIdle ⟨if_neg hTaken, rfl⟩
  | operate i o =>
    by_cases hBudget : o.budget = .object .budget k
    · simpa [spend, charged, attempted_operate hBudget] using
        reached_attempts (i := i) hBudget hReached
    · exact hIdle ⟨rfl, attempted_operate_of_ne hBudget⟩

end Deed

end WorldForge

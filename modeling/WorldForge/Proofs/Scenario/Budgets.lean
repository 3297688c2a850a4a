import WorldForge.Proofs.Scenario.Announcements
import WorldForge.Proofs.Scenario.Walks

/-!
# The accounts of budgets

Charges to a budget and operations that are paid from it come in any order, and operations run other
code, in which the same budget may be charged. Nevertheless a budget always accounts for all that
has been done with it: what it has taken is the sum of all charges, and one step for each
registration that a factory has attempted, and nothing is ever given back.

Main results:

* `Walk.reached` — wherever a walk has come, budgets have come about by charges;
* `budget_accounts` — a budget accounts for all deeds since it was made, and keeps to its limit.
-/

namespace WorldForge.Scenario

variable {r₀ r r' : Realm Code} {hs : List (Deed × Realm Code)} {k : Nat} {limit : Option Numeral}

/-! ## On the way -/

/-- **Wherever a walk has come, a budget has come about by charges.** -/
theorem Walk.reached (h : Walk r₀ hs r) (hk : k < r₀.next) (hReached : (r₀.budget k).Reached) :
    (r.budget k).Reached := by
  refine (h.holds (V := fun _ r => k < r.next ∧ (r.budget k).Reached)
    (fun _ r t hStill hHere => ?_) (fun _ s r t hDone hHere => ?_) ⟨hk, hReached⟩).2
  -- what is no deed leaves budgets alone
  · refine ⟨Nat.lt_of_lt_of_le hHere.1 hStill.next_le, ?_⟩
    rw [hStill.budgets k hHere.1]
    exact hHere.2
  · refine ⟨Nat.lt_of_lt_of_le hHere.1 hDone.next_le, ?_⟩
    rw [hDone.budgets k hHere.1]
    rcases s.deeds_cases r with hNone | ⟨d, hOne⟩
    · rw [hNone]
      exact hHere.2
    · rw [hOne]
      exact Deed.reached_spend d hHere.2

/-- **What a walk makes of a budget** is the sum of its deeds. -/
theorem Walk.budget_eq (h : Walk r₀ hs r) (hk : k < r₀.next) :
    r.budget k = { r₀.budget k with
      used := (r₀.budget k).used + Deed.allCharged k hs + Deed.allAttempted k hs } := by
  rw [h.explained.budgets k hk, Deed.foldl_spend]

/-- **How a direct charge comes out.** If it raises, everything stays as it is, and nothing has been
charged; and if it does not, it is a deed of as many steps as are counted. -/
inductive Charged (run : Code → Act Code Unit) (k : Nat) (r : Realm Code) (args : List Value)
    (given : Option Value) : Prop
  | raises {e : Error}
      (hEnd : Call.invoke run (.object .budget k) .charge args given r = .error e r)
      (hNone : ∀ d, Call.deed? (.object .budget k) .charge args given = some d → d.charged k r = 0)
  | takes {n : Numeral}
      (hEnd : Call.invoke run (.object .budget k) .charge args given r = .ok (.value .null)
        (r.putBudget k { r.budget k with used := (r.budget k).used + n.toInt }))
      (hDeed : Call.deed? (.object .budget k) .charge args given = some (.charge k n))
      (hCharged : (Deed.charge k n).charged k r = n.toInt)

/-- **A charge comes out in one of its ways**, by the arguments with which it is called. The cases
are gone through as the call goes through them. -/
theorem charged_of_call (run : Code → Act Code Unit) (k : Nat) (r : Realm Code) (args : List Value)
    (given : Option Value) : Charged run k r args given := by
  -- once the number of steps is known, the budget takes them all or none
  have hSteps : ∀ n, Call.deed? (.object .budget k) .charge args given = some (.charge k n) →
      Call.invoke run (.object .budget k) .charge args given r =
        Call.onBudget.charge k (r.budget k) n r → Charged run k r args given := by
    intro n hDeed hCall
    unfold Call.onBudget.charge at hCall
    cases hTaken : (r.budget k).charge n with
    | error e =>
      rw [hTaken] at hCall
      refine .raises hCall fun d hd => ?_
      obtain rfl := Option.some.inj (hDeed.symm.trans hd)
      exact if_neg fun hOk => by rw [hTaken] at hOk; cases hOk.2
    | ok b =>
      rw [hTaken] at hCall
      obtain ⟨-, -, rfl⟩ := Budget.charge_eq_ok_iff.1 hTaken
      exact .takes hCall hDeed (if_pos ⟨rfl, by rw [hTaken]; rfl⟩)
  cases given with
  | some b => exact .raises rfl fun d hd => by cases hd
  | none =>
    match args with
    | [] => exact hSteps (.number 1) rfl rfl
    | [v] =>
      have hDeed : Call.deed? (.object .budget k) .charge [v] none =
          v.asSteps.toOption.map (Deed.charge k) := rfl
      have hInvoke : Call.invoke run (.object .budget k) .charge [v] none r =
          (orRaise .budget v.asSteps >>= fun n => Call.onBudget.charge k (r.budget k) n) r := rfl
      cases hNumber : v.asSteps with
      -- what counts no steps is refused before the budget is asked
      | error e =>
        rw [hNumber] at hInvoke hDeed
        refine .raises hInvoke fun d hd => ?_
        rw [hDeed] at hd
        cases hd
      | ok n =>
        rw [hNumber] at hInvoke hDeed
        exact hSteps n hDeed hInvoke
    | _ :: _ :: _ => exact .raises rfl fun d hd => by cases hd

/-! ## Accounts -/

/-- **A budget accounts for deeds**: since it was made with a limit, it has taken what it was
charged and one step for each registration that was attempted under it, and it has kept to the
limit. -/
structure Accounts (k : Nat) (limit : Option Numeral) (hs : List (Deed × Realm Code)) (b : Budget) :
    Prop where
  limit_eq : b.limit = limit
  used_eq : b.used = Deed.allCharged k hs + Deed.allAttempted k hs
  metered : ∀ l, limit = some l → 0 ≤ b.used ∧ b.used ≤ l.toInt ∧
    b.remaining? = some (l.toInt - b.used) ∧ 0 ≤ l.toInt - b.used ∧
    Deed.allAttempted k hs ≤ l.toInt

/-- **A budget accounts for everything that has been done with it**, wherever a walk has come since
it was made. What is counted are the charges and the registrations that were attempted by the deeds
on the walk, and a walk comes through all the code that its steps run and through nothing else
(`Step.mem_passages_iff`), in the order in which it is run (`Step.passages_pairwise`). -/
theorem budget_accounts (hk : k < r₀.next) (hFresh : Budget.ofLimit? limit = .ok (r₀.budget k)) :
    (∀ r, After r₀ r → ∃ hs, Walk r₀ hs r) ∧
    (∀ hs r, Walk r₀ hs r → Accounts k limit hs (r.budget k)) ∧
    (∀ r r', After r₀ r → After r r' → (r.budget k).used ≤ (r'.budget k).used) ∧
    ∀ run r args given, Charged run k r args given := by
  obtain ⟨hLimit, hUsed, -⟩ := Budget.ofLimit?_eq_ok hFresh
  refine ⟨fun r => exists_walk_of_after, fun hs r hWalk => ?_, fun r r' hAfter hOn => ?_,
    fun run r args given => charged_of_call run k r args given⟩
  · have hNow := hWalk.budget_eq hk
    have hReached := hWalk.reached hk (.fresh hFresh)
    have hTaken : (r.budget k).used = Deed.allCharged k hs + Deed.allAttempted k hs := by
      rw [hNow]
      simp [hUsed]
    have hKept : (r.budget k).limit = limit := by
      rw [hNow]
      exact hLimit
    -- nothing counts below zero, so neither part is more than their sum
    refine ⟨hKept, hTaken, fun l hl => ?_⟩
    obtain ⟨hLow, hHigh⟩ := hReached.used_bounds
    have hWithin := hHigh l (hKept.trans hl)
    have hCharged := Deed.allCharged_nonneg k hs
    refine ⟨hLow, hWithin, ?_, by omega, by omega⟩
    rw [Budget.remaining?, hKept, hl]
    rfl
  -- what is used only grows, as each deed of the walk adds to it or leaves it
  · obtain ⟨hs, hWalk⟩ := exists_walk_of_after hAfter
    obtain ⟨hs', hWalkOn⟩ := exists_walk_of_after hOn
    have hHere : k < r.next := Nat.lt_of_lt_of_le hk hWalk.explained.next_le
    have hCharged := Deed.allCharged_nonneg k hs'
    rw [hWalkOn.budget_eq hHere]
    show _ ≤ _ + _ + _
    omega

/-! ## In the small session -/

namespace Rehearsal

/-- Makes a budget of two steps. It is object 4. -/
def funding : Step := .mk (.create .budget) ⟨[.value (.int 2)], none, none⟩ (some "budget") false

/-- A spawn that fails at the first part, and two charges. -/
def spending : Code :=
  [.mk (.call .spawn) ⟨[.value (.str "pit"), .list [world]], some "factory", some "budget"⟩
    none false,
   calling "budget" .charge [] none,
   calling "budget" .charge [] none]

/-- The realm when the budget has been made. -/
def funded : Realm Code := (ends (funding.run (runCode 3)) ready).2

/-- The realm when the budget has been used up. -/
def spent : Realm Code := spending.foldl (fun r s => (ends (s.run (runCode 3)) r).2) funded

end Rehearsal

/-- Of the two steps, one is taken by a registration that is rejected, and one by the first charge;
and the budget stays used up. -/
theorem budget_accounts_rehearsal :
    (∃ hs, Walk Rehearsal.funded hs Rehearsal.spent ∧
      Deed.allCharged 4 hs + Deed.allAttempted 4 hs = 2) ∧
    ∀ r, After Rehearsal.spent r → (r.budget 4).used = 2 := by
  have hThere : 4 < Rehearsal.funded.next := by decide +kernel
  have hFresh : Budget.ofLimit? (some (.number 2)) = .ok (Rehearsal.funded.budget 4) := by
    decide +kernel
  have hUsed : (Rehearsal.spent.budget 4).used = 2 := by decide +kernel
  obtain ⟨hWalks, hAccounts, hGrows, -⟩ := budget_accounts hThere hFresh
  have hSpent : After Rehearsal.funded Rehearsal.spent := (later_foldl 3 _ _).after
  obtain ⟨hs, hWalk⟩ := hWalks _ hSpent
  refine ⟨⟨hs, hWalk, ?_⟩, fun r hAfter => ?_⟩
  · rw [← (hAccounts hs _ hWalk).used_eq, hUsed]
  -- two steps were paid for, and the limit is two
  · obtain ⟨hs', hOn⟩ := exists_walk_of_after hAfter
    have hMost := ((hAccounts _ _ (hWalk.trans hOn)).metered _ rfl).2.1
    have hLeast := hGrows _ _ hSpent hAfter
    rw [hUsed] at hLeast
    exact Int.le_antisymm hMost hLeast

end WorldForge.Scenario

import WorldForge.Budget

/-!
# What budgets cover

A budget covers a number of steps if it has no limit, or if at least as many steps are left. Steps
are charged one by one, so what matters is when one step is covered (`covers_one_iff`), and what is
covered after it (`covers_add_iff`). A budget that has been overdrawn does not even cover no steps;
but charging never overdraws one (`Reached.covers_zero`).
-/

namespace WorldForge.Budget

variable {b b' : Budget} {n : Nat} {limit : Option Numeral}

/-- The budgets that come about by charging. -/
inductive Reached : Budget → Prop
  | fresh {limit : Option Numeral} {b : Budget} (h : ofLimit? limit = .ok b) : Reached b
  | charge {b b' : Budget} {steps : Numeral} (h : Reached b)
      (hCharge : b.charge steps = .ok b') : Reached b'

/-- A number of steps can still be charged. -/
def Covers (b : Budget) (n : Nat) : Prop := ∀ left, b.remaining? = some left → (n : Int) ≤ left

/-- A budget covers a number of further steps exactly if it has no limit, or if its limit is not
passed by them. -/
theorem covers_iff :
    b.Covers n ↔ ∀ limit, b.limit = some limit → b.used + n ≤ limit.toInt := by
  obtain ⟨_ | limit, used⟩ := b
  · simp [Covers, remaining?]
  · simp only [Covers, remaining?, Option.map_some, Option.some.injEq, forall_eq']
    omega

/-- What is covered after some steps was covered together with them. -/
theorem covers_add_iff {m : Nat} :
    ({ b with used := b.used + m } : Budget).Covers n ↔ b.Covers (m + n) := by
  rw [covers_iff, covers_iff]
  constructor
  · intro h limit hLimit
    have hRest : b.used + m + n ≤ limit.toInt := h limit hLimit
    omega
  · intro h limit hLimit
    have hAll := h limit hLimit
    show b.used + m + n ≤ _
    omega

/-- A budget that covers some steps covers fewer of them, too. -/
theorem Covers.mono {m : Nat} (h : b.Covers n) (hm : m ≤ n) : b.Covers m := by
  rw [covers_iff] at h ⊢
  intro limit hLimit
  have hAll := h limit hLimit
  omega

/-- A budget that could be made has the limit that was asked for, which is not below zero, and
nothing is used of it. -/
theorem ofLimit?_eq_ok (h : ofLimit? limit = .ok b) :
    b.limit = limit ∧ b.used = 0 ∧ ∀ m, limit = some m → 0 ≤ m.toInt := by
  cases limit with
  | none =>
    cases h
    exact ⟨rfl, rfl, fun m hm => by cases hm⟩
  | some m =>
    rw [ofLimit?] at h
    split at h
    · cases h
    · cases h
      refine ⟨rfl, rfl, fun m' hm => ?_⟩
      cases hm
      omega

/-- **No budget is overdrawn**, and none has taken fewer than no steps. -/
theorem Reached.used_bounds (h : b.Reached) :
    0 ≤ b.used ∧ ∀ limit, b.limit = some limit → b.used ≤ limit.toInt := by
  induction h with
  | fresh hFresh =>
    obtain ⟨hLimit, hUsed, hBound⟩ := ofLimit?_eq_ok hFresh
    rw [hUsed, hLimit]
    exact ⟨Int.le_refl 0, hBound⟩
  -- a charge is of one step at least, and is refused beyond the limit
  | charge _ hCharge ih =>
    obtain ⟨hStep, hWithin, rfl⟩ := charge_eq_ok_iff.1 hCharge
    refine ⟨?_, hWithin⟩
    have hUsed := ih.1
    show 0 ≤ _ + _
    omega

/-- No budget that has been reached is overdrawn: what is used stays within the limit, so no further
steps are always covered. -/
theorem Reached.covers_zero (h : b.Reached) : b.Covers 0 := by
  rw [covers_iff]
  intro limit hLimit
  have hWithin := h.used_bounds.2 limit hLimit
  omega

/-- A step is covered exactly if it can be charged. -/
theorem covers_one_iff : b.Covers 1 ↔ ∃ b', b.charge (.number 1) = .ok b' := by
  rw [covers_iff]
  constructor
  · intro h
    exact ⟨_, charge_eq_ok_iff.2 ⟨Int.le_refl 1, h, rfl⟩⟩
  · rintro ⟨b', hCharge⟩
    exact (charge_eq_ok_iff.1 hCharge).2.1

end WorldForge.Budget

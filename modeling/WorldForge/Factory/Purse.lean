import WorldForge.Error.Basic

/-!
# Purses

What pays for the steps of an operation is a budget as a rule. If something else was handed over
for one, this comes out only when a step is to be paid for, or when the steps are counted.
-/

namespace WorldForge

/-- What pays for steps. -/
inductive Purse where
  | budget (b : Budget)
  | other (given : Value)

namespace Purse

/-- The purse after one step has been paid for. -/
def payStep : Purse → Except Error Purse
  | budget b =>
    match b.charge (.number 1) with
    | .error e => .error e
    | .ok b => .ok (.budget b)
  | other v => .error (.lacking v "charge")

/-- The steps that have been paid for. -/
def used : Purse → Except Error Int
  | budget b => .ok b.used
  | other v => .error (.lacking v "used")

@[simp] theorem used_budget (b : Budget) : (budget b).used = .ok b.used := rfl

end Purse

end WorldForge

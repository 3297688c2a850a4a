import WorldForge.Error.Kind
import WorldForge.Value

/-!
# Step budgets

Registering a part costs a step. A budget counts the steps that have been charged to it, and if it
has a limit it refuses a charge that would go beyond, before anything is counted.

* `charge_eq_ok_iff` — a charge is taken exactly if it is at least one step and within the limit.
-/

namespace WorldForge

/-- The steps charged so far, and how many are allowed; without a limit, any number. -/
structure Budget where
  limit : Option Numeral
  used : Int
  deriving DecidableEq

/-- Why a budget cannot be made or charged. -/
inductive BudgetError where
  /-- What stands for a number of steps cannot be compared with one. -/
  | notNumber (typeName : String)
  | negativeLimit (limit : Numeral)
  | noStep (steps : Numeral)
  | exhausted (limit : Numeral) (used : Int)
  deriving DecidableEq

namespace BudgetError

def kind : BudgetError → ErrorKind
  | notNumber _ => .badType
  | negativeLimit _ | noStep _ => .badValue
  | exhausted .. => .outOfBudget

def message : BudgetError → String
  | notNumber typeName =>
    "'<' not supported between instances of '" ++ typeName ++ "' and 'int'"
  | negativeLimit n => "Step limit must be >= 0, got " ++ n.text
  | noStep n => "Must charge at least one step, got " ++ n.text
  | exhausted limit used =>
    "Step budget exhausted: " ++ toString used ++ "/" ++ limit.text ++ " steps used"

end BudgetError

/-- The number of steps that a value is. -/
def Value.asSteps (v : Value) : Except BudgetError Numeral :=
  match v.numeral? with
  | none => .error (.notNumber v.typeName)
  | some n => .ok n

namespace Budget

/-- The budget that only counts. -/
def unmetered : Budget := ⟨none, 0⟩

instance : Inhabited Budget := ⟨unmetered⟩

/-- A fresh budget. A limit below zero is refused. -/
def ofLimit? : Option Numeral → Except BudgetError Budget
  | none => .ok unmetered
  | some n => if n.toInt < 0 then .error (.negativeLimit n) else .ok ⟨some n, 0⟩

/-- A fresh budget of the number of steps that a value is; null stands for no limit. -/
def ofValue : Value → Except BudgetError Budget
  | .null => ofLimit? none
  | v => v.asSteps.bind fun n => ofLimit? (some n)

def isMetered (b : Budget) : Bool := b.limit.isSome

/-- The steps left, if there is a limit. -/
def remaining? (b : Budget) : Option Int := b.limit.map (·.toInt - b.used)

/-- Charges steps, at least one. -/
def charge (b : Budget) (steps : Numeral) : Except BudgetError Budget :=
  if steps.toInt < 1 then .error (.noStep steps)
  else
    match b.limit with
    | none => .ok { b with used := b.used + steps.toInt }
    | some limit =>
      if b.used + steps.toInt > limit.toInt then .error (.exhausted limit b.used)
      else .ok { b with used := b.used + steps.toInt }

/-- **When a charge goes through**: at least one step is charged, and if there is a limit, the steps
used so far and these stay within it. Nothing but the number of used steps changes. -/
theorem charge_eq_ok_iff {b b' : Budget} {steps : Numeral} :
    b.charge steps = .ok b' ↔
      1 ≤ steps.toInt ∧
        (∀ limit, b.limit = some limit → b.used + steps.toInt ≤ limit.toInt) ∧
        { b with used := b.used + steps.toInt } = b' := by
  by_cases hStep : steps.toInt < 1
  · simp [charge, hStep, Int.not_le.2 hStep]
  · have hOne : 1 ≤ steps.toInt := Int.not_lt.1 hStep
    -- what is at least one step is refused only beyond a limit
    obtain ⟨_ | limit, used⟩ := b
    · simp [charge, hStep, hOne]
    · by_cases hLimit : used + steps.toInt > limit.toInt
      · simp [charge, hStep, hLimit, Int.not_le.2 hLimit]
      · simp [charge, hStep, hOne, hLimit, Int.not_lt.1 hLimit]

end Budget

end WorldForge

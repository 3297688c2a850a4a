import WorldForge.Text.Literal

/-!
# Numerals

Where a number is asked for, a truth value may stand, and counts as one or zero. Messages and
answers show it as it was given.
-/

namespace WorldForge

/-- A number as it was given. -/
inductive Numeral where
  | number (n : Int)
  | truth (b : Bool)
  deriving DecidableEq

namespace Numeral

/-- What a numeral counts as. -/
def toInt : Numeral → Int
  | number n => n
  | truth b => if b then 1 else 0

@[simp] theorem toInt_number (n : Int) : (number n).toInt = n := rfl

def text : Numeral → String
  | number n => toString n
  | truth b => Text.truth b

end Numeral

end WorldForge

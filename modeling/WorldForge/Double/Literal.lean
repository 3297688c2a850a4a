import WorldForge.Double

/-!
# Decimal text of floating-point numbers

A floating-point number is written with the fewest digits that read back as the same number, and of
those with the digits nearest to it. What reads back is what lies no farther from the number than
half the way to its neighbours; halfway itself reads back if the significand is even.

Numbers are compared on grids: the multiples of a power of ten. A grid is as fine as its place
says, and on each a number lies between two neighbours. The first grid that is tried is that of the
leading digit; then each is ten times as fine as the one before.
-/

namespace WorldForge

/-- The number `digits * 10 ^ place`. -/
structure Decimal where
  digits : Nat
  place : Int
  deriving DecidableEq

namespace Decimal

/-- The same number without zeros at the end of its digits; at most `fuel` of them are taken. -/
def dropZeros : Nat → Decimal → Decimal
  | 0, d => d
  | fuel + 1, d =>
    if d.digits ≠ 0 ∧ d.digits % 10 = 0 then dropZeros fuel ⟨d.digits / 10, d.place + 1⟩ else d

/-- Zeros to fill up with. -/
def zeros (n : Nat) : List Char := List.replicate n '0'

/-- A number in positional notation; `leading` is the place of its first digit. There is always a
digit on either side of the point. -/
def positional (digits : List Char) (leading : Int) : List Char :=
  if leading < 0 then '0' :: '.' :: zeros (leading.natAbs - 1) ++ digits
  else
    let whole := leading.toNat + 1
    if digits.length ≤ whole then digits ++ zeros (whole - digits.length) ++ ['.', '0']
    else digits.take whole ++ '.' :: digits.drop whole

/-- A number by its digits, with a point after the first of several, and its exponent, which has a
sign and two digits at least. -/
def scientific (digits : List Char) (leading : Int) : List Char :=
  let exponent := Nat.toDigits 10 leading.natAbs
  let point := if 1 < digits.length then ['.'] else []
  digits.take 1 ++ point ++ digits.drop 1 ++
    'e' :: (if leading < 0 then '-' else '+') :: zeros (2 - exponent.length) ++ exponent

/-- The text of a number. It is positional for sixteen places before the point, and down to the
fourth place behind it. -/
def text (d : Decimal) : List Char :=
  let digits := Nat.toDigits 10 d.digits
  let leading := d.place + (digits.length - 1 : Nat)
  if -4 ≤ leading ∧ leading < 16 then positional digits leading else scientific digits leading

end Decimal

namespace Double

/-- A unit of a grid in terms of a number's quarter unit, which is `2 ^ (exponent - 1077)`: the
quarter unit is `numerator / denominator` of the grid's. -/
structure Scale where
  numerator : Nat
  denominator : Nat

/-- The scale of the grid at a place, for numbers of an exponent. -/
def Scale.ofGrid (exponent : Nat) (place : Int) : Scale where
  numerator := (1 <<< (exponent - 1077)) * Nat.pow 10 (-place).toNat
  denominator := (1 <<< (1077 - exponent)) * Nat.pow 10 place.toNat

/-- Whether a multiple of the grid's unit reads back as the number with a significand. The number
below a power of two is half as far away as the one above. -/
def readsBack (significand : Nat) (isNarrow : Bool) (scale : Scale) (digits : Nat) : Bool :=
  let low := (4 * significand - (if isNarrow then 1 else 2)) * scale.numerator
  let high := (4 * significand + 2) * scale.numerator
  let value := digits * scale.denominator
  if significand % 2 = 0 then low ≤ value && value ≤ high else low < value && value < high

/-- The multiple of the grid's unit that reads back, if there is one; of two the nearer, and of two
as near the even one. A grid that is too coarse for the leading digit has none. -/
def onGrid? (significand : Nat) (isNarrow : Bool) (scale : Scale) : Option Nat :=
  let value := 4 * significand * scale.numerator
  let below := value / scale.denominator
  let ok := readsBack significand isNarrow scale
  if below = 0 then none
  else if ok below && ok (below + 1) then
    let middle := (2 * below + 1) * scale.denominator
    if 2 * value < middle ∨ 2 * value = middle ∧ below % 2 = 0 then some below
    else some (below + 1)
  else if ok below then some below
  else if ok (below + 1) then some (below + 1)
  else none

/-- The places at which a grid may be needed, from that of the greatest number to those of the
last digits of the smallest. -/
def places : List Int := (List.range 660).map fun n : Nat => 308 - (n : Int)

/-- The shortest decimal that reads back as a number above zero. Seventeen digits read back
always, so one of the places has it. -/
def shortest (significand exponent : Nat) : Decimal :=
  let isNarrow := significand = 0x10000000000000 && 1 < exponent
  let found := places.findSome? fun place =>
    (onGrid? significand isNarrow (Scale.ofGrid exponent place)).map fun digits =>
      Decimal.mk digits place
  (found.getD ⟨0, 0⟩).dropZeros 17

/-- A number as it would be written down. -/
def literal : Double → String
  | finite negative significand exponent =>
    let text := if significand = 0 then ['0', '.', '0'] else (shortest significand exponent).text
    String.ofList (if negative then '-' :: text else text)
  | infinite negative => if negative then "-inf" else "inf"
  | undefined => "nan"

end Double

end WorldForge

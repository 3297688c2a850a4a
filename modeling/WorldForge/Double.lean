/-!
# Floating-point numbers

A floating-point number of 64 bits is a significand times a power of two, with a sign, unless it is
an infinity or no number at all. It is taken apart from its bits, and nothing is computed with it:
all that is asked is how it is written.
-/

namespace WorldForge

/-- A floating-point number. -/
inductive Double where
  /-- The number `significand * 2 ^ (exponent - 1075)`, with a minus sign if it is negative. -/
  | finite (negative : Bool) (significand exponent : Nat)
  | infinite (negative : Bool)
  | undefined
  deriving DecidableEq

namespace Double

/-- The floating-point number whose 64 bits are those of a natural number: the lowest 52 are the
significand's, the next 11 the exponent's, the last is the sign. -/
def ofBits (bits : Nat) : Double :=
  let negative := bits >>> 63 % 2 = 1
  let exponent := bits >>> 52 % 0x800
  let significand := bits % 0x10000000000000
  if exponent = 0x7ff then if significand = 0 then infinite negative else undefined
  -- the smallest numbers have no leading one, and share the exponent of those above them
  else if exponent = 0 then finite negative significand 1
  else finite negative (0x10000000000000 + significand) exponent

end Double

end WorldForge
